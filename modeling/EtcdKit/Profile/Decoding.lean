import EtcdKit.Profile.Basic
/-!
# Decoding — profiles from document trees

Every section and almost every field may be left out; what is left out has its value in the sample
deployment.  A key that is no field, a value of another type and a number out of range are refused.
-/
namespace EtcdKit

open Shape (orElse required)

namespace Document

def uint16? (d : Document) : Option UInt16 := (d.natBelow? UInt16.size).map UInt16.ofNat

def uint32? (d : Document) : Option UInt32 := (d.natBelow? UInt32.size).map UInt32.ofNat

def uint64? (d : Document) : Option UInt64 := (d.natBelow? UInt64.size).map UInt64.ofNat

def url? (d : Document) : Option Url := d.text?.bind Url.parse?

end Document

def Node.keys : List String :=
  ["name", "data_dir", "certs_dir", "address", "client_port", "peer_port",
    "initial_cluster_token", "initial_cluster_state"]

def Node.ofDocument? (format : Format) (d : Document) : Option Node := do
  match ← d.fields? format keys with
  | [name, dataDir, certsDir, address, clientPort, peerPort, token, state] =>
    return {
      name := ← required Document.text? name
      dataDir := ← orElse none Document.optionalText? dataDir
      certsDir := ← orElse none Document.optionalText? certsDir
      address := ← required Document.text? address
      clientPort := ← required Document.uint16? clientPort
      peerPort := ← required Document.uint16? peerPort
      token := ← orElse "tkn" Document.text? token
      state := ← orElse .new (fun s => (s.choice? format).bind BootstrapState.ofText?) state }
  | _ => none

def Cluster.keys : List String :=
  ["version", "exec_dir", "secure", "enable_profile", "debug", "auto_compaction_retention",
    "cluster_size", "root_ca_prefix", "nodes"]

def nodesOfDocument? (format : Format) (d : Document) : Option (List Node) := do
  (← d.items?).mapM (Node.ofDocument? format)

def Cluster.ofDocument? (format : Format) (d : Document) : Option Cluster := do
  let sample := Sample.cluster
  match ← d.fields? format keys with
  | [version, execDir, secure, enableProfile, debug, retention, size, rootPrefix, nodes] =>
    return {
      version := ← orElse sample.version Document.text? version
      execDir := ← orElse sample.execDir Document.text? execDir
      secure := ← orElse sample.secure Document.bool? secure
      enableProfile := ← orElse sample.enableProfile Document.bool? enableProfile
      debug := ← orElse sample.debug Document.bool? debug
      compactionRetention := ← orElse sample.compactionRetention Document.uint32? retention
      size := ← orElse sample.size Document.uint32? size
      rootPrefix := ← orElse sample.rootPrefix Document.text? rootPrefix
      nodes := ← orElse sample.nodes (nodesOfDocument? format) nodes }
  | _ => none

def CertificateAuthority.keys : List String :=
  ["arch", "version", "exec_dir", "certs_dir", "root_ca_prefix", "gencert_file", "organization",
    "organization_unit", "city", "state", "country", "key_algorithm", "key_size",
    "key_expiry_hours", "common_name", "extra_hosts"]

def CertificateAuthority.ofDocument? (format : Format) (d : Document) :
    Option CertificateAuthority := do
  let sample : CertificateAuthority := {}
  match ← d.fields? format keys with
  | [arch, version, execDir, certsDir, rootPrefix, signingFile, organization, organizationUnit,
      city, state, country, keyAlgorithm, keySize, keyExpiryHours, commonName, extraHosts] =>
    return {
      arch := ← orElse sample.arch Document.text? arch
      version := ← orElse sample.version Document.text? version
      execDir := ← orElse sample.execDir Document.text? execDir
      certsDir := ← orElse sample.certsDir Document.text? certsDir
      rootPrefix := ← orElse sample.rootPrefix Document.text? rootPrefix
      signingFile := ← orElse sample.signingFile Document.text? signingFile
      organization := ← orElse sample.organization Document.text? organization
      organizationUnit := ← orElse sample.organizationUnit Document.text? organizationUnit
      city := ← orElse sample.city Document.text? city
      state := ← orElse sample.state Document.text? state
      country := ← orElse sample.country Document.text? country
      keyAlgorithm := ← orElse sample.keyAlgorithm Document.text? keyAlgorithm
      keySize := ← orElse sample.keySize Document.uint64? keySize
      keyExpiryHours := ← orElse sample.keyExpiryHours Document.uint64? keyExpiryHours
      commonName := ← orElse sample.commonName Document.text? commonName
      extraHosts := ← orElse sample.extraHosts Document.text? extraHosts }
  | _ => none

def GoToolchain.keys : List String := ["version"]

def GoToolchain.ofDocument? (format : Format) (d : Document) : Option GoToolchain := do
  let sample : GoToolchain := {}
  match ← d.fields? format keys with
  | [version] => return { version := ← orElse sample.version Document.text? version }
  | _ => none

def SourceBuild.keys : List String := ["git_user", "git_branch"]

def SourceBuild.ofDocument? (format : Format) (d : Document) : Option SourceBuild := do
  let sample : SourceBuild := {}
  match ← d.fields? format keys with
  | [gitUser, gitBranch] =>
    return {
      gitUser := ← orElse sample.gitUser Document.text? gitUser
      gitBranch := ← orElse sample.gitBranch Document.text? gitBranch }
  | _ => none

def Rkt.keys : List String :=
  ["version", "exec_dir", "trust_prefix", "trust_public_key", "custom_aci"]

def Rkt.ofDocument? (format : Format) (d : Document) : Option Rkt := do
  let sample : Rkt := {}
  match ← d.fields? format keys with
  | [version, execDir, trustPrefix, trustKey, customImage] =>
    return {
      version := ← orElse sample.version Document.text? version
      execDir := ← orElse sample.execDir Document.text? execDir
      trustPrefix := ← orElse sample.trustPrefix Document.text? trustPrefix
      trustKey := ← orElse sample.trustKey Document.text? trustKey
      customImage := ← orElse sample.customImage Document.text? customImage }
  | _ => none

def Kubernetes.keys : List String := ["version", "goos", "goarch", "exec_dir"]

def Kubernetes.ofDocument? (format : Format) (d : Document) : Option Kubernetes := do
  let sample : Kubernetes := {}
  match ← d.fields? format keys with
  | [version, os, arch, execDir] =>
    return {
      version := ← orElse sample.version Document.text? version
      os := ← orElse sample.os Document.text? os
      arch := ← orElse sample.arch Document.text? arch
      execDir := ← orElse sample.execDir Document.text? execDir }
  | _ => none

def Operator.keys : List String :=
  ["name", "snapshot_interval_secs", "max_snapshots", "backup_volume_mb", "storage_type"]

def Operator.ofDocument? (format : Format) (d : Document) : Option Operator := do
  let sample : Operator := {}
  match ← d.fields? format keys with
  | [name, snapshotInterval, maxSnapshots, backupVolume, storageType] =>
    return {
      name := ← orElse sample.name Document.text? name
      snapshotInterval := ← orElse sample.snapshotInterval Document.uint64? snapshotInterval
      maxSnapshots := ← orElse sample.maxSnapshots Document.uint64? maxSnapshots
      backupVolume := ← orElse sample.backupVolume Document.uint64? backupVolume
      storageType := ← orElse sample.storageType Document.text? storageType }
  | _ => none

def PlaygroundSettings.keys : List String := ["endpoint", "timeout_secs"]

def PlaygroundSettings.ofDocument? (format : Format) (d : Document) :
    Option PlaygroundSettings := do
  let sample := Sample.playground
  match ← d.fields? format keys with
  | [endpoint, timeoutSeconds] =>
    return {
      endpoint := ← orElse sample.endpoint Document.url? endpoint
      timeoutSeconds := ← orElse sample.timeoutSeconds Document.uint64? timeoutSeconds }
  | _ => none

def Profile.keys : List String :=
  ["cluster", "certs", "go", "source", "rkt", "kubernetes", "operator", "playground"]

def Profile.ofDocument? (format : Format) (d : Document) : Option Profile := do
  match ← d.fields? format keys with
  | [cluster, certificates, go, source, rkt, kubernetes, operator, playground] =>
    return {
      cluster := ← orElse Sample.cluster (Cluster.ofDocument? format) cluster
      certificates := ← orElse {} (CertificateAuthority.ofDocument? format) certificates
      go := ← orElse {} (GoToolchain.ofDocument? format) go
      source := ← orElse {} (SourceBuild.ofDocument? format) source
      rkt := ← orElse {} (Rkt.ofDocument? format) rkt
      kubernetes := ← orElse {} (Kubernetes.ofDocument? format) kubernetes
      operator := ← orElse {} (Operator.ofDocument? format) operator
      playground := ← orElse Sample.playground (PlaygroundSettings.ofDocument? format) playground }
  | _ => none

end EtcdKit
