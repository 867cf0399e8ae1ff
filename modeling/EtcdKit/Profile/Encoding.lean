import EtcdKit.Json.Value
import EtcdKit.Profile.Decoding
/-!
# Encoding — profiles as document trees

The entries stand in the order of the fields, and a missing directory is left out.
-/
namespace EtcdKit

def Document.ofNat (n : Nat) : Document := .integer n

/-- An entry that is left out if its text is missing. -/
def Document.optionalEntry (key : String) : Option String → List (String × Document)
  | none => []
  | some value => [(key, .text value)]

def Node.toDocument (n : Node) : Document :=
  .record <|
    [("name", .text n.name)] ++
    Document.optionalEntry "data_dir" n.dataDir ++
    Document.optionalEntry "certs_dir" n.certsDir ++
    [("address", .text n.address),
      ("client_port", .ofNat n.clientPort.toNat),
      ("peer_port", .ofNat n.peerPort.toNat),
      ("initial_cluster_token", .text n.token),
      ("initial_cluster_state", .text n.state.text)]

def Cluster.toDocument (c : Cluster) : Document :=
  .record [
    ("version", .text c.version),
    ("exec_dir", .text c.execDir),
    ("secure", .bool c.secure),
    ("enable_profile", .bool c.enableProfile),
    ("debug", .bool c.debug),
    ("auto_compaction_retention", .ofNat c.compactionRetention.toNat),
    ("cluster_size", .ofNat c.size.toNat),
    ("root_ca_prefix", .text c.rootPrefix),
    ("nodes", .list (c.nodes.map Node.toDocument))]

def CertificateAuthority.toDocument (ca : CertificateAuthority) : Document :=
  .record [
    ("arch", .text ca.arch),
    ("version", .text ca.version),
    ("exec_dir", .text ca.execDir),
    ("certs_dir", .text ca.certsDir),
    ("root_ca_prefix", .text ca.rootPrefix),
    ("gencert_file", .text ca.signingFile),
    ("organization", .text ca.organization),
    ("organization_unit", .text ca.organizationUnit),
    ("city", .text ca.city),
    ("state", .text ca.state),
    ("country", .text ca.country),
    ("key_algorithm", .text ca.keyAlgorithm),
    ("key_size", .ofNat ca.keySize.toNat),
    ("key_expiry_hours", .ofNat ca.keyExpiryHours.toNat),
    ("common_name", .text ca.commonName),
    ("extra_hosts", .text ca.extraHosts)]

def GoToolchain.toDocument (g : GoToolchain) : Document := .record [("version", .text g.version)]

def SourceBuild.toDocument (s : SourceBuild) : Document :=
  .record [("git_user", .text s.gitUser), ("git_branch", .text s.gitBranch)]

def Rkt.toDocument (r : Rkt) : Document :=
  .record [
    ("version", .text r.version),
    ("exec_dir", .text r.execDir),
    ("trust_prefix", .text r.trustPrefix),
    ("trust_public_key", .text r.trustKey),
    ("custom_aci", .text r.customImage)]

def Kubernetes.toDocument (k : Kubernetes) : Document :=
  .record [
    ("version", .text k.version),
    ("goos", .text k.os),
    ("goarch", .text k.arch),
    ("exec_dir", .text k.execDir)]

def Operator.toDocument (o : Operator) : Document :=
  .record [
    ("name", .text o.name),
    ("snapshot_interval_secs", .ofNat o.snapshotInterval.toNat),
    ("max_snapshots", .ofNat o.maxSnapshots.toNat),
    ("backup_volume_mb", .ofNat o.backupVolume.toNat),
    ("storage_type", .text o.storageType)]

def PlaygroundSettings.toDocument (p : PlaygroundSettings) : Document :=
  .record [
    ("endpoint", .text p.endpoint.text),
    ("timeout_secs", .ofNat p.timeoutSeconds.toNat)]

/-- The sections of a profile as documents, with their keys. -/
def Profile.sections (p : Profile) : List (String × Document) :=
  [("cluster", p.cluster.toDocument),
    ("certs", p.certificates.toDocument),
    ("go", p.go.toDocument),
    ("source", p.source.toDocument),
    ("rkt", p.rkt.toDocument),
    ("kubernetes", p.kubernetes.toDocument),
    ("operator", p.operator.toDocument),
    ("playground", p.playground.toDocument)]

def Profile.toDocument (p : Profile) : Document := .record p.sections

namespace Document

mutual
def toJson : Document → Json
  | .null => .null
  | .bool b => .bool b
  | .integer n => .integer n
  | .text s => .string s
  | .word w => .string w.text
  | .foreign => .unreadable
  | .list items => .array (itemsToJson items)
  | .record entries => .object (entriesToJson entries)

def itemsToJson : List Document → List Json
  | [] => []
  | item :: items => toJson item :: itemsToJson items

def entriesToJson : List (String × Document) → List (String × Json)
  | [] => []
  | (key, value) :: entries => (key, toJson value) :: entriesToJson entries
end

mutual
def ofJson : Json → Document
  | .null => .null
  | .bool b => .bool b
  | .integer n => .integer n
  | .decimal _ => .foreign
  | .string s => .text s
  | .array items => .list (itemsOfJson items)
  | .object members => .record (membersOfJson members)
  | .unreadable => .foreign

def itemsOfJson : List Json → List Document
  | [] => []
  | item :: items => ofJson item :: itemsOfJson items

def membersOfJson : List (String × Json) → List (String × Document)
  | [] => []
  | (name, value) :: members => (name, ofJson value) :: membersOfJson members
end

end Document

def Profile.toJson (p : Profile) : Json := p.toDocument.toJson

def Profile.ofJson? (value : Json) : Option Profile :=
  Profile.ofDocument? .json (Document.ofJson value)

end EtcdKit
