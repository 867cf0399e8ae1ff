import EtcdKit.Proofs.Profile.Reordering
/-!
# Decoding — what a profile document is decoded to

Each section is written down as a schema: its keys, the kind of each value, where the value stands in
the section, and what it is if the key is absent.  Every section is read as its schema says, and so
is the profile, whose fields are the sections.
-/
namespace EtcdKit

open Setting
open Shape (Field Kind Says Tells)

/-! ## The sections -/

def Node.fields (format : Format) : List (Field Document Node) :=
  [⟨"name", Setting.text, name, none⟩,
    ⟨"data_dir", directory, dataDir, some none⟩,
    ⟨"certs_dir", directory, certsDir, some none⟩,
    ⟨"address", Setting.text, address, none⟩,
    ⟨"client_port", uint16, clientPort, none⟩,
    ⟨"peer_port", uint16, peerPort, none⟩,
    ⟨"initial_cluster_token", Setting.text, token, some "tkn"⟩,
    ⟨"initial_cluster_state", Setting.state format, state, some .new⟩]

/-- Nodes; no document notes a member list in them. -/
def Node.kind (format : Format) : Kind Document Node :=
  recordOf (fields format) fun n => n.initialCluster = ""

def Cluster.fields (format : Format) : List (Field Document Cluster) :=
  [⟨"version", Setting.text, version, some Sample.profile.cluster.version⟩,
    ⟨"exec_dir", Setting.text, execDir, some Sample.profile.cluster.execDir⟩,
    ⟨"secure", truth, secure, some Sample.profile.cluster.secure⟩,
    ⟨"enable_profile", truth, enableProfile, some Sample.profile.cluster.enableProfile⟩,
    ⟨"debug", truth, debug, some Sample.profile.cluster.debug⟩,
    ⟨"auto_compaction_retention", uint32, compactionRetention,
      some Sample.profile.cluster.compactionRetention⟩,
    ⟨"cluster_size", uint32, size, some Sample.profile.cluster.size⟩,
    ⟨"root_ca_prefix", Setting.text, rootPrefix, some Sample.profile.cluster.rootPrefix⟩,
    ⟨"nodes", listOf (Node.kind format), nodes, some Sample.profile.cluster.nodes⟩]

def Cluster.kind (format : Format) : Kind Document Cluster :=
  recordOf (fields format) fun _ => True

def CertificateAuthority.fields : List (Field Document CertificateAuthority) :=
  [⟨"arch", Setting.text, arch, some Sample.profile.certificates.arch⟩,
    ⟨"version", Setting.text, version, some Sample.profile.certificates.version⟩,
    ⟨"exec_dir", Setting.text, execDir, some Sample.profile.certificates.execDir⟩,
    ⟨"certs_dir", Setting.text, certsDir, some Sample.profile.certificates.certsDir⟩,
    ⟨"root_ca_prefix", Setting.text, rootPrefix, some Sample.profile.certificates.rootPrefix⟩,
    ⟨"gencert_file", Setting.text, signingFile, some Sample.profile.certificates.signingFile⟩,
    ⟨"organization", Setting.text, organization, some Sample.profile.certificates.organization⟩,
    ⟨"organization_unit", Setting.text, organizationUnit,
      some Sample.profile.certificates.organizationUnit⟩,
    ⟨"city", Setting.text, city, some Sample.profile.certificates.city⟩,
    ⟨"state", Setting.text, state, some Sample.profile.certificates.state⟩,
    ⟨"country", Setting.text, country, some Sample.profile.certificates.country⟩,
    ⟨"key_algorithm", Setting.text, keyAlgorithm, some Sample.profile.certificates.keyAlgorithm⟩,
    ⟨"key_size", uint64, keySize, some Sample.profile.certificates.keySize⟩,
    ⟨"key_expiry_hours", uint64, keyExpiryHours, some Sample.profile.certificates.keyExpiryHours⟩,
    ⟨"common_name", Setting.text, commonName, some Sample.profile.certificates.commonName⟩,
    ⟨"extra_hosts", Setting.text, extraHosts, some Sample.profile.certificates.extraHosts⟩]

def CertificateAuthority.kind : Kind Document CertificateAuthority := recordOf fields fun _ => True

def GoToolchain.fields : List (Field Document GoToolchain) :=
  [⟨"version", Setting.text, version, some Sample.profile.go.version⟩]

def GoToolchain.kind : Kind Document GoToolchain := recordOf fields fun _ => True

def SourceBuild.fields : List (Field Document SourceBuild) :=
  [⟨"git_user", Setting.text, gitUser, some Sample.profile.source.gitUser⟩,
    ⟨"git_branch", Setting.text, gitBranch, some Sample.profile.source.gitBranch⟩]

def SourceBuild.kind : Kind Document SourceBuild := recordOf fields fun _ => True

def Rkt.fields : List (Field Document Rkt) :=
  [⟨"version", Setting.text, version, some Sample.profile.rkt.version⟩,
    ⟨"exec_dir", Setting.text, execDir, some Sample.profile.rkt.execDir⟩,
    ⟨"trust_prefix", Setting.text, trustPrefix, some Sample.profile.rkt.trustPrefix⟩,
    ⟨"trust_public_key", Setting.text, trustKey, some Sample.profile.rkt.trustKey⟩,
    ⟨"custom_aci", Setting.text, customImage, some Sample.profile.rkt.customImage⟩]

def Rkt.kind : Kind Document Rkt := recordOf fields fun _ => True

def Kubernetes.fields : List (Field Document Kubernetes) :=
  [⟨"version", Setting.text, version, some Sample.profile.kubernetes.version⟩,
    ⟨"goos", Setting.text, os, some Sample.profile.kubernetes.os⟩,
    ⟨"goarch", Setting.text, arch, some Sample.profile.kubernetes.arch⟩,
    ⟨"exec_dir", Setting.text, execDir, some Sample.profile.kubernetes.execDir⟩]

def Kubernetes.kind : Kind Document Kubernetes := recordOf fields fun _ => True

def Operator.fields : List (Field Document Operator) :=
  [⟨"name", Setting.text, name, some Sample.profile.operator.name⟩,
    ⟨"snapshot_interval_secs", uint64, snapshotInterval,
      some Sample.profile.operator.snapshotInterval⟩,
    ⟨"max_snapshots", uint64, maxSnapshots, some Sample.profile.operator.maxSnapshots⟩,
    ⟨"backup_volume_mb", uint64, backupVolume, some Sample.profile.operator.backupVolume⟩,
    ⟨"storage_type", Setting.text, storageType, some Sample.profile.operator.storageType⟩]

def Operator.kind : Kind Document Operator := recordOf fields fun _ => True

def PlaygroundSettings.fields : List (Field Document PlaygroundSettings) :=
  [⟨"endpoint", address, endpoint, some Sample.profile.playground.endpoint⟩,
    ⟨"timeout_secs", uint64, timeoutSeconds, some Sample.profile.playground.timeoutSeconds⟩]

def PlaygroundSettings.kind : Kind Document PlaygroundSettings := recordOf fields fun _ => True

def Profile.fields (format : Format) : List (Field Document Profile) :=
  [⟨"cluster", Cluster.kind format, cluster, some Sample.profile.cluster⟩,
    ⟨"certs", CertificateAuthority.kind, certificates, some Sample.profile.certificates⟩,
    ⟨"go", GoToolchain.kind, go, some Sample.profile.go⟩,
    ⟨"source", SourceBuild.kind, source, some Sample.profile.source⟩,
    ⟨"rkt", Rkt.kind, rkt, some Sample.profile.rkt⟩,
    ⟨"kubernetes", Kubernetes.kind, kubernetes, some Sample.profile.kubernetes⟩,
    ⟨"operator", Operator.kind, operator, some Sample.profile.operator⟩,
    ⟨"playground", PlaygroundSettings.kind, playground, some Sample.profile.playground⟩]

def Profile.kind (format : Format) : Kind Document Profile :=
  recordOf (fields format) fun _ => True

/-! ## Every section is read -/

section Sections

variable (format : Format) {d : Document}

theorem Node.reads (hplain : d.Plain) (h : d.IsMap) :
    Reads (kind format) (ofDocument? format) d := by
  obtain ⟨entries, rfl, hnodup⟩ := h
  refine reads_recordOf keys rfl hnodup ?_
  refine .required hnodup (fun v _ => reads_text v) fun name => ?_
  refine .orElse hnodup (fun v hv => reads_directory (hplain.of_mem hv)) fun dataDir => ?_
  refine .orElse hnodup (fun v hv => reads_directory (hplain.of_mem hv)) fun certsDir => ?_
  refine .required hnodup (fun v _ => reads_text v) fun address => ?_
  refine .required hnodup (fun v _ => reads_uint16 v) fun clientPort => ?_
  refine .required hnodup (fun v _ => reads_uint16 v) fun peerPort => ?_
  refine .orElse hnodup (fun v _ => reads_text v) fun token => ?_
  refine .orElse hnodup (fun v hv => reads_state (hplain.of_mem hv)) fun state => ?_
  refine .done ?_
  rintro ⟨⟩
  rw [Node.mk.injEq]
  grind

theorem Cluster.reads (hplain : d.Plain) (h : d.IsMap)
    (hnodes : ∀ items, d.Holds "nodes" (.list items) → ∀ item ∈ items, item.IsMap) :
    Reads (kind format) (ofDocument? format) d := by
  obtain ⟨entries, rfl, hnodup⟩ := h
  have hlist : ∀ v, ("nodes", v) ∈ entries →
      Reads (listOf (Node.kind format)) (nodesOfDocument? format) v := by
    intro v hv
    refine reads_listOf (hplain.of_mem hv) ?_
    rintro items rfl item hitem
    have hitems : (Document.list items).Plain := hplain.of_mem hv
    exact Node.reads format (Document.plain_list_iff.1 hitems item hitem) (hnodes items ⟨entries, rfl, hv⟩ item hitem)
  refine reads_recordOf keys rfl hnodup ?_
  refine .orElse hnodup (fun v _ => reads_text v) fun version => ?_
  refine .orElse hnodup (fun v _ => reads_text v) fun execDir => ?_
  refine .orElse hnodup (fun v _ => reads_truth v) fun secure => ?_
  refine .orElse hnodup (fun v _ => reads_truth v) fun enableProfile => ?_
  refine .orElse hnodup (fun v _ => reads_truth v) fun debug => ?_
  refine .orElse hnodup (fun v _ => reads_uint32 v) fun compactionRetention => ?_
  refine .orElse hnodup (fun v _ => reads_uint32 v) fun size => ?_
  refine .orElse hnodup (fun v _ => reads_text v) fun rootPrefix => ?_
  refine .orElse hnodup hlist fun nodes => ?_
  exact .done (by rintro ⟨⟩; simp [and_assoc])

theorem CertificateAuthority.reads (h : d.IsMap) : Reads kind (ofDocument? format) d := by
  obtain ⟨entries, rfl, hnodup⟩ := h
  refine reads_recordOf keys rfl hnodup ?_
  refine .orElse hnodup (fun v _ => reads_text v) fun arch => ?_
  refine .orElse hnodup (fun v _ => reads_text v) fun version => ?_
  refine .orElse hnodup (fun v _ => reads_text v) fun execDir => ?_
  refine .orElse hnodup (fun v _ => reads_text v) fun certsDir => ?_
  refine .orElse hnodup (fun v _ => reads_text v) fun rootPrefix => ?_
  refine .orElse hnodup (fun v _ => reads_text v) fun signingFile => ?_
  refine .orElse hnodup (fun v _ => reads_text v) fun organization => ?_
  refine .orElse hnodup (fun v _ => reads_text v) fun organizationUnit => ?_
  refine .orElse hnodup (fun v _ => reads_text v) fun city => ?_
  refine .orElse hnodup (fun v _ => reads_text v) fun state => ?_
  refine .orElse hnodup (fun v _ => reads_text v) fun country => ?_
  refine .orElse hnodup (fun v _ => reads_text v) fun keyAlgorithm => ?_
  refine .orElse hnodup (fun v _ => reads_uint64 v) fun keySize => ?_
  refine .orElse hnodup (fun v _ => reads_uint64 v) fun keyExpiryHours => ?_
  refine .orElse hnodup (fun v _ => reads_text v) fun commonName => ?_
  refine .orElse hnodup (fun v _ => reads_text v) fun extraHosts => ?_
  exact .done (by rintro ⟨⟩; simp [and_assoc])

theorem GoToolchain.reads (h : d.IsMap) : Reads kind (ofDocument? format) d := by
  obtain ⟨entries, rfl, hnodup⟩ := h
  refine reads_recordOf keys rfl hnodup ?_
  refine .orElse hnodup (fun v _ => reads_text v) fun version => ?_
  exact .done (by rintro ⟨⟩; simp)

theorem SourceBuild.reads (h : d.IsMap) : Reads kind (ofDocument? format) d := by
  obtain ⟨entries, rfl, hnodup⟩ := h
  refine reads_recordOf keys rfl hnodup ?_
  refine .orElse hnodup (fun v _ => reads_text v) fun gitUser => ?_
  refine .orElse hnodup (fun v _ => reads_text v) fun gitBranch => ?_
  exact .done (by rintro ⟨⟩; simp)

theorem Rkt.reads (h : d.IsMap) : Reads kind (ofDocument? format) d := by
  obtain ⟨entries, rfl, hnodup⟩ := h
  refine reads_recordOf keys rfl hnodup ?_
  refine .orElse hnodup (fun v _ => reads_text v) fun version => ?_
  refine .orElse hnodup (fun v _ => reads_text v) fun execDir => ?_
  refine .orElse hnodup (fun v _ => reads_text v) fun trustPrefix => ?_
  refine .orElse hnodup (fun v _ => reads_text v) fun trustKey => ?_
  refine .orElse hnodup (fun v _ => reads_text v) fun customImage => ?_
  exact .done (by rintro ⟨⟩; simp [and_assoc])

theorem Kubernetes.reads (h : d.IsMap) : Reads kind (ofDocument? format) d := by
  obtain ⟨entries, rfl, hnodup⟩ := h
  refine reads_recordOf keys rfl hnodup ?_
  refine .orElse hnodup (fun v _ => reads_text v) fun version => ?_
  refine .orElse hnodup (fun v _ => reads_text v) fun os => ?_
  refine .orElse hnodup (fun v _ => reads_text v) fun arch => ?_
  refine .orElse hnodup (fun v _ => reads_text v) fun execDir => ?_
  exact .done (by rintro ⟨⟩; simp [and_assoc])

theorem Operator.reads (h : d.IsMap) : Reads kind (ofDocument? format) d := by
  obtain ⟨entries, rfl, hnodup⟩ := h
  refine reads_recordOf keys rfl hnodup ?_
  refine .orElse hnodup (fun v _ => reads_text v) fun name => ?_
  refine .orElse hnodup (fun v _ => reads_uint64 v) fun snapshotInterval => ?_
  refine .orElse hnodup (fun v _ => reads_uint64 v) fun maxSnapshots => ?_
  refine .orElse hnodup (fun v _ => reads_uint64 v) fun backupVolume => ?_
  refine .orElse hnodup (fun v _ => reads_text v) fun storageType => ?_
  exact .done (by rintro ⟨⟩; simp [and_assoc])

theorem PlaygroundSettings.reads (h : d.IsMap) : Reads kind (ofDocument? format) d := by
  obtain ⟨entries, rfl, hnodup⟩ := h
  refine reads_recordOf keys rfl hnodup ?_
  refine .orElse hnodup (fun v _ => reads_address v) fun endpoint => ?_
  refine .orElse hnodup (fun v _ => reads_uint64 v) fun timeoutSeconds => ?_
  exact .done (by rintro ⟨⟩; simp)

theorem Profile.reads (h : d.IsSettings) : Reads (kind format) (ofDocument? format) d := by
  obtain ⟨entries, rfl, hnodup⟩ := h.isMap
  have hmap : ∀ key ∈ keys, ∀ v, (key, v) ∈ entries → v.IsMap :=
    fun key hkey v hv => h.sections key v hkey ⟨entries, rfl, hv⟩
  refine reads_recordOf keys rfl hnodup ?_
  refine .orElse hnodup (fun v hv => ?cluster) fun cluster => ?_
  case cluster =>
    exact Cluster.reads format (h.plain.of_mem hv) (hmap _ (by decide) v hv) fun items hitems =>
      h.nodes v items ⟨entries, rfl, hv⟩ hitems
  refine .orElse hnodup (fun v hv => CertificateAuthority.reads format (hmap _ (by decide) v hv))
    fun certificates => ?_
  refine .orElse hnodup (fun v hv => GoToolchain.reads format (hmap _ (by decide) v hv))
    fun go => ?_
  refine .orElse hnodup (fun v hv => SourceBuild.reads format (hmap _ (by decide) v hv))
    fun source => ?_
  refine .orElse hnodup (fun v hv => Rkt.reads format (hmap _ (by decide) v hv)) fun rkt => ?_
  refine .orElse hnodup (fun v hv => Kubernetes.reads format (hmap _ (by decide) v hv))
    fun kubernetes => ?_
  refine .orElse hnodup (fun v hv => Operator.reads format (hmap _ (by decide) v hv))
    fun operator => ?_
  refine .orElse hnodup (fun v hv => PlaygroundSettings.reads format (hmap _ (by decide) v hv))
    fun playground => ?_
  exact .done (by rintro ⟨⟩; simp [and_assoc])

end Sections

/-! ## The order of keys -/

theorem Node.stable (format : Format) : Stable (kind format) :=
  stable_recordOf (by simp [fields])

theorem Cluster.stable (format : Format) : Stable (kind format) :=
  stable_recordOf (by simp [fields, stable_listOf (Node.stable format)])

theorem CertificateAuthority.stable : Stable kind := stable_recordOf (by simp [fields])

theorem GoToolchain.stable : Stable kind := stable_recordOf (by simp [fields])

theorem SourceBuild.stable : Stable kind := stable_recordOf (by simp [fields])

theorem Rkt.stable : Stable kind := stable_recordOf (by simp [fields])

theorem Kubernetes.stable : Stable kind := stable_recordOf (by simp [fields])

theorem Operator.stable : Stable kind := stable_recordOf (by simp [fields])

theorem PlaygroundSettings.stable : Stable kind := stable_recordOf (by simp [fields])

theorem Profile.stable (format : Format) : Stable (kind format) := by
  refine stable_recordOf ?_
  simp only [fields, List.forall_mem_cons]
  exact ⟨Cluster.stable format, CertificateAuthority.stable, GoToolchain.stable,
    SourceBuild.stable, Rkt.stable, Kubernetes.stable, Operator.stable, PlaygroundSettings.stable,
    nofun⟩

/-! ## Profiles -/

namespace Profile

/-- **A settings document is accepted just if it fits the schema**, and is then decoded to what it
means, whatever the order of its keys. -/
theorem settings_decoded (format : Format) {d : Document} (h : d.IsSettings) :
    ((∃ p, ofDocument? format d = some p) ↔ (kind format).Fits d) ∧
      (∀ p, ofDocument? format d = some p ↔ (kind format).Means d p) ∧
      ∀ e, d.Reordered e → ofDocument? format e = ofDocument? format d := by
  have hreads := Profile.reads format h
  refine ⟨?accepted, hreads.means, ?order⟩
  case accepted =>
    rw [hreads.fits]
    exact exists_congr hreads.means
  case order =>
    intro e hr
    have hother := Profile.reads format (h.of_reordered hr)
    ext p
    rw [hreads.means, hother.means]
    exact ⟨Profile.stable format e d p hr.symm, Profile.stable format d e p hr⟩

/-- A document with two sections out of order and a node without its optional settings. -/
def sparse : Document :=
  .record [
    ("playground", .record [("timeout_secs", .integer 5)]),
    ("cluster", .record [
      ("nodes", .list [.record [("peer_port", .integer 2), ("name", .text "a"),
        ("client_port", .integer 1), ("address", .text "h")]]),
      ("secure", .bool false)])]

/-- What is left out of it is as in the sample deployment, but for the nodes. -/
def sparseProfile : Profile :=
  { Sample.profile with
    cluster := { Sample.cluster with
      secure := false
      nodes := [{ name := "a", address := "h", clientPort := 1, peerPort := 2 }] }
    playground := { Sample.playground with timeoutSeconds := 5 } }

theorem sparse_isSettings : sparse.IsSettings := by
  refine ⟨by simp [sparse], ⟨_, rfl, by decide⟩, ?sections, ?nodes⟩
  case sections =>
    rintro key v - ⟨entries, heq, hmem⟩
    cases heq
    simp only [List.mem_cons, Prod.mk.injEq, List.not_mem_nil, or_false] at hmem
    obtain ⟨-, rfl⟩ | ⟨-, rfl⟩ := hmem
    · exact ⟨_, rfl, by decide⟩
    · exact ⟨_, rfl, by decide⟩
  case nodes =>
    rintro cluster items ⟨entries, heq, hmem⟩ ⟨_, rfl, hnodes⟩ item hitem
    cases heq
    simp only [List.mem_cons, Prod.mk.injEq, Document.record.injEq, List.not_mem_nil, or_false,
      true_and] at hmem
    obtain ⟨h, -⟩ | rfl := hmem
    · exact absurd h (by decide)
    · simp at hnodes
      obtain rfl := hnodes
      obtain rfl := List.mem_singleton.1 hitem
      exact ⟨_, rfl, by decide⟩

theorem sparse_decoded : ofDocument? .toml sparse = some sparseProfile := by
  refine ((settings_decoded .toml sparse_isSettings).2.1 sparseProfile).2 ?_
  simp [sparse, sparseProfile, Sample.profile, kind, fields, recordOf_means_iff, Says, Tells,
    Cluster.kind, Cluster.fields, Node.kind, Node.fields, PlaygroundSettings.kind,
    PlaygroundSettings.fields, text, truth, uint16, uint64, number, listOf, HasText, HasNumber]

end Profile
end EtcdKit
