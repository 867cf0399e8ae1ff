import EtcdKit.Profile.Encoding
import EtcdKit.Proofs.Profile.Fields
/-!
# Records — a profile is read back from its document

In every format the readers of the sections give back what a document was written from, and with
them the reader of a profile (`Profile.ofDocument?_toDocument`).  Two things are not in a document:
the member lists that were noted in the nodes (`Profile.unnoted`), and more of the endpoint than its
text says.
-/
namespace EtcdKit

open Shape (entriesOf orElse required)

namespace Document

theorem natBelow?_ofNat {bound n : Nat} (h : n < bound) :
    natBelow? bound (.ofNat n) = some n := by
  have hn : (0 : Int) ≤ n ∧ (n : Int) < bound := ⟨Int.natCast_nonneg n, Int.ofNat_lt.2 h⟩
  rw [ofNat, natBelow?, if_pos hn]
  rfl

theorem uint16?_ofNat (n : UInt16) : uint16? (.ofNat n.toNat) = some n := by
  rw [uint16?, natBelow?_ofNat n.toNat_lt, Option.map_some, UInt16.ofNat_toNat]

theorem uint32?_ofNat (n : UInt32) : uint32? (.ofNat n.toNat) = some n := by
  rw [uint32?, natBelow?_ofNat n.toNat_lt, Option.map_some, UInt32.ofNat_toNat]

theorem uint64?_ofNat (n : UInt64) : uint64? (.ofNat n.toNat) = some n := by
  rw [uint64?, natBelow?_ofNat n.toNat_lt, Option.map_some, UInt64.ofNat_toNat]

/-! How a reader goes on behind a field of its record.  The lemmas are applied from the outside in,
as each of them makes the value of its field known to the fields behind it. -/

section Fields

variable {α : Type}

theorem bind_text (default s : String) (f : String → Option α) :
    (orElse default text? (some (.text s))).bind f = f s := rfl

theorem bind_bool (default b : Bool) (f : Bool → Option α) :
    (orElse default bool? (some (.bool b))).bind f = f b := rfl

theorem bind_uint32 (default n : UInt32) (f : UInt32 → Option α) :
    (orElse default uint32? (some (.ofNat n.toNat))).bind f = f n := by
  rw [orElse, uint32?_ofNat]
  rfl

theorem bind_uint64 (default n : UInt64) (f : UInt64 → Option α) :
    (orElse default uint64? (some (.ofNat n.toNat))).bind f = f n := by
  rw [orElse, uint64?_ofNat]
  rfl

theorem bind_optionalText (s : Option String) (f : Option String → Option α) :
    (orElse none optionalText? (s.map .text)).bind f = f s := by
  cases s <;> rfl

theorem bind_requiredText (s : String) (f : String → Option α) :
    (required text? (some (.text s))).bind f = f s := rfl

theorem bind_requiredUInt16 (n : UInt16) (f : UInt16 → Option α) :
    (required uint16? (some (.ofNat n.toNat))).bind f = f n := by
  rw [required, uint16?_ofNat]
  rfl

theorem bind_state (format : Format) (s : BootstrapState) (f : BootstrapState → Option α) :
    (orElse .new (fun d => (choice? format d).bind BootstrapState.ofText?)
      (some (.text s.text))).bind f = f s := by
  cases s <;> rfl

end Fields

end Document

/-! ## The keys of the sections -/

theorem Node.nodup_keys : Node.keys.Nodup := by decide

theorem Cluster.nodup_keys : Cluster.keys.Nodup := by decide

theorem CertificateAuthority.nodup_keys : CertificateAuthority.keys.Nodup := by decide

theorem GoToolchain.nodup_keys : GoToolchain.keys.Nodup := by decide

theorem SourceBuild.nodup_keys : SourceBuild.keys.Nodup := by decide

theorem Rkt.nodup_keys : Rkt.keys.Nodup := by decide

theorem Kubernetes.nodup_keys : Kubernetes.keys.Nodup := by decide

theorem Operator.nodup_keys : Operator.keys.Nodup := by decide

theorem PlaygroundSettings.nodup_keys : PlaygroundSettings.keys.Nodup := by decide

theorem Profile.nodup_keys : Profile.keys.Nodup := by decide

/-! ## The values of the sections -/

namespace Node

/-- The values of the fields; a directory that is not given has none. -/
def values (n : Node) : List (Option Document) :=
  [some (.text n.name), n.dataDir.map .text, n.certsDir.map .text, some (.text n.address),
    some (.ofNat n.clientPort.toNat), some (.ofNat n.peerPort.toNat), some (.text n.token),
    some (.text n.state.text)]

theorem toDocument_eq (n : Node) : n.toDocument = .record (entriesOf keys n.values) := by
  obtain ⟨_, dataDir, certsDir, _, _, _, _, _, _⟩ := n
  cases dataDir with
  | none => cases certsDir <;> rfl
  | some _ => cases certsDir <;> rfl

/-- The node without the member list that was noted in it. -/
def unnoted (n : Node) : Node := { n with initialCluster := "" }

/-- **A node is read back** without its note. -/
theorem ofDocument?_toDocument (format : Format) (n : Node) :
    ofDocument? format n.toDocument = some n.unnoted := by
  rw [ofDocument?, toDocument_eq, Document.fields?_entriesOf format nodup_keys rfl]
  simp -implicitDefEqProofs only [values, ↓Option.bind_eq_bind, ↓Option.bind_some,
    ↓Document.bind_requiredText, ↓Document.bind_optionalText, ↓Document.bind_requiredUInt16,
    ↓Document.bind_text, ↓Document.bind_state, Option.pure_def]
  rfl

end Node

/-- **Nodes are read back** without their notes. -/
theorem nodesOfDocument?_list (format : Format) (nodes : List Node) :
    nodesOfDocument? format (.list (nodes.map Node.toDocument)) =
      some (nodes.map Node.unnoted) := by
  change (nodes.map Node.toDocument).mapM (Node.ofDocument? format) = _
  induction nodes with
  | nil => rfl
  | cons n nodes ih =>
    rw [List.map_cons, List.mapM_cons, Node.ofDocument?_toDocument, ih]
    rfl

namespace Cluster

/-- The values of the fields. -/
def values (c : Cluster) : List (Option Document) :=
  [some (.text c.version), some (.text c.execDir), some (.bool c.secure),
    some (.bool c.enableProfile), some (.bool c.debug),
    some (.ofNat c.compactionRetention.toNat), some (.ofNat c.size.toNat),
    some (.text c.rootPrefix), some (.list (c.nodes.map Node.toDocument))]

theorem toDocument_eq (c : Cluster) : c.toDocument = .record (entriesOf keys c.values) := rfl

/-- The cluster without the member lists that were noted in its nodes. -/
def unnoted (c : Cluster) : Cluster := { c with nodes := c.nodes.map Node.unnoted }

/-- **A cluster is read back** without the notes of its nodes. -/
theorem ofDocument?_toDocument (format : Format) (c : Cluster) :
    ofDocument? format c.toDocument = some c.unnoted := by
  have hnodes : orElse Sample.cluster.nodes (nodesOfDocument? format)
      (some (.list (c.nodes.map Node.toDocument))) = some (c.nodes.map Node.unnoted) :=
    nodesOfDocument?_list format c.nodes
  rw [ofDocument?, toDocument_eq, Document.fields?_entriesOf format nodup_keys rfl]
  simp -implicitDefEqProofs only [values, ↓Option.bind_eq_bind, ↓Option.bind_some,
    ↓Document.bind_text, ↓Document.bind_bool, ↓Document.bind_uint32, ↓hnodes, Option.pure_def]
  rfl

end Cluster

namespace CertificateAuthority

/-- The values of the fields. -/
def values (ca : CertificateAuthority) : List (Option Document) :=
  [some (.text ca.arch), some (.text ca.version), some (.text ca.execDir),
    some (.text ca.certsDir), some (.text ca.rootPrefix), some (.text ca.signingFile),
    some (.text ca.organization), some (.text ca.organizationUnit), some (.text ca.city),
    some (.text ca.state), some (.text ca.country), some (.text ca.keyAlgorithm),
    some (.ofNat ca.keySize.toNat), some (.ofNat ca.keyExpiryHours.toNat),
    some (.text ca.commonName), some (.text ca.extraHosts)]

theorem toDocument_eq (ca : CertificateAuthority) :
    ca.toDocument = .record (entriesOf keys ca.values) := rfl

theorem ofDocument?_toDocument (format : Format) (ca : CertificateAuthority) :
    ofDocument? format ca.toDocument = some ca := by
  rw [ofDocument?, toDocument_eq, Document.fields?_entriesOf format nodup_keys rfl]
  simp -implicitDefEqProofs only [values, ↓Option.bind_eq_bind, ↓Option.bind_some,
    ↓Document.bind_text, ↓Document.bind_uint64, Option.pure_def]

end CertificateAuthority

namespace GoToolchain

/-- The values of the fields. -/
def values (g : GoToolchain) : List (Option Document) :=
  [some (.text g.version)]

theorem toDocument_eq (g : GoToolchain) :
    g.toDocument = .record (entriesOf keys g.values) := rfl

theorem ofDocument?_toDocument (format : Format) (g : GoToolchain) :
    ofDocument? format g.toDocument = some g := by
  rw [ofDocument?, toDocument_eq, Document.fields?_entriesOf format nodup_keys rfl]
  simp -implicitDefEqProofs only [values, ↓Option.bind_eq_bind, ↓Option.bind_some,
    ↓Document.bind_text, Option.pure_def]

end GoToolchain

namespace SourceBuild

/-- The values of the fields. -/
def values (s : SourceBuild) : List (Option Document) :=
  [some (.text s.gitUser), some (.text s.gitBranch)]

theorem toDocument_eq (s : SourceBuild) :
    s.toDocument = .record (entriesOf keys s.values) := rfl

theorem ofDocument?_toDocument (format : Format) (s : SourceBuild) :
    ofDocument? format s.toDocument = some s := by
  rw [ofDocument?, toDocument_eq, Document.fields?_entriesOf format nodup_keys rfl]
  simp -implicitDefEqProofs only [values, ↓Option.bind_eq_bind, ↓Option.bind_some,
    ↓Document.bind_text, Option.pure_def]

end SourceBuild

namespace Rkt

/-- The values of the fields. -/
def values (r : Rkt) : List (Option Document) :=
  [some (.text r.version), some (.text r.execDir), some (.text r.trustPrefix),
    some (.text r.trustKey), some (.text r.customImage)]

theorem toDocument_eq (r : Rkt) :
    r.toDocument = .record (entriesOf keys r.values) := rfl

theorem ofDocument?_toDocument (format : Format) (r : Rkt) :
    ofDocument? format r.toDocument = some r := by
  rw [ofDocument?, toDocument_eq, Document.fields?_entriesOf format nodup_keys rfl]
  simp -implicitDefEqProofs only [values, ↓Option.bind_eq_bind, ↓Option.bind_some,
    ↓Document.bind_text, Option.pure_def]

end Rkt

namespace Kubernetes

/-- The values of the fields. -/
def values (k : Kubernetes) : List (Option Document) :=
  [some (.text k.version), some (.text k.os), some (.text k.arch), some (.text k.execDir)]

theorem toDocument_eq (k : Kubernetes) :
    k.toDocument = .record (entriesOf keys k.values) := rfl

theorem ofDocument?_toDocument (format : Format) (k : Kubernetes) :
    ofDocument? format k.toDocument = some k := by
  rw [ofDocument?, toDocument_eq, Document.fields?_entriesOf format nodup_keys rfl]
  simp -implicitDefEqProofs only [values, ↓Option.bind_eq_bind, ↓Option.bind_some,
    ↓Document.bind_text, Option.pure_def]

end Kubernetes

namespace Operator

/-- The values of the fields. -/
def values (o : Operator) : List (Option Document) :=
  [some (.text o.name), some (.ofNat o.snapshotInterval.toNat),
    some (.ofNat o.maxSnapshots.toNat), some (.ofNat o.backupVolume.toNat),
    some (.text o.storageType)]

theorem toDocument_eq (o : Operator) :
    o.toDocument = .record (entriesOf keys o.values) := rfl

theorem ofDocument?_toDocument (format : Format) (o : Operator) :
    ofDocument? format o.toDocument = some o := by
  rw [ofDocument?, toDocument_eq, Document.fields?_entriesOf format nodup_keys rfl]
  simp -implicitDefEqProofs only [values, ↓Option.bind_eq_bind, ↓Option.bind_some,
    ↓Document.bind_text, ↓Document.bind_uint64, Option.pure_def]

end Operator

namespace PlaygroundSettings

/-- The values of the fields. -/
def values (p : PlaygroundSettings) : List (Option Document) :=
  [some (.text p.endpoint.text), some (.ofNat p.timeoutSeconds.toNat)]

theorem toDocument_eq (p : PlaygroundSettings) :
    p.toDocument = .record (entriesOf keys p.values) := rfl

/-- **Playground settings are read back** if the text of their endpoint is read as the endpoint. -/
theorem ofDocument?_toDocument (format : Format) {p : PlaygroundSettings}
    (hurl : Url.parse? p.endpoint.text = some p.endpoint) :
    ofDocument? format p.toDocument = some p := by
  have hendpoint : orElse Sample.playground.endpoint Document.url?
      (some (.text p.endpoint.text)) = some p.endpoint := hurl
  rw [ofDocument?, toDocument_eq, Document.fields?_entriesOf format nodup_keys rfl]
  simp -implicitDefEqProofs only [values, ↓Option.bind_eq_bind, ↓Option.bind_some, ↓hendpoint,
    ↓Document.bind_uint64, Option.pure_def]

end PlaygroundSettings

/-! ## The profile -/

namespace Profile

/-- The profile without the member lists that were noted in its nodes. -/
def unnoted (p : Profile) : Profile := { p with cluster := p.cluster.unnoted }

/-- A profile without notes is itself. -/
theorem unnoted_eq_self {p : Profile} (h : ∀ n ∈ p.cluster.nodes, n.initialCluster = "") :
    p.unnoted = p := by
  have hnodes : p.cluster.nodes.map Node.unnoted = p.cluster.nodes := by
    refine (List.map_congr_left fun n hn => ?_).trans (List.map_id _)
    rw [Node.unnoted, ← h n hn]
    rfl
  rw [unnoted, Cluster.unnoted, hnodes]

theorem toDocument_eq (p : Profile) :
    p.toDocument = .record (entriesOf keys (p.sections.map fun e => some e.2)) := rfl

/-- **A profile is read back** from its document in every format, without the notes of its nodes. -/
theorem ofDocument?_toDocument (format : Format) {p : Profile}
    (hurl : Url.parse? p.playground.endpoint.text = some p.playground.endpoint) :
    ofDocument? format p.toDocument = some p.unnoted := by
  rw [ofDocument?, toDocument_eq, Document.fields?_entriesOf format nodup_keys rfl]
  simp -implicitDefEqProofs only [sections, List.map_cons, List.map_nil, orElse,
    Cluster.ofDocument?_toDocument, CertificateAuthority.ofDocument?_toDocument,
    GoToolchain.ofDocument?_toDocument, SourceBuild.ofDocument?_toDocument,
    Rkt.ofDocument?_toDocument, Kubernetes.ofDocument?_toDocument,
    Operator.ofDocument?_toDocument, PlaygroundSettings.ofDocument?_toDocument format hurl,
    Option.bind_eq_bind, Option.bind_some, Option.pure_def]
  rfl

end Profile
end EtcdKit
