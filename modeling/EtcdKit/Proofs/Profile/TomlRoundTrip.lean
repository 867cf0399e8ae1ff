import EtcdKit.Profile.Loading
import EtcdKit.Proofs.Profile.Records
import EtcdKit.Proofs.Toml.Shapes
/-!
# TomlRoundTrip — a valid profile is read back from its TOML text

Every section of a profile has the shape that is read back (`isSection_of_mem_sections`), and only
six of its numbers can be too large for a file (`allFit_sections`).  A profile has a text unless one
of these is, and the text is read as the profile (`parseToml_toToml`).
-/
namespace EtcdKit

open Shape (entriesOf)
open Text (signedLimit)
open Toml (IsLeaf IsRecord IsSection BareKeys AllFit LeafField FieldFits numbers numbersOfItems
  numbersOfEntries maxInteger allFit_append allFit_of_fields isLeaf_of_mem_entriesOf
  isRecord_entriesOf isSection_of_fields)

/-! ## The shape of a profile -/

theorem Node.isRecord_toDocument (n : Node) : IsRecord n.toDocument := by
  rw [toDocument_eq]
  exact isRecord_entriesOf (by decide) nodup_keys (by simp [values])

namespace Cluster

/-- The values of the fields in front of the nodes. -/
def leafValues (c : Cluster) : List (Option Document) := c.values.dropLast

theorem leafField_leafValues (c : Cluster) : ∀ value ∈ c.leafValues, LeafField value := by
  simp [leafValues, values]

/-- **A cluster is a section**: its nodes are a list of records, or a leaf if there are none. -/
theorem isSection_toDocument (c : Cluster) : IsSection c.toDocument := by
  have hdoc : c.toDocument = .record (entriesOf keys.dropLast c.leafValues ++
      [("nodes", .list (c.nodes.map Node.toDocument))]) := rfl
  have hbare : BareKeys keys := by decide
  have hleaf : ∀ e ∈ entriesOf keys.dropLast c.leafValues, IsLeaf e.2 :=
    isLeaf_of_mem_entriesOf c.leafField_leafValues
  rw [hdoc]
  cases hn : c.nodes with
  | nil =>
    refine IsRecord.isSection (.mk (fun e he => ?_) hbare nodup_keys)
    rcases List.mem_append.1 he with he | he
    · exact hleaf e he
    · cases List.mem_singleton.1 he
      exact .empty
  | cons first rest =>
    refine .mk hleaf (fun e he => ?_) hbare nodup_keys
    cases List.mem_singleton.1 he
    refine .mk fun d hd => ?_
    have hd : d ∈ (first :: rest).map Node.toDocument := hd
    obtain ⟨n, -, rfl⟩ := List.mem_map.1 hd
    exact n.isRecord_toDocument

end Cluster

/-- **Every section of a profile has the shape that is read back.** -/
theorem Profile.isSection_of_mem_sections (p : Profile) : ∀ e ∈ p.sections, IsSection e.2 := by
  simp only [sections, List.forall_mem_cons, List.not_mem_nil, false_implies, implies_true,
    and_true]
  exact ⟨p.cluster.isSection_toDocument,
    isSection_of_fields p.certificates.toDocument_eq (by decide) CertificateAuthority.nodup_keys
      (by simp [CertificateAuthority.values]),
    isSection_of_fields p.go.toDocument_eq (by decide) GoToolchain.nodup_keys
      (by simp [GoToolchain.values]),
    isSection_of_fields p.source.toDocument_eq (by decide) SourceBuild.nodup_keys
      (by simp [SourceBuild.values]),
    isSection_of_fields p.rkt.toDocument_eq (by decide) Rkt.nodup_keys (by simp [Rkt.values]),
    isSection_of_fields p.kubernetes.toDocument_eq (by decide) Kubernetes.nodup_keys
      (by simp [Kubernetes.values]),
    isSection_of_fields p.operator.toDocument_eq (by decide) Operator.nodup_keys
      (by simp [Operator.values]),
    isSection_of_fields p.playground.toDocument_eq (by decide) PlaygroundSettings.nodup_keys
      (by simp [PlaygroundSettings.values])⟩

/-! ## The numbers of a profile -/

theorem uint16_le_maxInteger (n : UInt16) : (n.toNat : Int) ≤ maxInteger := by
  have := n.toNat_lt
  unfold maxInteger signedLimit
  omega

theorem uint32_le_maxInteger (n : UInt32) : (n.toNat : Int) ≤ maxInteger := by
  have := n.toNat_lt
  unfold maxInteger signedLimit
  omega

/-- The ports of a node can always be written. -/
theorem Node.allFit_toDocument (n : Node) : AllFit (numbers n.toDocument) := by
  rw [allFit_of_fields n.toDocument_eq rfl]
  simp [values, uint16_le_maxInteger]

theorem allFit_nodes : ∀ nodes : List Node, AllFit (numbersOfItems (nodes.map Node.toDocument))
  | [] => List.forall_mem_nil _
  | n :: nodes => allFit_append.2 ⟨n.allFit_toDocument, allFit_nodes nodes⟩

theorem Cluster.allFit_toDocument (c : Cluster) : AllFit (numbers c.toDocument) := by
  rw [allFit_of_fields c.toDocument_eq rfl]
  have hnodes : FieldFits (some (.list (c.nodes.map Node.toDocument))) := fun _ h => by
    cases h
    exact allFit_nodes c.nodes
  simp [values, uint32_le_maxInteger, hnodes]

namespace Profile

/-- The numbers of a profile that take sixty-four bits. -/
def longNumbers (p : Profile) : List UInt64 :=
  [p.certificates.keySize, p.certificates.keyExpiryHours, p.operator.snapshotInterval,
    p.operator.maxSnapshots, p.operator.backupVolume, p.playground.timeoutSeconds]

/-- **A number of a profile is too large for a file** only if it takes sixty-four bits and is not
below two to the sixty-third. -/
theorem allFit_sections (p : Profile) :
    AllFit (numbersOfEntries p.sections) ↔ ∀ n ∈ p.longNumbers, n.toNat < signedLimit := by
  have hle : ∀ n : Nat, (n : Int) ≤ maxInteger ↔ n < signedLimit := fun n => by
    unfold maxInteger
    omega
  simp only [sections, numbersOfEntries, allFit_append, Cluster.allFit_toDocument,
    allFit_of_fields p.certificates.toDocument_eq rfl, allFit_of_fields p.go.toDocument_eq rfl,
    allFit_of_fields p.source.toDocument_eq rfl, allFit_of_fields p.rkt.toDocument_eq rfl,
    allFit_of_fields p.kubernetes.toDocument_eq rfl, allFit_of_fields p.operator.toDocument_eq rfl,
    allFit_of_fields p.playground.toDocument_eq rfl]
  simp [CertificateAuthority.values, GoToolchain.values, SourceBuild.values, Rkt.values,
    Kubernetes.values, Operator.values, PlaygroundSettings.values, longNumbers, hle, AllFit,
    and_assoc]

/-! ## The round trip -/

/-- A profile has a text unless one of its long numbers is too large. -/
theorem isSome_write?_sections (p : Profile) :
    (Toml.write? p.sections).isSome = true ↔ ∀ n ∈ p.longNumbers, n.toNat < signedLimit := by
  rw [Toml.write?, Option.isSome_map, Toml.isSome_sections? p.isSection_of_mem_sections,
    allFit_sections]

/-- **The text of a profile holds its document.** -/
theorem read?_of_write?_sections {p : Profile} {text : String}
    (h : Toml.write? p.sections = some text) : Toml.read? text = some p.toDocument := by
  have hbare : BareKeys (p.sections.map Prod.fst) := (by decide : BareKeys keys)
  exact Toml.read?_write? hbare p.isSection_of_mem_sections nodup_keys h

/-- **A valid profile is read back from its TOML text.**  It has none only if one of its long
numbers is too large.  Member lists that are noted in nodes are not part of a file, and the text of
the endpoint has to be read as the endpoint. -/
theorem parseToml_toToml {p : Profile} (hvalid : p.validate = .ok ())
    (hnotes : ∀ n ∈ p.cluster.nodes, n.initialCluster = "")
    (hurl : Url.parse? p.playground.endpoint.text = some p.playground.endpoint) :
    (p.toToml = .error .tomlUnwritable ↔ ∃ n ∈ p.longNumbers, signedLimit ≤ n.toNat) ∧
      ((∀ n ∈ p.longNumbers, n.toNat < signedLimit) →
        ∃ text, p.toToml = .ok text ∧ parseToml text = .ok p) := by
  have hsome := p.isSome_write?_sections
  cases hwrite : Toml.write? p.sections with
  | none =>
    have herror : p.toToml = .error .tomlUnwritable := by rw [toToml, hwrite]
    have hlarge : ¬ ∀ n ∈ p.longNumbers, n.toNat < signedLimit := fun h => by
      have := hsome.2 h
      rw [hwrite] at this
      cases this
    refine ⟨⟨fun _ => ?_, fun _ => herror⟩, fun h => absurd h hlarge⟩
    obtain ⟨n, hn⟩ := Classical.not_forall.1 hlarge
    obtain ⟨hmem, hle⟩ := Classical.not_imp.1 hn
    exact ⟨n, hmem, Nat.le_of_not_lt hle⟩
  | some text =>
    have hok : p.toToml = .ok text := by rw [toToml, hwrite]
    have hfit : ∀ n ∈ p.longNumbers, n.toNat < signedLimit := hsome.1 (by rw [hwrite]; rfl)
    refine ⟨⟨fun h => ?_, fun ⟨n, hmem, hle⟩ => ?_⟩, fun _ => ⟨text, hok, ?_⟩⟩
    · rw [hok] at h
      cases h
    · exact absurd (hfit n hmem) (Nat.not_lt_of_le hle)
    · rw [parseToml, read?_of_write?_sections hwrite, Option.bind_some,
        ofDocument?_toDocument .toml hurl, unnoted_eq_self hnotes]
      dsimp only
      rw [checked, hvalid]

/-- A profile with a cluster that is too large and has no nodes, and with strings of every form. -/
def awkward : Profile :=
  { cluster :=
      { Sample.cluster with
        version := "runs \"\"\"\" and \x27\x27\x27 \\"
        execDir := "two\nlines \"\"\""
        rootPrefix := "C:\\root\x27s"
        size := 9
        nodes := [] }
    certificates := { organization := "\r\x00\t", city := "Zürich" }
    playground := Sample.playground }

/-- The same profile with two nodes that stand in it without directories or with empty ones. -/
def awkwardNodes : Profile :=
  { awkward with cluster := { awkward.cluster with nodes := [
    { Sample.node "a" 1 2 with dataDir := none, certsDir := some "" },
    { Sample.node "b\n" 3 4 with dataDir := some "", certsDir := none }] } }

/-- Both have a text, and are read back from it. -/
theorem awkward_parseToml_toToml :
    (∃ text, awkward.toToml = .ok text ∧ parseToml text = .ok awkward) ∧
      ∃ text, awkwardNodes.toToml = .ok text ∧ parseToml text = .ok awkwardNodes :=
  ⟨(parseToml_toToml (by rfl) (by decide) (by decide +kernel)).2
      (by simp [longNumbers, signedLimit, awkward, Sample.playground]),
    (parseToml_toToml (by rfl) (by decide) (by decide +kernel)).2
      (by simp [longNumbers, signedLimit, awkwardNodes, awkward, Sample.playground])⟩

end Profile
end EtcdKit
