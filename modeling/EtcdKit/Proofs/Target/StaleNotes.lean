import EtcdKit.Profile.Loading
import EtcdKit.Proofs.Cluster.MemberList
import EtcdKit.Proofs.Target.ExchangedNodes
/-!
# StaleNotes — the member list that a node has noted is never read

A node may carry the member list that was last computed for it.  Clearing the notes of all nodes
(`Profile.unnoted`) changes no text that is rendered, no verdict on the profile and nothing that is
written into a file, so profiles that differ only in their notes cannot be told apart
(`stale_notes_are_never_read`).  Noting the list again changes nothing but the notes, and doing it
twice is doing it once (`withInitialCluster_again`).
-/
namespace EtcdKit
namespace Cluster

variable (c : Cluster)

/-- Only notes are lost when the notes are cleared. -/
theorem corresponds_unnoted : c.Corresponds (c.nodes.map Node.unnoted) c.size Node.unnoted where
  onlyNotes := fun _ => rfl
  members := c.members_mapNodes Node.unnoted
  oversize := rfl

theorem nodeOrFirst_unnoted (name : Option String) :
    c.unnoted.nodeOrFirst name = (c.nodeOrFirst name).map Node.unnoted :=
  nodeOrFirst_mapNodes (g := Node.unnoted) c (fun _ => rfl) name

theorem nameFault?_map_unnoted : ∀ (ns : List Node) (seen : List String),
    nameFault? seen (ns.map Node.unnoted) = nameFault? seen ns
  | [], _ => rfl
  | n :: ns, seen => by
    have hrest := nameFault?_map_unnoted ns (n.name :: seen)
    have hname : n.unnoted.name = n.name := rfl
    rw [List.map_cons, nameFault?, nameFault?, hname, hrest]

theorem fault?_unnoted : c.unnoted.fault? = c.fault? := by
  have hnames : nameFault? [] c.unnoted.nodes = nameFault? [] c.nodes :=
    nameFault?_map_unnoted c.nodes []
  have hlength : c.unnoted.nodes.length = c.nodes.length := List.length_map _
  unfold fault?
  rw [hnames, hlength]
  rfl

theorem toDocument_unnoted : c.unnoted.toDocument = c.toDocument := by
  have hnodes : c.unnoted.nodes.map Node.toDocument = c.nodes.map Node.toDocument := by
    rw [show c.unnoted.nodes = c.nodes.map Node.unnoted from rfl, List.map_map]
    rfl
  unfold toDocument
  rw [hnodes]
  rfl

end Cluster

/-! ## Noting the list -/

/-- The node with a member list noted in it. -/
def Node.noting (text : String) (n : Node) : Node := { n with initialCluster := text }

namespace Cluster

variable {c : Cluster}

theorem withInitialCluster_of_le (h : c.size.toNat ≤ 7) :
    c.withInitialCluster = (c.initialClusterText, c.nodes.map (Node.noting c.initialClusterText)) := by
  unfold withInitialCluster
  rw [oversize_eq_false_iff.2 h]
  rfl

theorem withInitialCluster_of_lt (h : 7 < c.size.toNat) :
    c.withInitialCluster = (c.initialClusterText, c.nodes) := by
  unfold withInitialCluster
  rw [oversize_eq_true_iff.2 h]
  rfl

/-- **Noting keeps every node in its place** and all but its note; what is noted is the list, and
nothing is noted where the declared size is too large. -/
theorem withInitialCluster_forall₂ (c : Cluster) :
    List.Forall₂ (fun noted n => noted.unnoted = n.unnoted ∧ noted.initialCluster =
        if c.size.toNat ≤ 7 then c.withInitialCluster.1 else n.initialCluster)
      c.withInitialCluster.2 c.nodes := by
  rcases Nat.lt_or_ge 7 c.size.toNat with h | h
  · rw [withInitialCluster_of_lt h, List.forall₂_same]
    exact fun n _ => ⟨rfl, (if_neg (Nat.not_le.2 h)).symm⟩
  · rw [withInitialCluster_of_le h, List.forall₂_map_left_iff, List.forall₂_same]
    exact fun n _ => ⟨rfl, (if_pos h).symm⟩

/-- **Noting twice is noting once.** -/
theorem withInitialCluster_again (c : Cluster) :
    { c with nodes := c.withInitialCluster.2 }.withInitialCluster = c.withInitialCluster := by
  rcases Nat.lt_or_ge 7 c.size.toNat with h | h
  · rw [withInitialCluster_of_lt h]
    exact withInitialCluster_of_lt h
  · -- the list is made of names and addresses, which noting leaves as they are
    let noted := c.mapNodes (Node.noting c.initialClusterText)
    have htext : noted.initialClusterText = c.initialClusterText :=
      initialClusterText_mapNodes c fun _ => rfl
    have htwice : Node.noting c.initialClusterText ∘ Node.noting c.initialClusterText =
        Node.noting c.initialClusterText := rfl
    have hnoted : { c with nodes := c.withInitialCluster.2 } = noted := by
      rw [withInitialCluster_of_le h]
      rfl
    calc { c with nodes := c.withInitialCluster.2 }.withInitialCluster
        = noted.withInitialCluster := by rw [hnoted]
      _ = (noted.initialClusterText, noted.nodes.map (Node.noting noted.initialClusterText)) :=
        withInitialCluster_of_le h
      _ = c.withInitialCluster := by
        rw [htext, show noted.nodes = c.nodes.map (Node.noting c.initialClusterText) from rfl,
          List.map_map, htwice, withInitialCluster_of_le h]

end Cluster

/-! ## The profile -/

namespace Profile

variable (p : Profile)

theorem validate_unnoted : p.unnoted.validate = p.validate := by
  have hcluster : p.unnoted.cluster.fault? = p.cluster.fault? := p.cluster.fault?_unnoted
  unfold validate fault?
  rw [hcluster]
  rfl

theorem sections_unnoted : p.unnoted.sections = p.sections := by
  have hcluster : p.unnoted.cluster.toDocument = p.cluster.toDocument :=
    p.cluster.toDocument_unnoted
  unfold sections
  rw [hcluster]
  rfl

theorem toToml_unnoted : p.unnoted.toToml = p.toToml := by
  unfold toToml
  rw [p.sections_unnoted]

theorem toJson_unnoted : p.unnoted.toJson = p.toJson := by
  unfold toJson toDocument
  rw [p.sections_unnoted]

theorem render_unnoted (t : Target) : t.render p.unnoted = t.render p :=
  Target.render_congr <| Target.script_of_corresponds p.cluster.corresponds_unnoted <|
    p.cluster.nodeOrFirst_unnoted t.nodeName?

/-- **Notes in nodes are never trusted.**  Profiles that differ only in what is noted in their nodes
render every target alike, are both valid or have the same fault, and have the same texts as files.
Noting the member list of a cluster keeps the nodes in their places and changes nothing of them but
their notes: every node notes the list, or keeps its note if the declared size is too large; and the
noted nodes lead to the same list and the same nodes again. -/
theorem stale_notes_are_never_read (p q : Profile) (hpq : p.unnoted = q.unnoted) :
    (∀ t : Target, t.render p = t.render q) ∧ p.validate = q.validate ∧ p.toToml = q.toToml ∧
      p.toJson = q.toJson ∧
      ∀ c : Cluster,
        let text := c.withInitialCluster.1
        let noted := c.withInitialCluster.2
        List.Forall₂ (fun m n => m.unnoted = n.unnoted ∧
            m.initialCluster = if c.size.toNat ≤ 7 then text else n.initialCluster)
          noted c.nodes ∧
        { c with nodes := noted }.withInitialCluster = (text, noted) := by
  refine ⟨fun t => ?_, ?_, ?_, ?_, fun c => ⟨c.withInitialCluster_forall₂,
    c.withInitialCluster_again⟩⟩
  · rw [← render_unnoted p, hpq, render_unnoted q]
  · rw [← validate_unnoted p, hpq, validate_unnoted q]
  · rw [← toToml_unnoted p, hpq, toToml_unnoted q]
  · rw [← toJson_unnoted p, hpq, toJson_unnoted q]

/-- The sample deployment with notes that name other members. -/
def staleSample : Profile :=
  { Sample.profile with cluster := { Sample.cluster with
      nodes := Sample.nodes.map fun n => n.noting (n.name ++ "=http://elsewhere:1") } }

theorem staleSample_is_never_read :
    Sample.profile.unnoted = staleSample.unnoted ∧ Sample.profile ≠ staleSample ∧
      (Target.guide .docker true).render Sample.profile =
        (Target.guide .docker true).render staleSample ∧
      (Target.unit (some "s2") .coreos).render Sample.profile =
        (Target.unit (some "s2") .coreos).render staleSample ∧
      staleSample.validate = .ok () ∧ Sample.profile.toToml = staleSample.toToml ∧
      Sample.profile.toJson = staleSample.toJson := by
  have hsame : Sample.profile.unnoted = staleSample.unnoted := by decide
  obtain ⟨hrender, hvalid, htoml, hjson, -⟩ :=
    stale_notes_are_never_read Sample.profile staleSample hsame
  exact ⟨hsame, by decide, hrender _, hrender _, hvalid ▸ rfl, htoml, hjson⟩

end Profile
end EtcdKit
