import EtcdKit.Profile.Basic
import Mathlib.Data.List.Nodup
/-!
# Validity — what a profile without fault promises

A cluster without fault has nodes whose names are not blank and stand once each, and has as many
nodes as its size asks for unless the size is too large (`fault?_eq_none_iff`).  So a node is found
under its own name (`node_name_of_mem`), and a cluster of a supported size has as many members as it
declares (`members_eq_take`).
-/
namespace EtcdKit
namespace Cluster

/-- No name is blank, none stands twice, and none has been seen before. -/
theorem nameFault?_eq_none_iff : ∀ (ns : List Node) (seen : List String),
    nameFault? seen ns = none ↔
      (∀ n ∈ ns, Text.isBlank n.name = false) ∧ (ns.map (·.name)).Nodup ∧ ∀ n ∈ ns, n.name ∉ seen
  | [], seen => by simp [nameFault?]
  | n :: ns, seen => by
    rw [nameFault?]
    by_cases hb : Text.isBlank n.name = true
    · rw [if_pos hb]
      refine ⟨fun h => by simp at h, fun ⟨h, _⟩ => ?_⟩
      have := h n List.mem_cons_self
      rw [hb] at this
      cases this
    · rw [if_neg hb]
      by_cases hs : seen.contains n.name = true
      · rw [if_pos hs]
        refine ⟨fun h => by simp at h, fun ⟨_, _, h⟩ => ?_⟩
        exact absurd (List.contains_iff_mem.1 hs) (h n List.mem_cons_self)
      · rw [if_neg hs, nameFault?_eq_none_iff ns (n.name :: seen)]
        have hn : n.name ∉ seen := fun h => hs (List.contains_iff_mem.2 h)
        constructor
        · rintro ⟨h1, h2, h3⟩
          refine ⟨?_, ?_, ?_⟩
          · intro m hm
            rcases List.mem_cons.1 hm with rfl | hm
            · simpa using hb
            · exact h1 m hm
          · rw [List.map_cons, List.nodup_cons]
            refine ⟨fun hm => ?_, h2⟩
            obtain ⟨m, hm, he⟩ := List.mem_map.1 hm
            exact h3 m hm (he ▸ List.mem_cons_self)
          · intro m hm
            rcases List.mem_cons.1 hm with rfl | hm
            · exact hn
            · exact fun h => h3 m hm (List.mem_cons_of_mem _ h)
        · rintro ⟨h1, h2, h3⟩
          rw [List.map_cons, List.nodup_cons] at h2
          refine ⟨fun m hm => h1 m (List.mem_cons_of_mem _ hm), h2.2, fun m hm h => ?_⟩
          rcases List.mem_cons.1 h with he | h
          · exact h2.1 (List.mem_map.2 ⟨m, hm, he⟩)
          · exact h3 m (List.mem_cons_of_mem _ hm) h

/-- **A cluster is without fault** exactly when its names are not blank and stand once each, and,
unless its size is too large, it has the members that its size asks for. -/
theorem fault?_eq_none_iff (c : Cluster) :
    c.fault? = none ↔
      (∀ n ∈ c.nodes, Text.isBlank n.name = false) ∧ c.nodeNames.Nodup ∧
        (c.oversize = false → c.requiredMembers ≤ c.nodes.length) := by
  have hnames := nameFault?_eq_none_iff c.nodes []
  simp only [List.not_mem_nil, not_false_eq_true, implies_true, and_true] at hnames
  rw [fault?]
  cases hf : nameFault? [] c.nodes with
  | some fault =>
    rw [hf] at hnames
    refine ⟨fun h => (by cases h), fun ⟨h1, h2, _⟩ => ?_⟩
    cases hnames.2 ⟨h1, h2⟩
  | none =>
    obtain ⟨h1, h2⟩ := hnames.1 hf
    cases ho : c.oversize with
    | true => simp only [if_true, true_iff]; exact ⟨h1, h2, fun h => by cases h⟩
    | false =>
      simp only [Bool.false_eq_true, if_false]
      by_cases hl : c.nodes.length < c.requiredMembers
      · rw [if_pos hl]
        refine ⟨fun h => (by cases h), fun ⟨_, _, h⟩ => ?_⟩
        have := h trivial
        omega
      · rw [if_neg hl]
        exact ⟨fun _ => ⟨h1, h2, fun _ => by omega⟩, fun _ => rfl⟩

/-- **A node is found under its own name** where names stand once each. -/
theorem node_name_of_mem (c : Cluster) (hd : c.nodeNames.Nodup) {n : Node} (hn : n ∈ c.nodes) :
    c.node n.name = .ok n := by
  rw [node]
  cases hf : c.nodes.find? (fun m => m.name == n.name) with
  | none => exact absurd (beq_self_eq_true n.name) (List.find?_eq_none.1 hf n hn)
  | some m =>
    have hm : m ∈ c.nodes := List.mem_of_find?_eq_some hf
    have he : m.name = n.name := by simpa using List.find?_some hf
    rw [List.inj_on_of_nodup_map hd hm hn he]

/-! ## The members of a cluster without fault -/

section Members

variable {c : Cluster}

theorem oversize_eq_true_iff : c.oversize = true ↔ 7 < c.size.toNat := by
  unfold oversize
  exact decide_eq_true_iff

theorem oversize_eq_false_iff : c.oversize = false ↔ c.size.toNat ≤ 7 := by
  rw [← Bool.not_eq_true, oversize_eq_true_iff, Nat.not_lt]

theorem requiredMembers_eq_max (h : c.size.toNat ≤ 7) :
    c.requiredMembers = max c.size.toNat 1 := by
  have hlo : Bounds.clusterSize.lower = 1 := rfl
  have hhi : Bounds.clusterSize.upper = 7 := rfl
  unfold requiredMembers Bounds.clamp
  rw [hlo, hhi]
  split
  · omega
  · split <;> omega

/-- **A valid cluster of a supported size has as many members as it declares**, and one at least. -/
theorem members_eq_take (hc : c.fault? = none) (h : c.size.toNat ≤ 7) :
    c.members = c.nodes.take (max c.size.toNat 1) ∧ max c.size.toNat 1 ≤ c.nodes.length := by
  obtain ⟨-, -, henough⟩ := (fault?_eq_none_iff c).1 hc
  have hle := henough (oversize_eq_false_iff.2 h)
  rw [requiredMembers_eq_max h] at hle
  refine ⟨?_, hle⟩
  rw [members, memberCount, requiredMembers_eq_max h, Nat.min_eq_left hle]

theorem members_ne_nil (hc : c.fault? = none) (h : c.size.toNat ≤ 7) : c.members ≠ [] := by
  obtain ⟨hm, hle⟩ := members_eq_take hc h
  intro hnil
  have hlen : (c.nodes.take (max c.size.toNat 1)).length = 0 := by rw [← hm, hnil]; rfl
  rw [List.length_take] at hlen
  omega

theorem nodup_names_members (hc : c.fault? = none) : (c.members.map (·.name)).Nodup := by
  obtain ⟨-, hnodup, -⟩ := (fault?_eq_none_iff c).1 hc
  exact hnodup.sublist ((List.take_sublist _ _).map _)

end Members

end Cluster

namespace Profile

theorem validate_eq_ok_iff (p : Profile) :
    p.validate = .ok () ↔ p.cluster.fault? = none ∧ p.playground.fault? = none := by
  rw [validate, fault?]
  cases p.cluster.fault? with
  | some fault => simp
  | none => cases p.playground.fault? <;> simp

end Profile
end EtcdKit
