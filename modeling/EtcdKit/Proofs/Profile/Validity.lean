import EtcdKit.Proofs.Cluster.Validity
import EtcdKit.Proofs.Text.Visible
/-!
# Validity — what a profile is refused for first

A profile is checked from its first node to its endpoint, and the check ends at the first violation.
The nodes come first, from left to right, each for a blank name and then for a name that stands before
it (`nameFault?_eq_some_iff`); their number comes next, then the playground (`fault?_eq_some_iff`).
-/
namespace EtcdKit
namespace Cluster

/-- Every name has a character that is not white space, and no name stands twice. -/
structure SoundNames (ns : List Node) : Prop where
  visible : ∀ n ∈ ns, ∃ ch ∈ n.name.toList, Text.isBlankChar ch = false
  distinct : (ns.map (·.name)).Nodup

/-- The names are sound, and there are as many nodes as the size asks for unless it is too large. -/
structure Sound (c : Cluster) : Prop where
  names : SoundNames c.nodes
  enough : 7 < c.size.toNat ∨ max c.size.toNat 1 ≤ c.nodes.length

theorem soundNames_iff {ns : List Node} :
    SoundNames ns ↔ (∀ n ∈ ns, Text.isBlank n.name = false) ∧ (ns.map (·.name)).Nodup := by
  constructor
  · rintro ⟨hvisible, hdistinct⟩
    exact ⟨fun n hn => Text.isBlank_eq_false_iff.2 (hvisible n hn), hdistinct⟩
  · rintro ⟨hvisible, hdistinct⟩
    exact ⟨fun n hn => Text.isBlank_eq_false_iff.1 (hvisible n hn), hdistinct⟩

theorem nameFault?_nil_eq_none_iff (ns : List Node) : nameFault? [] ns = none ↔ SoundNames ns := by
  rw [nameFault?_eq_none_iff, soundNames_iff]
  simp only [List.not_mem_nil, not_false_eq_true, implies_true, and_true]

/-- The name is blank, or it is not and has been seen before. -/
def NameFaults (seen : List String) (name : String) (fault : ProfileFault) : Prop :=
  Text.isBlank name = true ∧ fault = .blankNodeName ∨
    Text.isBlank name = false ∧ name ∈ seen ∧ fault = .repeatedNodeName name

section Names

variable {seen : List String} {n : Node} {fault : ProfileFault}

theorem nameFault?_of_faults (h : NameFaults seen n.name fault) (ns : List Node) :
    nameFault? seen (n :: ns) = some fault := by
  rw [nameFault?]
  rcases h with ⟨hblank, rfl⟩ | ⟨hvisible, hseen, rfl⟩
  · rw [if_pos hblank]
  · rw [if_neg (Bool.eq_false_iff.1 hvisible), if_pos (List.contains_iff_mem.2 hseen)]

theorem nameFault?_of_not_faults (h : ∀ fault, ¬ NameFaults seen n.name fault) (ns : List Node) :
    nameFault? seen (n :: ns) = nameFault? (n.name :: seen) ns := by
  have hvisible : ¬ Text.isBlank n.name = true := fun hblank => h _ (.inl ⟨hblank, rfl⟩)
  have hnew : ¬ seen.contains n.name = true := fun hseen =>
    h _ (.inr ⟨Bool.eq_false_iff.2 hvisible, List.contains_iff_mem.1 hseen, rfl⟩)
  rw [nameFault?, if_neg hvisible, if_neg hnew]

theorem nameFault?_append : ∀ {before : List Node} {seen : List String},
    nameFault? seen before = none → ∀ ns, nameFault? seen (before ++ ns) =
      nameFault? ((before.map (·.name)).reverse ++ seen) ns
  | [], _, _, _ => rfl
  | m :: before, seen, h, ns => by
    have hm : ∀ fault, ¬ NameFaults seen m.name fault := fun fault hfault => by
      rw [nameFault?_of_faults hfault] at h
      cases h
    rw [nameFault?_of_not_faults hm] at h
    rw [List.cons_append, nameFault?_of_not_faults hm, nameFault?_append h]
    simp

end Names

/-- **The first fault of names** is that of a node before which there is none. -/
theorem nameFault?_eq_some_iff {seen : List String} {ns : List Node} {fault : ProfileFault} :
    nameFault? seen ns = some fault ↔
      ∃ before n after, ns = before ++ n :: after ∧ nameFault? seen before = none ∧
        NameFaults ((before.map (·.name)).reverse ++ seen) n.name fault := by
  constructor
  · intro h
    induction ns generalizing seen with
    | nil => cases h
    | cons m ms ih =>
      by_cases hm : ∃ first, NameFaults seen m.name first
      -- this node is the first, or its name is one of those that the others may repeat
      · obtain ⟨first, hfirst⟩ := hm
        rw [nameFault?_of_faults hfirst] at h
        obtain rfl := Option.some.inj h
        exact ⟨[], m, ms, rfl, rfl, hfirst⟩
      · rw [not_exists] at hm
        rw [nameFault?_of_not_faults hm] at h
        obtain ⟨before, n, after, rfl, hbefore, hn⟩ := ih h
        refine ⟨m :: before, n, after, rfl, (nameFault?_of_not_faults hm _).trans hbefore, ?_⟩
        simpa using hn
  · rintro ⟨before, n, after, rfl, hbefore, hn⟩
    rw [nameFault?_append hbefore]
    exact nameFault?_of_faults hn after

theorem fault?_eq_none_iff_sound {c : Cluster} : c.fault? = none ↔ c.Sound := by
  have henough : (c.oversize = false → c.requiredMembers ≤ c.nodes.length) ↔
      7 < c.size.toNat ∨ max c.size.toNat 1 ≤ c.nodes.length := by
    rw [oversize_eq_false_iff]
    constructor
    · intro h
      by_cases hsize : c.size.toNat ≤ 7
      · exact .inr (requiredMembers_eq_max hsize ▸ h hsize)
      · exact .inl (Nat.lt_of_not_le hsize)
    · intro h hsize
      rw [requiredMembers_eq_max hsize]
      exact h.resolve_left (Nat.not_lt.2 hsize)
  rw [fault?_eq_none_iff, henough, ← and_assoc]
  constructor
  · rintro ⟨hnames, hnodes⟩
    exact ⟨soundNames_iff.2 hnames, hnodes⟩
  · rintro ⟨hnames, hnodes⟩
    exact ⟨soundNames_iff.1 hnames, hnodes⟩

/-- What a cluster is refused for first, and how that is worded. -/
inductive FirstViolation (c : Cluster) : ProfileFault → String → Prop
  | blankName {before after : List Node} {n : Node} (nodes : c.nodes = before ++ n :: after)
      (sound : SoundNames before) (blank : ∀ ch ∈ n.name.toList, Text.isBlankChar ch = true) :
      FirstViolation c .blankNodeName "node name must not be empty"
  | repeatedName {before after : List Node} {n : Node} (nodes : c.nodes = before ++ n :: after)
      (sound : SoundNames before) (visible : ∃ ch ∈ n.name.toList, Text.isBlankChar ch = false)
      (repeats : n.name ∈ before.map (·.name)) :
      FirstViolation c (.repeatedNodeName n.name) ("duplicate node name '" ++ n.name ++ "'")
  | tooFewNodes (names : SoundNames c.nodes) (supported : c.size.toNat ≤ 7)
      (few : c.nodes.length < max c.size.toNat 1) :
      FirstViolation c (.tooFewNodes c.size.toNat (max c.size.toNat 1) c.nodes.length)
        ("cluster_size " ++ toString c.size.toNat ++ " needs at least " ++
          toString (max c.size.toNat 1) ++ " node(s), found " ++ toString c.nodes.length)

theorem fault?_of_firstViolation {c : Cluster} {fault : ProfileFault} {text : String}
    (h : c.FirstViolation fault text) : c.fault? = some fault ∧ fault.message = text := by
  cases h with
  | blankName nodes sound blank =>
    have hnames : nameFault? [] c.nodes = some .blankNodeName :=
      nameFault?_eq_some_iff.2 ⟨_, _, _, nodes, (nameFault?_nil_eq_none_iff _).2 sound,
        .inl ⟨Text.isBlank_eq_true_iff.2 blank, rfl⟩⟩
    rw [fault?, hnames]
    exact ⟨rfl, rfl⟩
  | @repeatedName _ _ n nodes sound visible repeats =>
    have hnames : nameFault? [] c.nodes = some (.repeatedNodeName n.name) :=
      nameFault?_eq_some_iff.2 ⟨_, _, _, nodes, (nameFault?_nil_eq_none_iff _).2 sound,
        .inr ⟨Text.isBlank_eq_false_iff.2 visible, by simpa using repeats, rfl⟩⟩
    rw [fault?, hnames]
    exact ⟨rfl, rfl⟩
  | tooFewNodes names supported few =>
    rw [fault?, (nameFault?_nil_eq_none_iff _).2 names]
    rw [← requiredMembers_eq_max supported] at few ⊢
    simp only [oversize_eq_false_iff.2 supported, Bool.false_eq_true, if_false, if_pos few]
    exact ⟨trivial, rfl⟩

theorem firstViolation_of_fault? {c : Cluster} {fault : ProfileFault} (h : c.fault? = some fault) :
    c.FirstViolation fault fault.message := by
  rw [fault?] at h
  cases hnames : nameFault? [] c.nodes with
  | some first =>
    simp only [hnames, Option.some.injEq] at h
    subst h
    obtain ⟨before, n, after, hnodes, hbefore, hn⟩ := nameFault?_eq_some_iff.1 hnames
    have hsound := (nameFault?_nil_eq_none_iff _).1 hbefore
    rcases hn with ⟨hblank, rfl⟩ | ⟨hvisible, hrepeats, rfl⟩
    · exact .blankName hnodes hsound (Text.isBlank_eq_true_iff.1 hblank)
    · have hbefore : n.name ∈ before.map (·.name) := by simpa using hrepeats
      exact .repeatedName hnodes hsound (Text.isBlank_eq_false_iff.1 hvisible) hbefore
  | none =>
    simp only [hnames] at h
    split at h
    · cases h
    rename_i hoversize
    split at h
    · rename_i hfew
      have hsize := oversize_eq_false_iff.1 (Bool.not_eq_true _ ▸ hoversize)
      have hsound := (nameFault?_nil_eq_none_iff _).1 hnames
      rw [requiredMembers_eq_max hsize] at h hfew
      cases h
      exact .tooFewNodes hsound hsize hfew
    · cases h

end Cluster

namespace Profile

/-- What a profile is refused for first, and how that is worded. -/
inductive FirstViolation (p : Profile) : ProfileFault → String → Prop
  | cluster {fault : ProfileFault} {text : String} (first : p.cluster.FirstViolation fault text) :
      FirstViolation p fault text
  | zeroTimeout (sound : p.cluster.Sound) (timeout : p.playground.timeoutSeconds.toNat = 0) :
      FirstViolation p .zeroTimeout "playground timeout_secs must be greater than 0"
  | endpointNotBase (sound : p.cluster.Sound) (timeout : 0 < p.playground.timeoutSeconds.toNat)
      (endpoint : p.playground.endpoint.canBeBase = false) :
      FirstViolation p (.endpointNotBase p.playground.endpoint.text)
        ("playground endpoint '" ++ p.playground.endpoint.text ++ "' cannot be used as a base URL")

theorem zeroTimeout_iff {s : PlaygroundSettings} :
    s.timeoutSeconds = 0 ↔ s.timeoutSeconds.toNat = 0 :=
  UInt64.toNat_inj.symm

theorem playground_fault?_eq_none_iff {s : PlaygroundSettings} :
    s.fault? = none ↔ 0 < s.timeoutSeconds.toNat ∧ s.endpoint.canBeBase = true := by
  unfold PlaygroundSettings.fault?
  by_cases hzero : s.timeoutSeconds = 0
  · simp [hzero]
  · have hpositive : 0 < s.timeoutSeconds.toNat :=
      Nat.pos_of_ne_zero fun h => hzero (zeroTimeout_iff.2 h)
    rw [if_neg hzero]
    cases s.endpoint.canBeBase <;> simp [hpositive]

theorem fault?_of_firstViolation {p : Profile} {fault : ProfileFault} {text : String}
    (h : p.FirstViolation fault text) : p.fault? = some fault ∧ fault.message = text := by
  rw [fault?]
  cases h with
  | cluster first =>
    obtain ⟨hfault, hmessage⟩ := Cluster.fault?_of_firstViolation first
    rw [hfault]
    exact ⟨rfl, hmessage⟩
  | zeroTimeout sound timeout =>
    rw [Cluster.fault?_eq_none_iff_sound.2 sound]
    simp only [PlaygroundSettings.fault?, if_pos (zeroTimeout_iff.2 timeout)]
    exact ⟨trivial, rfl⟩
  | endpointNotBase sound timeout endpoint =>
    have hpositive : ¬ p.playground.timeoutSeconds = 0 := fun h =>
      Nat.ne_of_gt timeout (zeroTimeout_iff.1 h)
    rw [Cluster.fault?_eq_none_iff_sound.2 sound]
    simp only [PlaygroundSettings.fault?, if_neg hpositive, endpoint, Bool.false_eq_true, if_false]
    exact ⟨trivial, rfl⟩

theorem firstViolation_of_fault? {p : Profile} {fault : ProfileFault} (h : p.fault? = some fault) :
    p.FirstViolation fault fault.message := by
  rw [fault?] at h
  cases hcluster : p.cluster.fault? with
  | some first =>
    simp only [hcluster, Option.some.injEq] at h
    exact .cluster (Cluster.firstViolation_of_fault? (h ▸ hcluster))
  | none =>
    have hsound := Cluster.fault?_eq_none_iff_sound.1 hcluster
    simp only [hcluster, PlaygroundSettings.fault?] at h
    split at h
    · rename_i hzero
      cases h
      exact .zeroTimeout hsound (zeroTimeout_iff.1 hzero)
    rename_i hpositive
    split at h
    · cases h
    · rename_i hbase
      cases h
      have htimeout := Nat.pos_of_ne_zero fun h => hpositive (zeroTimeout_iff.2 h)
      exact .endpointNotBase hsound htimeout (Bool.not_eq_true _ ▸ hbase)

/-- **A profile is accepted, or refused for its first violation.**  It is accepted exactly if every name
of a node has a character that is not white space, the names are distinct, there are as many nodes as the
size asks for, one at least, unless the size is above seven, the timeout is not zero, and the endpoint can
be a base.  An error is that of the first violation, and says which it is. -/
theorem validate_finds_first_violation (p : Profile) :
    (p.validate = .ok () ↔
      (∀ n ∈ p.cluster.nodes, ∃ ch ∈ n.name.toList, Text.isBlankChar ch = false) ∧
        (p.cluster.nodes.map (·.name)).Nodup ∧
        (7 < p.cluster.size.toNat ∨ max p.cluster.size.toNat 1 ≤ p.cluster.nodes.length) ∧
        0 < p.playground.timeoutSeconds.toNat ∧
        p.playground.endpoint.canBeBase = true) ∧
    ∀ e, p.validate = .error e ↔
      ∃ fault text, p.FirstViolation fault text ∧ e = .invalidProfile fault ∧
        e.message = "Invalid profile: " ++ text := by
  constructor
  · rw [validate_eq_ok_iff, Cluster.fault?_eq_none_iff_sound, playground_fault?_eq_none_iff]
    constructor
    · rintro ⟨⟨⟨hvisible, hdistinct⟩, henough⟩, hplayground⟩
      exact ⟨hvisible, hdistinct, henough, hplayground⟩
    · rintro ⟨hvisible, hdistinct, henough, hplayground⟩
      exact ⟨⟨⟨hvisible, hdistinct⟩, henough⟩, hplayground⟩
  · intro e
    rw [validate]
    constructor
    · intro h
      cases hfault : p.fault? with
      | none => simp [hfault] at h
      | some fault =>
        simp only [hfault, Except.error.injEq] at h
        exact ⟨fault, fault.message, firstViolation_of_fault? hfault, h.symm, h ▸ rfl⟩
    · rintro ⟨fault, text, hviolation, rfl, -⟩
      rw [(fault?_of_firstViolation hviolation).1]

end Profile
end EtcdKit
