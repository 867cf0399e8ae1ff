import EtcdKit.Proofs.Profile.Settings
/-!
# Reordering — the order of keys does not matter

A document is reordered by permuting the entries of its records, at any depth and as often as one
likes.  What that does to the outermost layer of a document (`Reordered.layer`) is all that the kinds
look at: what a document means, a reordered one means too (`Stable`).
-/
namespace EtcdKit

open Setting (HasText)
open Shape (Field Kind Says Tells exists_of_forall₂)

theorem forall₂_comp {α β γ : Type} {R : α → β → Prop} {S : β → γ → Prop} {T : α → γ → Prop}
    (h : ∀ a b c, R a b → S b c → T a c) : ∀ {as : List α} {bs : List β} {cs : List γ},
      List.Forall₂ R as bs → List.Forall₂ S bs cs → List.Forall₂ T as cs
  | _, _, _, .nil, .nil => .nil
  | _, _, _, .cons hab habs, .cons hbc hbcs => .cons (h _ _ _ hab hbc) (forall₂_comp h habs hbcs)

namespace Document

/-- The entries of records stand in another order, anywhere in the tree. -/
inductive Reordered : Document → Document → Prop
  | refl (d : Document) : Reordered d d
  | perm {entries others : List (String × Document)} (h : entries.Perm others) :
    Reordered (.record entries) (.record others)
  | entry (front back : List (String × Document)) (key : String) {v w : Document}
    (h : Reordered v w) :
    Reordered (.record (front ++ (key, v) :: back)) (.record (front ++ (key, w) :: back))
  | item (front back : List Document) {v w : Document} (h : Reordered v w) :
    Reordered (.list (front ++ v :: back)) (.list (front ++ w :: back))
  | trans {d e f : Document} (first : Reordered d e) (second : Reordered e f) : Reordered d f

theorem Reordered.symm {d e : Document} (h : d.Reordered e) : e.Reordered d := by
  induction h with
  | refl d => exact .refl d
  | perm h => exact .perm h.symm
  | entry front back key _ ih => exact .entry front back key ih
  | item front back _ ih => exact .item front back ih
  | trans _ _ ih₁ ih₂ => exact .trans ih₂ ih₁

/-- The outermost layer after a reordering: the same leaf, items reordered one by one, or the same
keys with reordered values. -/
def Layer : Document → Document → Prop
  | .list items, e => ∃ others, e = .list others ∧ List.Forall₂ Reordered items others
  | .record entries, e => ∃ others, e = .record others ∧
    (entries.map Prod.fst).Perm (others.map Prod.fst) ∧
    ∀ key w, (key, w) ∈ others → ∃ v, (key, v) ∈ entries ∧ v.Reordered w
  | d, e => e = d

theorem layer_refl (d : Document) : Layer d d := by
  cases d with
  | list items => exact ⟨items, rfl, List.forall₂_same.2 fun item _ => .refl item⟩
  | record entries => exact ⟨entries, rfl, .refl _, fun key w hw => ⟨w, hw, .refl w⟩⟩
  | _ => rfl

theorem Layer.trans {d e f : Document} (first : Layer d e) (second : Layer e f) : Layer d f := by
  cases d with
  | list items =>
    obtain ⟨others, rfl, heach⟩ := first
    obtain ⟨last, rfl, hlast⟩ := second
    exact ⟨last, rfl, forall₂_comp (fun _ _ _ huv hvw => huv.trans hvw) heach hlast⟩
  | record entries =>
    obtain ⟨others, rfl, hkeys, heach⟩ := first
    obtain ⟨last, rfl, hkeys', hlast⟩ := second
    refine ⟨last, rfl, hkeys.trans hkeys', ?_⟩
    intro key w hw
    obtain ⟨v, hv, hvw⟩ := hlast key w hw
    obtain ⟨u, hu, huv⟩ := heach key v hv
    exact ⟨u, hu, huv.trans hvw⟩
  | _ =>
    obtain rfl := first
    exact second

/-- **A reordering is one in its outermost layer.** -/
theorem Reordered.layer {d e : Document} (h : d.Reordered e) : Layer d e := by
  induction h with
  | refl d => exact layer_refl d
  | perm h => exact ⟨_, rfl, h.map Prod.fst, fun key w hw => ⟨w, h.mem_iff.2 hw, .refl w⟩⟩
  | entry front back key h _ =>
    refine ⟨_, rfl, by simp, ?_⟩
    intro name u hu
    rcases List.mem_append.1 hu with hfront | hback
    · exact ⟨u, List.mem_append_left _ hfront, .refl u⟩
    · rcases List.mem_cons.1 hback with heq | hback
      · obtain ⟨rfl, rfl⟩ := Prod.mk.inj heq
        exact ⟨_, List.mem_append_right _ List.mem_cons_self, h⟩
      · exact ⟨u, List.mem_append_right _ (List.mem_cons_of_mem _ hback), .refl u⟩
  | item front back h _ =>
    have hsame : ∀ items : List Document, List.Forall₂ Reordered items items :=
      fun items => List.forall₂_same.2 fun item _ => .refl item
    exact ⟨_, rfl, List.rel_append (hsame front) (.cons h (hsame back))⟩
  | trans _ _ ih₁ ih₂ => exact ih₁.trans ih₂

/-! ## A reordered settings document is one -/

theorem Plain.of_reordered {d e : Document} (hr : d.Reordered e) (h : d.Plain) : e.Plain := by
  induction hr with
  | refl d => exact h
  | perm hperm => exact .record fun e he => h.of_mem (hperm.mem_iff.2 he)
  | entry front back key _ ih =>
    refine .record fun e he => ?_
    rcases List.mem_append.1 he with hfront | hback
    · exact h.of_mem (List.mem_append_left _ hfront)
    · rcases List.mem_cons.1 hback with rfl | hback
      · exact ih (h.of_mem (List.mem_append_right _ List.mem_cons_self))
      · exact h.of_mem (List.mem_append_right _ (List.mem_cons_of_mem _ hback))
  | item front back _ ih =>
    refine .list fun e he => ?_
    rcases List.mem_append.1 he with hfront | hback
    · exact Document.plain_list_iff.1 h _ (List.mem_append_left _ hfront)
    · rcases List.mem_cons.1 hback with rfl | hback
      · exact ih (Document.plain_list_iff.1 h _ (List.mem_append_right _ List.mem_cons_self))
      · exact Document.plain_list_iff.1 h _ (List.mem_append_right _ (List.mem_cons_of_mem _ hback))
  | trans _ _ ih₁ ih₂ => exact ih₂ (ih₁ h)

theorem IsMap.of_reordered {d e : Document} (hr : d.Reordered e) (h : d.IsMap) : e.IsMap := by
  obtain ⟨entries, rfl, hnodup⟩ := h
  obtain ⟨others, rfl, hkeys, -⟩ := hr.layer
  exact ⟨others, rfl, hkeys.nodup_iff.1 hnodup⟩

theorem Holds.of_reordered {d e : Document} (hr : d.Reordered e) {key : String} {w : Document}
    (h : e.Holds key w) : ∃ v, d.Holds key v ∧ v.Reordered w := by
  obtain ⟨others, rfl, hw⟩ := h
  obtain ⟨entries, rfl, -⟩ := hr.symm.layer
  obtain ⟨_, heq, -, heach⟩ := hr.layer
  obtain rfl := Document.record.inj heq
  obtain ⟨v, hv, hvw⟩ := heach key w hw
  exact ⟨v, ⟨entries, rfl, hv⟩, hvw⟩

theorem IsSettings.of_reordered {d e : Document} (hr : d.Reordered e) (h : d.IsSettings) :
    e.IsSettings := by
  refine ⟨h.plain.of_reordered hr, h.isMap.of_reordered hr, ?_, ?_⟩
  · intro key w hkey hw
    obtain ⟨v, hv, hvw⟩ := hw.of_reordered hr
    exact (h.sections key v hkey hv).of_reordered hvw
  · intro cluster others hcluster hothers other hother
    obtain ⟨original, horiginal, hcluster⟩ := hcluster.of_reordered hr
    obtain ⟨v, hv, hnodes⟩ := hothers.of_reordered hcluster
    -- only the way back tells that the nodes were a list before
    obtain ⟨items, rfl, heach⟩ := hnodes.symm.layer
    obtain ⟨item, hitem, hback⟩ := exists_of_forall₂ heach hother
    exact (h.nodes original items horiginal hv item hitem).of_reordered hback.symm

end Document

/-! ## Kinds do not look at the order -/

namespace Setting

open Document

/-- What a document means, a reordered one means too. -/
def Stable {α : Type} (kind : Kind Document α) : Prop :=
  ∀ d e a, d.Reordered e → kind.Means d a → kind.Means e a

/-- A kind of documents that a reordering leaves as they are. -/
theorem stable_of_layer {α : Type} {kind : Kind Document α}
    (h : ∀ d e a, kind.Means d a → Layer d e → e = d) : Stable kind := by
  intro d e a hr hmeans
  obtain rfl := h d e a hmeans hr.layer
  exact hmeans

theorem HasText.eq_of_layer {d e : Document} {s : String} (h : HasText d s) (hl : Layer d e) :
    e = d := by
  obtain rfl | ⟨w, rfl, -⟩ := h
  · exact hl
  · exact hl

@[simp] theorem stable_text : Stable text := stable_of_layer fun _ _ _ h => h.eq_of_layer

@[simp] theorem stable_truth : Stable truth := by
  refine stable_of_layer ?_
  rintro d e b (rfl | ⟨w, rfl, -⟩) hl
  · exact hl
  · exact hl

theorem stable_number {α : Type} (bound : Nat) (toNat : α → Nat) :
    Stable (number bound toNat) := by
  refine stable_of_layer ?_
  rintro d e n (rfl | ⟨w, rfl, -⟩) hl
  · exact hl
  · exact hl

@[simp] theorem stable_uint16 : Stable uint16 := stable_number _ _

@[simp] theorem stable_uint32 : Stable uint32 := stable_number _ _

@[simp] theorem stable_uint64 : Stable uint64 := stable_number _ _

@[simp] theorem stable_address : Stable address :=
  stable_of_layer fun _ _ _ ⟨_, hs, _⟩ => hs.eq_of_layer

@[simp] theorem stable_directory : Stable directory :=
  stable_of_layer fun _ _ _ ⟨_, hs, _⟩ => hs.eq_of_layer

/-- A key that carries nothing is the only one of its record. -/
theorem eq_of_layer_single {key : String} {v e : Document} (hv : ∀ w, Layer v w → w = v)
    (hl : Layer (.record [(key, v)]) e) : e = .record [(key, v)] := by
  obtain ⟨others, rfl, hkeys, heach⟩ := hl
  obtain ⟨⟨name, w⟩, rfl, rfl⟩ := List.map_eq_singleton_iff.1 (List.singleton_perm.1 hkeys).symm
  obtain ⟨u, hu, huw⟩ := heach name w List.mem_cons_self
  obtain ⟨-, rfl⟩ := Prod.mk.inj (List.mem_singleton.1 hu)
  rw [hv w huw.layer]

@[simp] theorem stable_state (format : Format) : Stable (state format) := by
  refine stable_of_layer ?_
  rintro d e s (h | ⟨-, rfl | rfl⟩) hl
  · exact h.eq_of_layer hl
  · refine eq_of_layer_single ?_ hl
    rintro w ⟨others, rfl, heach⟩
    rw [List.forall₂_nil_left_iff.1 heach]
  · refine eq_of_layer_single ?_ hl
    rintro w ⟨others, rfl, hkeys, -⟩
    rw [List.map_eq_nil_iff.1 (List.nil_perm.1 hkeys)]

theorem stable_listOf {α : Type} {kind : Kind Document α} (h : Stable kind) :
    Stable (listOf kind) := by
  rintro d e as hr ⟨items, rfl, hmeans⟩
  obtain ⟨others, rfl, -⟩ := hr.layer
  -- the layer of the way back leads from the reordered items to those with a meaning
  obtain ⟨_, heq, hback⟩ := hr.symm.layer
  obtain rfl := Document.list.inj heq
  exact ⟨others, rfl, forall₂_comp (fun v w a hvw ha => h w v a hvw.symm ha) hback hmeans⟩

theorem stable_recordOf {ρ : Type} {fields : List (Field Document ρ)} {Rest : ρ → Prop}
    (h : ∀ f ∈ fields, Stable f.kind) : Stable (recordOf fields Rest) := by
  rintro d e r hr ⟨entries, rfl, hknown, hsaid, hrest⟩
  obtain ⟨others, rfl, hkeys, heach⟩ := hr.layer
  refine ⟨others, rfl, ?_, ?_, hrest⟩
  · intro key hkey
    exact hknown key (hkeys.mem_iff.2 hkey)
  · intro f hf
    refine ⟨?_, ?_⟩
    · intro w hw
      obtain ⟨v, hv, hvw⟩ := heach f.name w hw
      exact h f hf v w _ hvw ((hsaid f hf).1 v hv)
    · intro hnot
      exact (hsaid f hf).2 fun hmem => hnot (hkeys.mem_iff.1 hmem)

end Setting
end EtcdKit
