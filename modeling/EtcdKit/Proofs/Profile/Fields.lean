import EtcdKit.Document
/-!
# Fields — a record that is written field by field

The entries of a record are its fields that have a value, in the order of the fields
(`Shape.entriesOf`).  Found by name they are the values again, with nothing in place of a field
without a value (`fields?_entriesOf`).
-/
namespace EtcdKit

namespace Shape

variable {δ : Type}

/-- The entries of the fields that have a value. -/
def entriesOf : List String → List (Option δ) → List (String × δ)
  | name :: names, some value :: values => (name, value) :: entriesOf names values
  | _ :: names, none :: values => entriesOf names values
  | _, _ => []

/-- The keys of the entries are fields, in the order of the fields. -/
theorem keys_entriesOf_sublist : ∀ (names : List String) (values : List (Option δ)),
    ((entriesOf names values).map Prod.fst).Sublist names
  | [], [] => List.Sublist.slnil
  | [], _ :: _ => List.Sublist.slnil
  | _ :: _, [] => List.nil_sublist _
  | name :: names, some _ :: values => (keys_entriesOf_sublist names values).cons_cons name
  | name :: names, none :: values => (keys_entriesOf_sublist names values).cons name

theorem valuesNamed_of_not_mem {name : String} {entries : List (String × δ)}
    (h : name ∉ entries.map Prod.fst) : valuesNamed name entries = [] := by
  rw [valuesNamed, List.filter_eq_nil_iff.2, List.map_nil]
  intro e he hname
  exact h (List.mem_map.2 ⟨e, he, beq_iff_eq.1 hname⟩)

theorem byName?_cons (name : String) (names : List String) (entries : List (String × δ)) :
    byName? (name :: names) entries =
      (valueOf? entries name).bind fun value => (byName? names entries).map (value :: ·) := by
  rw [byName?, List.mapM_cons]
  cases valueOf? entries name with
  | none => rfl
  | some value =>
    change (byName? names entries).bind _ = (byName? names entries).map _
    cases byName? names entries <;> rfl

/-- An entry under another name does not matter. -/
theorem byName?_skip {key : String} (value : δ) (entries : List (String × δ)) :
    ∀ {names : List String}, key ∉ names → byName? names ((key, value) :: entries) =
      byName? names entries
  | [], _ => rfl
  | name :: names, h => by
    rw [List.mem_cons, not_or] at h
    have hne : (key == name) = false := beq_eq_false_iff_ne.2 h.1
    have hvalue : valueOf? ((key, value) :: entries) name = valueOf? entries name := by
      rw [valueOf?, valuesNamed, List.filter_cons_of_neg (by rw [hne]; decide)]
      rfl
    rw [byName?_cons, byName?_cons, hvalue, byName?_skip value entries h.2]

/-- **The values of a record are found by the names of its fields.** -/
theorem byName?_entriesOf : ∀ {names : List String} {values : List (Option δ)}, names.Nodup →
    values.length = names.length → byName? names (entriesOf names values) = some values
  | [], [], _, _ => rfl
  | [], _ :: _, _, h => absurd h (Nat.succ_ne_zero _)
  | _ :: _, [], _, h => absurd h.symm (Nat.succ_ne_zero _)
  | name :: names, value :: values, hnodup, hlen => by
    rw [List.nodup_cons] at hnodup
    have ih := byName?_entriesOf hnodup.2 (Nat.succ.inj hlen)
    have hfree : valuesNamed name (entriesOf names values) = [] :=
      valuesNamed_of_not_mem fun hm => hnodup.1 ((keys_entriesOf_sublist names values).subset hm)
    cases value with
    | none =>
      rw [entriesOf, byName?_cons, valueOf?, hfree, ih]
      rfl
    | some v =>
      have hvalue : valueOf? ((name, v) :: entriesOf names values) name = some (some v) := by
        have hnamed : valuesNamed name ((name, v) :: entriesOf names values) = [v] := by
          rw [valuesNamed, List.filter_cons_of_pos (by exact beq_self_eq_true name), List.map_cons]
          exact congrArg (v :: ·) hfree
        rw [valueOf?, hnamed]
      rw [entriesOf, byName?_cons, hvalue, byName?_skip v _ hnodup.1, ih]
      rfl

end Shape

open Shape (entriesOf)

/-- **The fields of a record are read back** in every format. -/
theorem Document.fields?_entriesOf (format : Format) {names : List String}
    {values : List (Option Document)} (hnodup : names.Nodup)
    (hlen : values.length = names.length) :
    (Document.record (entriesOf names values)).fields? format names = some values := by
  rw [fields?, if_pos, Shape.byName?_entriesOf hnodup hlen]
  rw [List.all_eq_true]
  intro e he
  rw [List.contains_iff_mem]
  exact (Shape.keys_entriesOf_sublist names values).subset (List.mem_map.2 ⟨e, he, rfl⟩)

end EtcdKit
