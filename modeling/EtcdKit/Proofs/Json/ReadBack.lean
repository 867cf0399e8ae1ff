import EtcdKit.Proofs.Json.Layout
/-!
# ReadBack — a JSON value is read back from its compact text

The compact text of an array or of an object is the one without blanks (`chars_array`,
`chars_object`).  So a value of strings, truth values and integers of 64 bits is written by its
compact text (`Exact.writes`), by induction on the value, and is read back from it (`read_text`).
-/
namespace EtcdKit.Json

/-- The text of the value holds all of it: its numbers are integers of 64 bits. -/
inductive Exact : Json → Prop
  | null : Exact .null
  | bool (b : Bool) : Exact (.bool b)
  | integer {n : Int} (fits : Fits64 n) : Exact (.integer n)
  | string (s : String) : Exact (.string s)
  | array {items : List Json} (each : ∀ item ∈ items, Exact item) : Exact (.array items)
  | object {members : List (String × Json)} (each : ∀ m ∈ members, Exact m.2) :
    Exact (.object members)

theorem itemChars_eq : ∀ items : List Json,
    itemChars items = List.intercalate [','] (items.map chars)
  | [] => rfl
  | [item] => List.intercalate_singleton.symm
  | item :: next :: items => by
    have hmore := itemChars_eq (next :: items)
    rw [List.map_cons, List.map_cons, List.intercalate_cons_cons, ← List.map_cons, ← hmore,
      List.append_assoc]
    rfl

theorem memberChars_eq : ∀ members : List (String × Json), memberChars members =
    List.intercalate [','] (members.map fun m => Blanks.none.memberText m.1 m.2.chars)
  | [] => rfl
  | [m] => List.intercalate_singleton.symm
  | (name, item) :: next :: members => by
    have hmore := memberChars_eq (next :: members)
    rw [List.map_cons] at hmore
    rw [List.map_cons, List.map_cons, List.intercalate_cons_cons, ← hmore]
    simp [memberChars, Blanks.memberText, Blanks.none]

theorem chars_array (items : List Json) :
    chars (.array items) = Blanks.none.arrayText (items.map chars) := by
  rw [chars, itemChars_eq]
  rfl

theorem chars_object (members : List (String × Json)) : chars (.object members) =
    Blanks.none.objectText (members.map fun m => Blanks.none.memberText m.1 m.2.chars) := by
  rw [chars, memberChars_eq]
  rfl

/-- **A value is written by its compact text.** -/
theorem Exact.writes {value : Json} (h : Exact value) : Writes value.chars value := by
  induction h with
  | null => exact writes_null
  | bool b =>
    cases b with
    | true => exact writes_true
    | false => exact writes_false
  | integer fits => exact writes_integer fits
  | string s => exact writes_string s
  | array each ih =>
    rw [chars_array]
    exact writes_array Blanks.none
      (List.forall₂_map_left_iff.2 (List.forall₂_same.2 ih))
  | object each ih =>
    rw [chars_object]
    exact writes_object Blanks.none
      (List.forall₂_map_left_iff.2 (List.forall₂_same.2 fun m hm => (ih m hm).member _ m.1))

/-- **The compact text of a value holds that value.** -/
theorem read_text {value : Json} (h : Exact value) : read value.text = some value := by
  have hnone : Spaces [] := by simp [Spaces]
  exact h.writes.read_eq hnone hnone (by simp [text])

end EtcdKit.Json
