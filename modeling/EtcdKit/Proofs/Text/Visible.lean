import Mathlib.Data.List.TakeWhile
import EtcdKit.Text.Blank
/-!
# Visible — texts with a character that is not white space

A text is blank exactly if no character of it can be seen, and trimming changes nothing about that.
-/
namespace EtcdKit.Text

/-- A text has a character that can be seen. -/
def Visible (s : String) : Prop := ∃ c ∈ s.toList, isBlankChar c = false

theorem isBlank_eq_true_iff {s : String} :
    isBlank s = true ↔ ∀ c ∈ s.toList, isBlankChar c = true :=
  List.all_eq_true

theorem isBlank_eq_false_iff {s : String} : isBlank s = false ↔ Visible s := by
  rw [isBlank, List.all_eq_false]
  simp only [Bool.not_eq_true]
  rfl

theorem all_dropWhile {α : Type} (p : α → Bool) : ∀ l : List α, (l.dropWhile p).all p = l.all p
  | [] => rfl
  | x :: l => by
    cases hx : p x with
    | true =>
      rw [List.dropWhile_cons_of_pos hx, all_dropWhile p l, List.all_cons, hx, Bool.true_and]
    | false => rw [List.dropWhile_cons_of_neg (by simp [hx])]

theorem isBlank_trim (s : String) : isBlank (trim s) = isBlank s := by
  rw [isBlank, trim, String.toList_ofList, trimChars, List.all_reverse, all_dropWhile,
    List.all_reverse, all_dropWhile, isBlank]

theorem trim_eq_empty_iff {s : String} : trim s = "" ↔ isBlank s = true := by
  constructor
  · intro h
    rw [← isBlank_trim, h]
    rfl
  · intro h
    have hnone : s.toList.dropWhile isBlankChar = [] :=
      List.dropWhile_eq_nil_iff.2 (isBlank_eq_true_iff.1 h)
    rw [trim, trimChars, hnone]
    rfl

theorem isDigit_of_isBlankChar {c : Char} (h : isBlankChar c = true) : c.isDigit = false := by
  rw [Bool.eq_false_iff]
  intro hdigit
  have hbounds := Char.isDigit_iff_toNat.1 hdigit
  have hzero : '0'.toNat = 48 := rfl
  have hnine : '9'.toNat = 57 := rfl
  simp only [isBlankChar, Bool.or_eq_true, Bool.and_eq_true, decide_eq_true_eq, beq_iff_eq] at h
  omega

end EtcdKit.Text
