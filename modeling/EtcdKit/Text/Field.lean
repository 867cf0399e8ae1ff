/-!
# Field — text in a column of fixed width

A field cuts its text to a number of characters, if one is given, and then fills it up with blanks
to a width.  Text that is already as wide is left alone.
-/
namespace EtcdKit.Text

inductive Alignment
  | left
  | right
  | center
  deriving DecidableEq, Repr

/-- The shape of a field: its least width, its greatest text length if limited, and the side. -/
structure Field where
  width : Nat := 0
  limit : Option Nat := none
  alignment : Alignment := .left
  deriving DecidableEq, Repr

def blanks (n : Nat) : List Char := List.replicate n ' '

def Field.cut (f : Field) (s : String) : List Char :=
  match f.limit with
  | none => s.toList
  | some n => s.toList.take n

/-- The text in its field; in the middle, the odd blank stands on the right. -/
def Field.fill (f : Field) (s : String) : String :=
  let text := f.cut s
  let gap := f.width - text.length
  match f.alignment with
  | .left => String.ofList (text ++ blanks gap)
  | .right => String.ofList (blanks gap ++ text)
  | .center => String.ofList (blanks (gap / 2) ++ text ++ blanks (gap - gap / 2))

def padRight (width : Nat) (s : String) : String := ({ width } : Field).fill s

def padLeft (width : Nat) (s : String) : String :=
  ({ width, alignment := .right } : Field).fill s

theorem length_fill_ge (f : Field) (s : String) : f.width ≤ (f.fill s).length := by
  have h : ∀ l : List Char, (String.ofList l).length = l.length := by simp
  unfold Field.fill
  cases f.alignment <;> simp only [h, blanks, List.length_append, List.length_replicate] <;> omega

end EtcdKit.Text
