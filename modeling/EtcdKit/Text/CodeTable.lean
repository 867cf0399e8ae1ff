import EtcdKit.Text.Digits
/-!
# CodeTable — tables over code points

A table is written as words between blanks and line ends.  A word starts with a run of code points in base
sixteen: one of them, or the first and the last with a hyphen between them, or with an equals sign
between them if only every second one is meant.  In a map, the code points that the first of the
run stands for follow behind an angle, with commas between them.
-/
namespace EtcdKit.Text

/-- Code points from `first` to `last` in steps of `step`. -/
structure CodeRun where
  first : Nat
  last : Nat
  step : Nat
  deriving DecidableEq, Repr

def CodeRun.holds (r : CodeRun) (n : Nat) : Bool :=
  r.first ≤ n && n ≤ r.last && (n - r.first) % r.step == 0

def CodeRun.ofWord? (word : List Char) : Option CodeRun := do
  let (first, rest) := word.span fun c => (hexValue? c).isSome
  let n ← readNat 16 first
  match rest with
  | [] => some ⟨n, n, 1⟩
  | '-' :: last => (readNat 16 last).map (⟨n, ·, 1⟩)
  | '=' :: last => (readNat 16 last).map (⟨n, ·, 2⟩)
  | _ => none

def words (text : String) : List (List Char) :=
  (text.toList.splitOnP fun c => c == ' ' || c == '\n').filter fun word => !word.isEmpty

abbrev CodeSet := List CodeRun

def CodeSet.ofText (text : String) : CodeSet := (words text).filterMap CodeRun.ofWord?

def CodeSet.contains (s : CodeSet) (c : Char) : Bool := s.any (·.holds c.toNat)

abbrev CodeMap := List (CodeRun × List Nat)

/-- An assignment of a map: the run and the code points behind the angle. -/
def CodeMap.assignment? (word : List Char) : Option (CodeRun × List Nat) := do
  match word.span (· != '>') with
  | (run, '>' :: image) =>
    let run ← CodeRun.ofWord? run
    let image ← (image.splitOn ',').mapM (readNat 16)
    return (run, image)
  | _ => none

def CodeMap.ofText (text : String) : CodeMap := (words text).filterMap CodeMap.assignment?

/-- What a character stands for.  In a run, a single code point moves along with its source. -/
def CodeMap.find? (m : CodeMap) (c : Char) : Option (List Char) :=
  match List.find? (fun a => a.1.holds c.toNat) m with
  | none => none
  | some (run, [image]) => some [Char.ofNat (image + (c.toNat - run.first))]
  | some (_, image) => some (image.map Char.ofNat)

theorem CodeSet.contains_append (s t : CodeSet) (c : Char) :
    CodeSet.contains (s ++ t) c = (CodeSet.contains s c || CodeSet.contains t c) := by
  simp [CodeSet.contains]

end EtcdKit.Text
