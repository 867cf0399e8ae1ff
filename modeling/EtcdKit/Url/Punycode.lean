/-!
# Punycode — code points outside ASCII written with letters and digits

The ASCII characters of a label stand first.  After a hyphen follow, for every other character in
order of code points, the number of insertion steps since the previous one, as a number of variable
length whose digit thresholds follow a running bias.
-/
namespace EtcdKit.Url.Punycode

def base : Nat := 36

def digit (n : Nat) : Char := if n < 26 then Char.ofNat (n + 97) else Char.ofNat (n + 22)

def digitValue? (c : Char) : Option Nat :=
  let n := c.toNat
  if 97 ≤ n ∧ n ≤ 122 then some (n - 97)
  else if 65 ≤ n ∧ n ≤ 90 then some (n - 65)
  else if 48 ≤ n ∧ n ≤ 57 then some (n - 22)
  else none

def threshold (bias k : Nat) : Nat :=
  if k ≤ bias + 1 then 1 else if bias + 26 ≤ k then 26 else k - bias

/-- The part of the bias that comes from repeated division. -/
def adaptLoop : Nat → Nat → Nat → Nat
  | 0, delta, k => k + 36 * delta / (delta + 38)
  | fuel + 1, delta, k =>
    if 455 < delta then adaptLoop fuel (delta / 35) (k + 36) else k + 36 * delta / (delta + 38)

def adapt (delta points : Nat) (first : Bool) : Nat :=
  let delta := if first then delta / 700 else delta / 2
  let delta := delta + delta / points
  adaptLoop (delta + 1) delta 0

def number : Nat → Nat → Nat → Nat → List Char
  | 0, _, _, _ => []
  | fuel + 1, bias, k, q =>
    let t := threshold bias k
    if q < t then [digit q]
    else digit (t + (q - t) % (base - t)) :: number fuel bias (k + base) ((q - t) / (base - t))

/-- What has been written, and how far the insertion has come. -/
structure State where
  delta : Nat
  bias : Nat
  handled : Nat
  first : Bool
  output : List Char

/-- One walk over the label: counts the smaller code points and writes each occurrence of `n`. -/
def walk (n : Nat) : List Nat → State → State
  | [], s => s
  | c :: cs, s =>
    if c < n then walk n cs { s with delta := s.delta + 1 }
    else if c = n then
      walk n cs
        { delta := 0, bias := adapt s.delta (s.handled + 1) s.first, handled := s.handled + 1,
          first := false, output := s.output ++ number (s.delta + 1) s.bias base s.delta }
    else walk n cs s

def writeFrom (label : List Nat) : Nat → Nat → State → State
  | 0, _, s => s
  | fuel + 1, n, s =>
    match (label.filter (n ≤ ·)).min? with
    | none => s
    | some next =>
      let s := walk next label { s with delta := s.delta + (next - n) * (s.handled + 1) }
      writeFrom label fuel (next + 1) { s with delta := s.delta + 1 }

def encode (label : List Char) : List Char :=
  let basic := label.filter (·.toNat < 0x80)
  let front := if basic.isEmpty then [] else basic ++ ['-']
  let start : State := ⟨0, 72, basic.length, true, []⟩
  front ++ (writeFrom (label.map Char.toNat) label.length 0x80 start).output

/-- Numbers and the weights of their digits stay below this. -/
def numberLimit : Nat := UInt32.size

/-- A number of variable length at the front, added to `i`. -/
def readNumber (bias : Nat) : Nat → Nat → Nat → List Char → Option (Nat × List Char)
  | _, _, _, [] => none
  | k, weight, i, c :: cs =>
    match digitValue? c with
    | none => none
    | some d =>
      let i := i + d * weight
      let t := threshold bias k
      if numberLimit ≤ i || numberLimit ≤ weight then none
      else if d < t then some (i, cs)
      else readNumber bias (k + base) (weight * (base - t)) i cs

def readFrom : Nat → Nat → Nat → Nat → List Char → List Char → Option (List Char)
  | _, _, _, _, label, [] => some label
  | 0, _, _, _, _, _ => none
  | fuel + 1, n, i, bias, label, input =>
    match readNumber bias base 1 i input with
    | none => none
    | some (next, rest) =>
      let points := label.length + 1
      let n := n + next / points
      let at_ := next % points
      if n.isValidChar then
        readFrom fuel n (at_ + 1) (adapt (next - i) points (i == 0 && label.all (·.toNat < 0x80)))
          (label.take at_ ++ [Char.ofNat n] ++ label.drop at_) rest
      else none

def splitLastHyphen (cs : List Char) : List Char × List Char :=
  let tail := cs.reverse.takeWhile (· != '-')
  if tail.length = cs.length then ([], cs)
  else (cs.take (cs.length - tail.length - 1), tail.reverse)

def decode (text : List Char) : Option (List Char) :=
  let (front, input) := splitLastHyphen text
  readFrom (input.length + 1) 0x80 0 72 front input

end EtcdKit.Url.Punycode
