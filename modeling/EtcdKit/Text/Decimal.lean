/-!
# Decimal — numbers in decimal notation, and the range of double precision

A decimal number is kept by the digits that write it.  Double precision rounds to 53 binary digits,
half to the even neighbour; from `doubleLimit` on a number is rounded to infinity.
-/
namespace EtcdKit.Text

/-- The digits of a number in decimal notation, with a fraction and an exponent that may be
empty. -/
structure Decimal where
  negative : Bool
  whole : List Char
  fraction : List Char
  exponentNegative : Bool
  exponent : List Char
  deriving DecidableEq, Repr

def natOfDigits (digits : List Char) : Nat := Nat.ofDigitChars 10 digits 0

/-- The least number that double precision rounds to infinity. -/
def doubleLimit : Nat := Nat.pow 2 1024 - Nat.pow 2 970

/-- A number rounded to 53 binary digits, half to the even neighbour. -/
def roundToDouble (n : Nat) : Nat :=
  let unit := Nat.pow 2 (n.log2 - 52)
  let low := n / unit
  let rest := n % unit
  let up := unit < 2 * rest || (2 * rest == unit && low % 2 == 1)
  (if up then low + 1 else low) * unit

def Decimal.power (d : Decimal) : Int :=
  let n : Int := natOfDigits d.exponent
  if d.exponentNegative then -n else n

def Decimal.isHuge (d : Decimal) : Bool :=
  let n := natOfDigits (d.whole ++ d.fraction)
  let scale := d.power - d.fraction.length
  let places := (Nat.toDigits 10 n).length + scale
  if n == 0 || places < 309 then false
  else if 309 < places then true
  else if 0 ≤ scale then doubleLimit ≤ n * Nat.pow 10 scale.toNat
  else doubleLimit * Nat.pow 10 (-scale).toNat ≤ n

theorem roundToDouble_of_lt (n : Nat) (h : n < Nat.pow 2 53) : roundToDouble n = n := by
  have hl : n.log2 - 52 = 0 := by
    rcases Nat.eq_zero_or_pos n with rfl | hn
    · rfl
    · have := (Nat.log2_lt (by omega)).2 h
      omega
  simp [roundToDouble, hl, Nat.mod_one]

end EtcdKit.Text
