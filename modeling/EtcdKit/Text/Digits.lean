/-!
# Digits — numbers written in a base

Reads of unsigned numbers in base 2, 8, 10 and 16.  The digits of a number and the number of a
run of digits are inverse in base ten: `readNat_toString`.
-/
namespace EtcdKit.Text

/-- Numbers of sixty-four bits with a sign stay below this one, two to the sixty-third. -/
def signedLimit : Nat := 9223372036854775808

def hexValue? (c : Char) : Option Nat :=
  let n := c.toNat
  if 48 ≤ n ∧ n ≤ 57 then some (n - 48)
  else if 97 ≤ n ∧ n ≤ 102 then some (n - 87)
  else if 65 ≤ n ∧ n ≤ 70 then some (n - 55)
  else none

/-- The value of a digit of the base, for a base of at most sixteen. -/
def digitValue? (base : Nat) (c : Char) : Option Nat :=
  match hexValue? c with
  | some v => if v < base then some v else none
  | none => none

/-- The number written by digits of the base, going on from a value read so far. -/
def readDigitsFrom (base : Nat) : Nat → List Char → Option Nat
  | acc, [] => some acc
  | acc, c :: cs =>
    match digitValue? base c with
    | some v => readDigitsFrom base (acc * base + v) cs
    | none => none

/-- The number that a list of digits of the base writes; there is at least one digit. -/
def readNat (base : Nat) : List Char → Option Nat
  | [] => none
  | cs => readDigitsFrom base 0 cs

def hexDigit (n : Nat) : Char := n.digitChar

def hexDigitUpper (n : Nat) : Char :=
  if n < 10 then n.digitChar else Char.ofNat (n + 55)

theorem digitValue_of_isDigit {c : Char} (h : c.isDigit = true) :
    digitValue? 10 c = some (c.toNat - '0'.toNat) := by
  simp only [Char.isDigit, Bool.and_eq_true, decide_eq_true_eq] at h
  have hc : 48 ≤ c.toNat ∧ c.toNat ≤ 57 :=
    ⟨UInt32.le_iff_toNat_le.1 h.1, UInt32.le_iff_toNat_le.1 h.2⟩
  have h0 : '0'.toNat = 48 := rfl
  simp only [digitValue?, hexValue?, hc.1, hc.2, and_self, if_true, h0]
  rw [if_pos (by omega)]

theorem readDigitsFrom_of_isDigit (cs : List Char) (h : ∀ c ∈ cs, c.isDigit = true) (acc : Nat) :
    readDigitsFrom 10 acc cs = some (Nat.ofDigitChars 10 cs acc) := by
  induction cs generalizing acc with
  | nil => rfl
  | cons c cs ih =>
    rw [readDigitsFrom, digitValue_of_isDigit (h c (by simp))]
    simp only [ih (fun d hd => h d (by simp [hd]))]
    rw [Nat.ofDigitChars, Nat.ofDigitChars, List.foldl_cons, Nat.mul_comm acc 10]

/-- **A number is read back from its digits.** -/
theorem readNat_toString (n : Nat) : readNat 10 (toString n).toList = some n := by
  have e : (toString n).toList = Nat.toDigits 10 n := Nat.toList_repr
  have d : ∀ c ∈ Nat.toDigits 10 n, c.isDigit = true :=
    fun c hc => Nat.isDigit_of_mem_toDigits (by decide) (by decide) hc
  rw [e]
  have r := readDigitsFrom_of_isDigit _ d 0
  rw [Nat.ofDigitChars_toDigits (by decide) (by decide)] at r
  cases h : Nat.toDigits 10 n with
  | nil => rw [h] at r; rw [← r]; exact absurd h (by simp)
  | cons c cs => rw [h] at r; exact r

end EtcdKit.Text
