/-!
# Numerals — the digits that write a number

The digits of a number in base ten are digits, and they start with no zero, but those of zero.
-/
namespace EtcdKit.Text

/-- Characters that a class tells apart differ. -/
theorem ne_of_class {p : Char → Bool} {c x : Char} (hc : p c = true) (hx : p x = false) :
    c ≠ x := by
  intro e
  rw [e, hx] at hc
  cases hc

theorem isDigit_of_mem_toDigits {n : Nat} : ∀ c ∈ Nat.toDigits 10 n, c.isDigit = true :=
  fun _ hc => Nat.isDigit_of_mem_toDigits (by decide) (by decide) hc

/-- The digits of a number start with no zero, but those of zero. -/
theorem head?_toDigits (n : Nat) (hn : 0 < n) : (Nat.toDigits 10 n).head? ≠ some '0' := by
  induction n using Nat.strongRecOn with
  | ind n ih =>
    by_cases hlt : n < 10
    · rw [Nat.toDigits_of_lt_base hlt]
      intro e
      have : ∀ m < 10, 0 < m → m.digitChar ≠ '0' := by decide
      exact this n hlt hn (Option.some.inj e)
    · have hle : 10 ≤ n := Nat.le_of_not_lt hlt
      have hdiv := ih (n / 10) (by omega) (by omega)
      obtain ⟨c, cs, hcs⟩ :=
        List.exists_cons_of_ne_nil (Nat.toDigits_ne_nil (n := n / 10) (b := 10))
      rw [hcs] at hdiv
      rw [Nat.toDigits_of_base_le (by decide) hle, hcs]
      exact hdiv

end EtcdKit.Text
