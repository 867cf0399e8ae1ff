import EtcdKit.Proofs.Text.Numerals
import EtcdKit.Proofs.Toml.Strings
import EtcdKit.Toml.Writer
/-!
# Values — a leaf is read back behind its key

What the writer puts behind a key is read back as the same leaf at the end of a line
(`readValue_leaf?`).  The digits of a number end where a date or a time of day goes on with a mark,
and they start with no zero, so the number is read as one in base ten.
-/
namespace EtcdKit.Toml

open EtcdKit.Text (head?_toDigits isDigit_of_mem_toDigits ne_of_class readNat readNat_toString
  signedLimit)

/-! ## Whole numbers -/

/-- **Behind digits stand digits** up to the end of the line. -/
theorem fixedNumber?_digits {ds cs rest : List Char} {width low high n : Nat}
    (hds : ∀ c ∈ ds, c.isDigit = true)
    (h : fixedNumber? width low high (ds ++ '\n' :: rest) = some (n, cs)) :
    ∃ ds', (∀ c ∈ ds', c.isDigit = true) ∧ cs = ds' ++ '\n' :: rest := by
  unfold fixedNumber? at h
  dsimp only at h
  split at h
  · rename_i hc
    cases h
    by_cases hw : width ≤ ds.length
    · exact ⟨ds.drop width, fun c hm => hds c (List.mem_of_mem_drop hm),
        List.drop_append_of_le_length hw⟩
    · have hn : '\n' ∈ (ds ++ '\n' :: rest).take width := by
        obtain ⟨k, hk⟩ : ∃ k, width - ds.length = k + 1 := ⟨width - ds.length - 1, by omega⟩
        rw [List.take_append, hk, List.take_succ_cons]
        exact List.mem_append_right _ List.mem_cons_self
      exact absurd (List.all_eq_true.1 hc.2.1 _ hn) (by decide)
  · cases h

/-- No mark follows digits at the end of a line. -/
theorem behind?_digits {ds : List Char} (hds : ∀ c ∈ ds, c.isDigit = true) (rest : List Char)
    (mark : Char) (hm : mark.isDigit = false) (hn : mark ≠ '\n') :
    behind? mark (ds ++ '\n' :: rest) = none := by
  cases ds with
  | nil => rw [List.nil_append, behind?, if_neg hn.symm]
  | cons c ds =>
    rw [List.cons_append, behind?, if_neg (ne_of_class (hds c List.mem_cons_self) hm)]

/-- **Digits at the end of a line are no date and no time of day.** -/
theorem behindMoment?_digits {ds : List Char} (hds : ∀ c ∈ ds, c.isDigit = true)
    (rest : List Char) : behindMoment? (ds ++ '\n' :: rest) = none := by
  have hdate : behindDate? (ds ++ '\n' :: rest) = none := by
    unfold behindDate?
    cases h : fixedNumber? 4 0 9999 (ds ++ '\n' :: rest) with
    | none => rfl
    | some r =>
      obtain ⟨ds', hds', hr⟩ := fixedNumber?_digits hds h
      have hmark := behind?_digits hds' rest '-' (by decide) (by decide)
      simp only [Option.bind_eq_bind, Option.bind_some, hr, hmark, Option.bind_none]
  have hclock : behindClock? (ds ++ '\n' :: rest) = none := by
    unfold behindClock? behindMinutes?
    cases h : fixedNumber? 2 0 23 (ds ++ '\n' :: rest) with
    | none => rfl
    | some r =>
      obtain ⟨ds', hds', hr⟩ := fixedNumber?_digits hds h
      have hmark := behind?_digits hds' rest ':' (by decide) (by decide)
      simp only [Option.bind_eq_bind, Option.bind_some, hr, hmark, Option.bind_none]
  rw [behindMoment?, hdate, hclock]

/-- **Digits are read** up to the end of the line. -/
theorem readDigits?_digits : ∀ {ds : List Char}, ds ≠ [] → (∀ c ∈ ds, c.isDigit = true) →
    ∀ rest : List Char, readDigits? Char.isDigit (ds ++ '\n' :: rest) = some (ds, '\n' :: rest)
  | [], hne, _, _ => absurd rfl hne
  | [c], _, hds, rest => by
    have hn : ¬ ('\n'.isDigit = true) := by decide
    rw [List.cons_append, List.nil_append, readDigits?, if_pos (hds c List.mem_cons_self),
      if_neg hn]
    exact fun e => absurd e (by decide)
  | c :: d :: ds, _, hds, rest => by
    have hd : d.isDigit = true := hds d (List.mem_cons_of_mem _ List.mem_cons_self)
    have ih := readDigits?_digits (List.cons_ne_nil d ds)
      (fun x hx => hds x (List.mem_cons_of_mem _ hx)) rest
    have hu : d ≠ '_' := ne_of_class hd (by decide)
    rw [List.cons_append] at ih
    rw [List.cons_append, List.cons_append, readDigits?, if_pos (hds c List.mem_cons_self),
      if_pos hd, ih]
    · rfl
    · exact hu

/-- **Digits that start with no zero are a number in base ten.** -/
theorem readNumber?_digits {ds : List Char} (hne : ds ≠ []) (hds : ∀ c ∈ ds, c.isDigit = true)
    (hz : ds.head? ≠ some '0') (rest : List Char) :
    readNumber? (ds ++ '\n' :: rest) =
      (ofDecimal? ⟨false, ds, [], false, []⟩).map fun d => (d, '\n' :: rest) := by
  have hread := readDigits?_digits hne hds rest
  obtain ⟨c, cs, rfl⟩ := List.exists_cons_of_ne_nil hne
  have hc : c.isDigit = true := hds c List.mem_cons_self
  have hne : ∀ x : Char, x.isDigit = false → c ≠ x := fun _ hx => ne_of_class hc hx
  have hzero : c ≠ '0' := fun e => hz (by rw [e]; rfl)
  have hwhole : readWhole? (c :: (cs ++ '\n' :: rest)) = some (c :: cs, '\n' :: rest) := by
    rw [readWhole?]
    · exact hread
    · intro r e
      exact hzero (List.cons.inj e).1
  have hdecimal : readDecimal? false (c :: (cs ++ '\n' :: rest)) =
      some (⟨false, c :: cs, [], false, []⟩, '\n' :: rest) := by
    rw [readDecimal?, hwhole]
    rfl
  rw [List.cons_append, readNumber?]
  · rw [readSigned?]
    · rw [hdecimal]
      simp only [Option.bind_eq_bind, Option.bind_some]
      cases ofDecimal? ⟨false, c :: cs, [], false, []⟩ <;> rfl
    · exact fun r e => hne 'i' (by decide) (List.cons.inj e).1
    · exact fun r e => hne 'n' (by decide) (List.cons.inj e).1
  · exact fun r e => hzero (List.cons.inj e).1
  · exact fun r e => hzero (List.cons.inj e).1
  · exact fun r e => hzero (List.cons.inj e).1
  · exact fun r e => hne '+' (by decide) (List.cons.inj e).1
  · exact fun r e => hne '-' (by decide) (List.cons.inj e).1

/-- **A number that fits is read back** at the end of a line. -/
theorem readNumber?_nat {n : Nat} (h : (n : Int) ≤ maxInteger) (rest : List Char) :
    readNumber? (Nat.toDigits 10 n ++ '\n' :: rest) = some (.integer n, '\n' :: rest) := by
  by_cases hn : n = 0
  · subst hn
    rfl
  · have hlt : n < signedLimit := by unfold maxInteger at h; omega
    have hread : readNat 10 (Nat.toDigits 10 n) = some n := by
      have e : (toString n).toList = Nat.toDigits 10 n := Nat.toList_repr
      rw [← e, readNat_toString]
    have hof : ofDecimal? ⟨false, Nat.toDigits 10 n, [], false, []⟩ = some (.integer n) := by
      simp only [ofDecimal?, List.isEmpty_nil, Bool.and_self, if_true, hread, Option.bind_eq_bind,
        Option.bind_some, Bool.false_eq_true, if_false, if_pos hlt]
    rw [readNumber?_digits Nat.toDigits_ne_nil isDigit_of_mem_toDigits
      (head?_toDigits n (Nat.pos_of_ne_zero hn)), hof]
    rfl

/-! ## Leaves -/

/-- A document that stands behind its key on one line. -/
inductive IsLeaf : Document → Prop where
  | bool (b : Bool) : IsLeaf (.bool b)
  | integer (n : Nat) : IsLeaf (.integer n)
  | text (s : String) : IsLeaf (.text s)
  | empty : IsLeaf (.list [])

/-- The text of a number is its digits, if it fits. -/
theorem leaf?_integer {n : Nat} {text : List Char} (h : leaf? (.integer n) = some text) :
    (n : Int) ≤ maxInteger ∧ text = Nat.toDigits 10 n := by
  rw [leaf?] at h
  split at h
  · rename_i hn
    cases h
    exact ⟨hn, Nat.toList_repr⟩
  · cases h

/-- A string opens with a quote. -/
theorem exists_quote_eq (s : String) :
    (∃ cs, quote s = '"' :: cs) ∨ ∃ cs, quote s = '\x27' :: cs := by
  unfold quote quoteAs
  split
  · exact Or.inl ⟨_, rfl⟩
  · exact Or.inr ⟨_, rfl⟩
  · exact Or.inl ⟨_, rfl⟩
  · exact Or.inr ⟨_, rfl⟩

/-- A value whose text opens with a quote is a string. -/
theorem readValue_quote (s : String) (fuel depth : Nat) (rest : List Char) :
    readValue (fuel + 1) depth (quote s ++ '\n' :: rest) = some (.text s, '\n' :: rest) := by
  have hread : readString? (quote s ++ '\n' :: rest) = some (s.toList, '\n' :: rest) :=
    readString?_quote s (by simp) (by simp)
  have hs : String.ofList s.toList = s := String.ofList_toList
  rcases exists_quote_eq s with ⟨cs, hcs⟩ | ⟨cs, hcs⟩
  all_goals
    rw [hcs, List.cons_append] at hread ⊢
    simp only [readValue, hread, Option.map_some, hs]

/-- A value whose text opens with a digit is a number, or a moment. -/
theorem readValue_digits {ds : List Char} (hne : ds ≠ []) (hds : ∀ c ∈ ds, c.isDigit = true)
    (fuel depth : Nat) (rest : List Char) :
    readValue (fuel + 1) depth (ds ++ '\n' :: rest) = readNumber? (ds ++ '\n' :: rest) := by
  have hmoment := behindMoment?_digits hds rest
  obtain ⟨c, cs, rfl⟩ := List.exists_cons_of_ne_nil hne
  have hc : ∀ x : Char, x.isDigit = false → c ≠ x := fun _ hx =>
    ne_of_class (hds c List.mem_cons_self) hx
  rw [List.cons_append] at hmoment ⊢
  rw [readValue, hmoment]
  · exact fun r e => hc 't' (by decide) (List.cons.inj e).1
  · exact fun r e => hc 'f' (by decide) (List.cons.inj e).1
  · exact fun r e => hc '[' (by decide) (List.cons.inj e).1
  · exact fun r e => hc '\x7b' (by decide) (List.cons.inj e).1
  · exact fun r e => hc '"' (by decide) (List.cons.inj e).1
  · exact fun r e => hc '\x27' (by decide) (List.cons.inj e).1

/-- **A leaf is read back** at the end of its line. -/
theorem readValue_leaf? {d : Document} {text : List Char} (hd : IsLeaf d)
    (h : leaf? d = some text) (fuel : Nat) (rest : List Char) :
    readValue (fuel + 2) 0 (text ++ '\n' :: rest) = some (d, '\n' :: rest) := by
  cases hd with
  | bool b =>
    cases b with
    | true => cases h; rfl
    | false => cases h; rfl
  | integer n =>
    obtain ⟨hn, rfl⟩ := leaf?_integer h
    rw [readValue_digits Nat.toDigits_ne_nil isDigit_of_mem_toDigits, readNumber?_nat hn]
  | text s =>
    cases h
    exact readValue_quote s (fuel + 1) 0 rest
  | empty => cases h; rfl

/-- A leaf does not start with a blank. -/
theorem head?_leaf? {d : Document} {text : List Char} (hd : IsLeaf d) (h : leaf? d = some text) :
    ∃ c cs, text = c :: cs ∧ isBlank c = false := by
  cases hd with
  | bool b =>
    cases b with
    | true => cases h; exact ⟨_, _, rfl, rfl⟩
    | false => cases h; exact ⟨_, _, rfl, rfl⟩
  | integer n =>
    obtain ⟨-, rfl⟩ := leaf?_integer h
    obtain ⟨c, cs, hcs⟩ := List.exists_cons_of_ne_nil (Nat.toDigits_ne_nil (n := n) (b := 10))
    have hc : c.isDigit = true := isDigit_of_mem_toDigits c (by rw [hcs]; exact List.mem_cons_self)
    refine ⟨c, cs, hcs, ?_⟩
    simp only [isBlank, Bool.or_eq_false_iff, beq_eq_false_iff_ne]
    exact ⟨ne_of_class hc (by decide), ne_of_class hc (by decide)⟩
  | text s =>
    cases h
    rcases exists_quote_eq s with ⟨cs, hcs⟩ | ⟨cs, hcs⟩
    · exact ⟨_, cs, hcs, rfl⟩
    · exact ⟨_, cs, hcs, rfl⟩
  | empty => cases h; exact ⟨_, _, rfl, rfl⟩

end EtcdKit.Toml
