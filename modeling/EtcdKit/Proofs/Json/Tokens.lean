import Mathlib.Data.List.Basic
import Mathlib.Data.List.TakeDrop
import EtcdKit.Json.Printer
import EtcdKit.Json.Reader
import EtcdKit.Proofs.Text.Numerals
/-!
# Tokens — strings and numbers are read back

A string is read back whatever characters it holds (`readPieces_escaped`), and a number of 64 bits
where its digits end (`readNumber_integer`).  A text without quote, backslash and control character
stands in its string as it is (`Verbatim.quote_eq`).
-/
namespace EtcdKit.Json

open EtcdKit.Text (Decimal head?_toDigits hexDigit isDigit_of_mem_toDigits natOfDigits ne_of_class
  signedLimit)

/-! ## Strings -/

theorem hex4?_control : ∀ n < 32, hex4? '0' '0' (hexDigit (n / 16)) (hexDigit (n % 16)) = some n := by
  decide

/-- How a character stands in a string: behind a backslash, by its number, or for itself. -/
inductive Escape (c : Char) : Prop where
  | short (e : Char) (text : escapeChar c = ['\\', e]) (code : shortEscape? e = some c)
  | number (x y : Char) (text : escapeChar c = ['\\', 'u', '0', '0', x, y])
      (code : hex4? '0' '0' x y = some c.toNat) (control : c.toNat < 0x20)
  | plain (text : escapeChar c = [c]) (noQuote : c ≠ '"') (noSlash : c ≠ '\\')
      (noControl : ¬ c.toNat < 0x20)

theorem escape (c : Char) : Escape c := by
  by_cases hq : c = '"'
  · subst hq
    exact .short '"' rfl rfl
  by_cases hs : c = '\\'
  · subst hs
    exact .short '\\' rfl rfl
  by_cases hn : c = '\n'
  · subst hn
    exact .short 'n' rfl rfl
  by_cases hr : c = '\r'
  · subst hr
    exact .short 'r' rfl rfl
  by_cases ht : c = '\t'
  · subst ht
    exact .short 't' rfl rfl
  by_cases hb : c = '\x08'
  · subst hb
    exact .short 'b' rfl rfl
  by_cases hf : c = '\x0c'
  · subst hf
    exact .short 'f' rfl rfl
  by_cases hc : c.toNat < 0x20
  · exact .number _ _ (by rw [escapeChar, if_pos hc] <;> assumption) (hex4?_control _ hc) hc
  · exact .plain (by rw [escapeChar, if_neg hc] <;> assumption) hq hs hc

theorem readPieces_short {e c : Char} (h : shortEscape? e = some c) (rest : List Char) :
    readPieces ('\\' :: e :: rest) =
      (readPieces rest).map fun (pieces, after) => (some c :: pieces, after) := by
  have hu : e ≠ 'u' := by
    rintro rfl
    cases h
  rw [readPieces]
  · rw [h]
  · rintro _ _ _ _ _ _ _ _ _ rfl _
    exact hu rfl
  · rintro _ _ _ _ _ rfl _
    exact hu rfl

theorem readPieces_plain {c : Char} (hq : c ≠ '"') (hs : c ≠ '\\') (hc : ¬ c.toNat < 0x20)
    (rest : List Char) :
    readPieces (c :: rest) =
      (readPieces rest).map fun (pieces, after) => (some c :: pieces, after) := by
  rw [readPieces, if_neg]
  · simp [hc, hs]
  · exact hq
  · rintro _ _ _ _ _ _ _ _ _ rfl
    exact absurd rfl hs
  · rintro _ _ _ _ _ rfl
    exact absurd rfl hs
  · rintro _ _ rfl
    exact absurd rfl hs

/-- A body that is read on from a number has four digits behind its mark. -/
theorem hex4?_isSome_of_readPieces {e f g h : Char} {rest : List Char}
    (hread : (readPieces ('\\' :: 'u' :: e :: f :: g :: h :: rest)).isSome) :
    (hex4? e f g h).isSome := by
  cases hhex : hex4? e f g h with
  | some _ => rfl
  | none =>
    by_cases hpair : ∃ i j k l after, rest = '\\' :: 'u' :: i :: j :: k :: l :: after
    · obtain ⟨i, j, k, l, after, rfl⟩ := hpair
      rw [readPieces, hhex] at hread
      exact hread
    · rw [readPieces, hhex] at hread
      · exact hread
      · intro i j k l after heq
        exact hpair ⟨i, j, k, l, after, heq⟩

theorem readPieces_number {x y : Char} {n : Nat} (hn : hex4? '0' '0' x y = some n) (hlt : n < 0x20)
    {rest : List Char} (hrest : (readPieces rest).isSome) :
    readPieces ('\\' :: 'u' :: '0' :: '0' :: x :: y :: rest) =
      (readPieces rest).map fun (pieces, after) => (some (Char.ofNat n) :: pieces, after) := by
  have hhigh : isHighSurrogate n = false := by simp [isHighSurrogate]; omega
  have hlow : isLowSurrogate n = false := by simp [isLowSurrogate]; omega
  -- two numbers in a row are looked at together, as they may be the halves of one character
  by_cases hpair : ∃ e f g h after, rest = '\\' :: 'u' :: e :: f :: g :: h :: after
  · obtain ⟨e, f, g, h, after, rfl⟩ := hpair
    obtain ⟨m, hm⟩ := Option.isSome_iff_exists.1 (hex4?_isSome_of_readPieces hrest)
    rw [readPieces, hn, hm]
    simp [hhigh, hlow]
  · rw [readPieces, hn]
    · simp [hhigh, hlow]
    · intro e f g h after heq
      exact hpair ⟨e, f, g, h, after, heq⟩

/-- **A string is read up to its closing quote**, whatever characters it holds. -/
theorem readPieces_escaped (cs rest : List Char) :
    readPieces (cs.flatMap escapeChar ++ '"' :: rest) = some (cs.map some, rest) := by
  induction cs with
  | nil => rfl
  | cons c cs ih =>
    rw [List.flatMap_cons, List.append_assoc]
    cases escape c with
    | short e text code =>
      rw [text, List.cons_append, List.cons_append, List.nil_append, readPieces_short code, ih]
      rfl
    | number x y text code control =>
      have hsome : (readPieces (cs.flatMap escapeChar ++ '"' :: rest)).isSome := by rw [ih]; rfl
      rw [text]
      refine (readPieces_number code control hsome).trans ?_
      rw [ih, Char.ofNat_toNat]
      rfl
    | plain text noQuote noSlash noControl =>
      rw [text, List.cons_append, List.nil_append, readPieces_plain noQuote noSlash noControl, ih]
      rfl

theorem piecesText?_map_some (s : String) : piecesText? (s.toList.map some) = some s := by
  have hmap : ∀ cs : List Char, (cs.map some).mapM id = some cs := by
    intro cs
    induction cs with
    | nil => rfl
    | cons c cs ih => rw [List.map_cons, List.mapM_cons, ih]; rfl
  rw [piecesText?, hmap, Option.map_some, String.ofList_toList]

theorem quote_append (s : String) (rest : List Char) :
    quote s ++ rest = '"' :: (s.toList.flatMap escapeChar ++ '"' :: rest) := by
  simp [quote]

/-- No character of the text is escaped in a string. -/
def Verbatim (s : String) : Prop := ∀ c ∈ s.toList, c ≠ '"' ∧ c ≠ '\\' ∧ ¬ c.toNat < 0x20

theorem verbatim_ofList (cs : List Char)
    (h : cs.all (fun c => c != '"' && c != '\\' && 0x20 ≤ c.toNat) = true) :
    Verbatim (String.ofList cs) := by
  intro c hc
  rw [String.toList_ofList] at hc
  simpa [and_assoc] using List.all_eq_true.1 h c hc

theorem escapeChar_plain {c : Char} (hq : c ≠ '"') (hs : c ≠ '\\') (hc : ¬ c.toNat < 0x20) :
    escapeChar c = [c] := by
  rw [escapeChar, if_neg hc]
  · exact hq
  · exact hs
  all_goals
    rintro rfl
    exact hc (by decide)

/-- A text of which no character is escaped stands between its quotes as it is. -/
theorem Verbatim.quote_eq {s : String} (h : Verbatim s) : quote s = '"' :: (s.toList ++ ['"']) := by
  have hplain : s.toList.flatMap escapeChar = s.toList.flatMap fun c => [c] :=
    List.flatMap_congr fun c hc => escapeChar_plain (h c hc).1 (h c hc).2.1 (h c hc).2.2
  rw [quote, hplain, List.flatMap_singleton']

theorem Verbatim.append {s t : String} (hs : Verbatim s) (ht : Verbatim t) : Verbatim (s ++ t) := by
  intro c hc
  rw [String.toList_append, List.mem_append] at hc
  exact hc.elim (hs c) (ht c)

theorem verbatim_toString (n : Nat) : Verbatim (toString n) := by
  intro c hc
  have hdigit : c.isDigit = true := isDigit_of_mem_toDigits c (Nat.toList_repr ▸ hc)
  have hcode : 48 ≤ c.toNat := by
    simp only [Char.isDigit, Bool.and_eq_true, decide_eq_true_eq] at hdigit
    exact hdigit.1
  exact ⟨ne_of_class hdigit (by decide), ne_of_class hdigit (by decide), by omega⟩

/-! ## Numbers -/

/-- A number that is written in front of the text ends there. -/
def Stops : List Char → Prop
  | [] => True
  | c :: _ => c.isDigit = false ∧ c ≠ '.' ∧ c ≠ 'e' ∧ c ≠ 'E'

theorem spanDigits_append {digits rest : List Char} (hdigits : ∀ c ∈ digits, c.isDigit = true)
    (hrest : Stops rest) : spanDigits (digits ++ rest) = (digits, rest) := by
  rw [spanDigits, List.span_eq_takeWhile_dropWhile, List.takeWhile_append_of_pos hdigits,
    List.dropWhile_append_of_pos hdigits]
  cases rest with
  | nil => simp
  | cons c cs => simp [hrest.1]

/-- The whole number is read, and neither a fraction nor an exponent follows it. -/
theorem readUnsigned_toDigits (negative : Bool) (n : Nat) {rest : List Char} (hrest : Stops rest) :
    readUnsigned negative (Nat.toDigits 10 n ++ rest) =
      some (⟨negative, Nat.toDigits 10 n, [], false, []⟩, rest) := by
  have hwhole : readWhole (Nat.toDigits 10 n ++ rest) = some (Nat.toDigits 10 n, rest) := by
    rcases Nat.eq_zero_or_pos n with rfl | hpos
    · rfl
    have hspan := spanDigits_append (isDigit_of_mem_toDigits (n := n)) hrest
    have hhead := head?_toDigits n hpos
    cases hcs : Nat.toDigits 10 n with
    | nil => exact absurd hcs Nat.toDigits_ne_nil
    | cons c cs =>
      rw [hcs] at hspan hhead
      rw [List.cons_append] at hspan ⊢
      rw [readWhole, hspan]
      intro _ heq
      exact hhead (congrArg some (List.cons.inj heq).1)
  have hfraction : readFraction rest = some ([], rest) := by
    cases rest with
    | nil => rfl
    | cons c cs =>
      rw [readFraction]
      intro _ heq
      exact hrest.2.1 (List.cons.inj heq).1
  have hexponent : readExponent rest = some (false, [], rest) := by
    cases rest with
    | nil => rfl
    | cons c cs => simp [readExponent, hrest.2.2.1, hrest.2.2.2]
  rw [readUnsigned, hwhole]
  simp [hfraction, hexponent]

/-- An integer that a number of 64 bits, with a sign or without, can be. -/
def Fits64 (n : Int) : Prop := -(signedLimit : Int) ≤ n ∧ n < UInt64.size

theorem natOfDigits_toDigits (n : Nat) : natOfDigits (Nat.toDigits 10 n) = n :=
  Nat.ofDigitChars_toDigits (by decide) (by decide)

theorem chars_ofNat (n : Nat) : chars (.integer (.ofNat n)) = Nat.toDigits 10 n :=
  Nat.toList_repr

theorem chars_negSucc (n : Nat) :
    chars (.integer (.negSucc n)) = '-' :: Nat.toDigits 10 (n + 1) := by
  change ("-" ++ Nat.repr (n + 1)).toList = _
  rw [String.toList_append, Nat.toList_repr]
  rfl

/-- **An integer of 64 bits is read back** up to the end of its digits. -/
theorem readNumber_integer {n : Int} (hn : Fits64 n) {rest : List Char} (hrest : Stops rest) :
    ∃ d, readNumber (chars (.integer n) ++ rest) = some (d, rest) ∧ ofDecimal d = .integer n := by
  cases n with
  | ofNat n =>
    refine ⟨⟨false, Nat.toDigits 10 n, [], false, []⟩, ?_, ?_⟩
    · rw [chars_ofNat, ← readUnsigned_toDigits false n hrest]
      cases hcs : Nat.toDigits 10 n with
      | nil => exact absurd hcs Nat.toDigits_ne_nil
      | cons c cs =>
        have hdigit : c.isDigit = true := isDigit_of_mem_toDigits c (by rw [hcs]; simp)
        rw [List.cons_append, readNumber]
        intro _ heq
        exact ne_of_class hdigit (by decide) (List.cons.inj heq).1
    · have hlt : n < UInt64.size := Int.ofNat_lt.1 hn.2
      simp [ofDecimal, natOfDigits_toDigits, hlt]
  | negSucc m =>
    refine ⟨⟨true, Nat.toDigits 10 (m + 1), [], false, []⟩, ?_, ?_⟩
    · rw [chars_negSucc, List.cons_append, readNumber]
      exact readUnsigned_toDigits true (m + 1) hrest
    · have hle : m + 1 ≤ signedLimit := by have := hn.1; omega
      have hneg : Int.negSucc m = -((m + 1 : Nat) : Int) := rfl
      rw [hneg]
      simp [ofDecimal, natOfDigits_toDigits, hle]

end EtcdKit.Json
