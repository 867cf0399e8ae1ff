import EtcdKit.Toml.Quoted
import EtcdKit.Toml.Reader
/-!
# Strings — a quoted string is read back

Whatever characters a string holds, the form that is chosen for it is read back as the same string,
in front of any text that does not go on with a quote (`readString?_quote`).  In the forms of
several lines at most two quotes stand together in front of the closing ones (`Closes`).
-/
namespace EtcdKit.Toml

open EtcdKit.Text (hexDigitUpper)

/-! ## Escapes -/

theorem scalar?_control :
    ∀ n < 128, scalar? ['0', '0', hexDigitUpper (n / 16), hexDigitUpper (n % 16)] =
      some (Char.ofNat n) := by
  decide

/-- **An escape is read back** as the character that it stands for. -/
theorem escape?_eq_some {multiline : Bool} {c : Char} {text : List Char}
    (h : escape? multiline c = some text) :
    ∃ code, text = '\\' :: code ∧ ∀ rest, readEscape? (code ++ rest) = some (c, rest) := by
  unfold escape? at h
  split at h
  · cases h; exact ⟨_, rfl, fun _ => rfl⟩
  · cases h; exact ⟨_, rfl, fun _ => rfl⟩
  · split at h
    · cases h
    · cases h; exact ⟨_, rfl, fun _ => rfl⟩
  · cases h; exact ⟨_, rfl, fun _ => rfl⟩
  · cases h; exact ⟨_, rfl, fun _ => rfl⟩
  · cases h; exact ⟨_, rfl, fun _ => rfl⟩
  · split at h
    · rename_i hc
      have hlt : c.toNat < 128 := by
        simp only [Bool.or_eq_true, decide_eq_true_eq, beq_iff_eq] at hc
        omega
      cases h
      refine ⟨_, rfl, fun rest => ?_⟩
      have hs := scalar?_control c.toNat hlt
      rw [Char.ofNat_toNat] at hs
      change (scalar? ['0', '0', hexDigitUpper (c.toNat / 16), hexDigitUpper (c.toNat % 16)]).map
        (fun ch => (ch, rest)) = _
      rw [hs]
      rfl
    · cases h

/-- A character without an escape is no backslash, and stands for itself. -/
theorem escape?_eq_none {multiline : Bool} {c : Char} (h : escape? multiline c = none) :
    c ≠ '\\' ∧ (isPlain c = true ∨ multiline = true ∧ c = '\n') := by
  unfold escape? at h
  split at h
  · cases h
  · cases h
  · split at h
    · rename_i hm
      exact ⟨by decide, Or.inr ⟨hm, rfl⟩⟩
    · cases h
  · cases h
  · cases h
  · cases h
  · rename_i hb
    split at h
    · cases h
    · rename_i hc
      refine ⟨hb, Or.inl ?_⟩
      simp only [Bool.or_eq_true, decide_eq_true_eq, beq_iff_eq, not_or] at hc
      simp only [isPlain, Bool.or_eq_true, Bool.and_eq_true, decide_eq_true_eq, bne_iff_ne,
        ne_eq]
      exact Or.inr ⟨by omega, hc.2⟩

/-- How a body in double quotes goes on at a character: with an escape, with a quote that stands
for itself behind fewer than two others, or with the character. -/
inductive BodyStep (multiline : Bool) (run : Nat) (c : Char) (cs : List Char) : Prop where
  | escape (code : List Char)
      (body : basicBody multiline run (c :: cs) = '\\' :: (code ++ basicBody multiline 0 cs))
      (read : ∀ rest, readEscape? (code ++ rest) = some (c, rest))
  | quote (isQuote : c = '"') (several : multiline = true) (lt : run < 2)
      (body : basicBody multiline run (c :: cs) = '"' :: basicBody multiline (run + 1) cs)
  | plain (noQuote : c ≠ '"') (noSlash : c ≠ '\\')
      (stands : isPlain c = true ∨ multiline = true ∧ c = '\n')
      (body : basicBody multiline run (c :: cs) = c :: basicBody multiline 0 cs)

/-- **A body in double quotes goes on in one of these ways.** -/
theorem bodyStep (multiline : Bool) (run : Nat) (c : Char) (cs : List Char) :
    BodyStep multiline run c cs := by
  by_cases hc : c = '"'
  · by_cases hle : (if multiline then 2 else 0) ≤ run
    · refine .escape ['"'] (by rw [basicBody, if_pos hc, if_pos hle]; rfl) ?_
      subst hc
      exact fun _ => rfl
    · have hbody : basicBody multiline run (c :: cs) = '"' :: basicBody multiline (run + 1) cs := by
        rw [basicBody, if_pos hc, if_neg hle]
      cases multiline with
      | false => exact absurd (Nat.zero_le run) hle
      | true => exact .quote hc rfl (Nat.lt_of_not_le hle) hbody
  · cases he : escape? multiline c with
    | some text =>
      obtain ⟨code, rfl, hread⟩ := escape?_eq_some he
      exact .escape code (by rw [basicBody, if_neg hc, he]; rfl) hread
    | none =>
      obtain ⟨hb, hp⟩ := escape?_eq_none he
      exact .plain hc hb hp (by rw [basicBody, if_neg hc, he])

/-! ## Strings on one line -/

theorem readBasic_escape {c : Char} {code after : List Char} (fuel : Nat)
    (h : readEscape? code = some (c, after)) :
    readBasic (fuel + 1) ('\\' :: code) =
      (readBasic fuel after).map fun (body, r) => (c :: body, r) := by
  simp only [readBasic, h]

theorem readBasic_plain {c : Char} (fuel : Nat) (rest : List Char) (hq : c ≠ '"') (hb : c ≠ '\\')
    (hp : isPlain c = true) :
    readBasic (fuel + 1) (c :: rest) =
      (readBasic fuel rest).map fun (body, r) => (c :: body, r) := by
  rw [readBasic]
  · rw [if_pos hp]
  · simpa using hq
  · simpa using hb

/-- **A body in double quotes is read back** up to its closing quote. -/
theorem readBasic_basicBody : ∀ (cs : List Char) (run fuel : Nat) (rest : List Char),
    cs.length < fuel → readBasic fuel (basicBody false run cs ++ '"' :: rest) = some (cs, rest)
  | [], _, 0, _, h => absurd h (Nat.not_lt_zero _)
  | [], _, _ + 1, _, _ => rfl
  | _ :: _, _, 0, _, h => absurd h (Nat.not_lt_zero _)
  | c :: cs, run, fuel + 1, rest, h => by
    have ih := readBasic_basicBody cs 0 fuel rest (Nat.lt_of_succ_lt_succ h)
    cases bodyStep false run c cs with
    | escape code body read =>
      rw [body, List.cons_append, List.append_assoc, readBasic_escape fuel (read _), ih]
      rfl
    | quote _ several => cases several
    | plain noQuote noSlash stands body =>
      have hp : isPlain c = true := stands.resolve_right fun hm => by cases hm.1
      rw [body, List.cons_append, readBasic_plain fuel _ noQuote noSlash hp, ih]
      rfl

/-- **A body in single quotes is read back** if it holds no such quote. -/
theorem readLiteral_append : ∀ (cs rest : List Char),
    (∀ c ∈ cs, isPlain c = true ∧ c ≠ '\x27') → readLiteral (cs ++ '\x27' :: rest) = some (cs, rest)
  | [], _, _ => rfl
  | c :: cs, rest, h => by
    obtain ⟨hp, hq⟩ := h c List.mem_cons_self
    rw [List.cons_append, readLiteral, if_neg hq, if_pos hp,
      readLiteral_append cs rest fun d hd => h d (List.mem_cons_of_mem _ hd)]
    rfl

/-! ## Strings on several lines -/

/-- The number of quotes at the front of a text. -/
def quotes (quote : Char) (cs : List Char) : Nat := (cs.takeWhile (· == quote)).length

theorem quotes_cons_of_ne {quote c : Char} (h : c ≠ quote) (cs : List Char) :
    quotes quote (c :: cs) = 0 := by
  simp [quotes, h]

theorem quotes_cons_self (quote : Char) (cs : List Char) :
    quotes quote (quote :: cs) = quotes quote cs + 1 := by
  simp [quotes]

theorem quotes_replicate_append (quote : Char) (rest : List Char)
    (h : rest.head? ≠ some quote) : ∀ n, quotes quote (List.replicate n quote ++ rest) = n
  | 0 => by
    cases rest with
    | nil => rfl
    | cons c cs => exact quotes_cons_of_ne (fun hc => h (congrArg some hc)) cs
  | n + 1 => by
    rw [List.replicate_succ, List.cons_append, quotes_cons_self,
      quotes_replicate_append quote rest h n]

theorem closingQuotes?_of_lt {quote : Char} {cs : List Char} (h : quotes quote cs < 3) :
    closingQuotes? quote cs = none := by
  rw [quotes] at h
  rw [closingQuotes?, if_neg (by omega)]

/-- At most two quotes in front of the closing three belong to the string. -/
theorem closingQuotes?_replicate {quote : Char} {rest : List Char} {k : Nat} (hk : k ≤ 2)
    (h : rest.head? ≠ some quote) :
    closingQuotes? quote (List.replicate k quote ++ quote :: quote :: quote :: rest) =
      some (List.replicate k quote, rest) := by
  have e : List.replicate k quote ++ quote :: quote :: quote :: rest =
      List.replicate (k + 3) quote ++ rest := by
    rw [← List.replicate_append_replicate, List.append_assoc]
    rfl
  have hn := quotes_replicate_append quote rest h (k + 3)
  rw [quotes] at hn
  rw [e, closingQuotes?, hn, if_pos (by omega)]
  have hr : min 5 (k + 3) = k + 3 := by omega
  rw [hr, List.drop_left' List.length_replicate]
  rfl

/-- What is left of a string is quotes alone, and together with those already passed they may
stand in front of the closing ones. -/
def Closes (quote : Char) (run : Nat) (cs : List Char) : Prop :=
  ∃ k, cs = List.replicate k quote ∧ run + k ≤ 2

theorem closes_nil {quote : Char} {run : Nat} (h : run ≤ 2) : Closes quote run [] := ⟨0, rfl, h⟩

theorem Closes.cons {quote : Char} {run : Nat} {cs : List Char} (h : Closes quote (run + 1) cs) :
    Closes quote run (quote :: cs) := by
  obtain ⟨k, rfl, hk⟩ := h
  exact ⟨k + 1, rfl, by omega⟩

theorem readMultilineBasic_close {cs body rest : List Char} (fuel : Nat)
    (h : closingQuotes? '"' cs = some (body, rest)) :
    readMultilineBasic (fuel + 1) cs = some (body, rest) := by
  unfold readMultilineBasic
  rw [h]

theorem readMultilineBasic_escape {c : Char} {code after : List Char} (fuel : Nat)
    (h : readEscape? code = some (c, after)) :
    readMultilineBasic (fuel + 1) ('\\' :: code) =
      (readMultilineBasic fuel after).map fun (body, r) => (c :: body, r) := by
  have hq : closingQuotes? '"' ('\\' :: code) = none :=
    closingQuotes?_of_lt (by rw [quotes_cons_of_ne (by decide)]; omega)
  simp only [readMultilineBasic, hq, h]

theorem readMultilineBasic_plain {c : Char} {rest : List Char} (fuel : Nat)
    (hq : quotes '"' (c :: rest) < 3) (hb : c ≠ '\\') (hp : isPlain c = true) :
    readMultilineBasic (fuel + 1) (c :: rest) =
      (readMultilineBasic fuel rest).map fun (body, r) => (c :: body, r) := by
  rw [readMultilineBasic, closingQuotes?_of_lt hq]
  · dsimp only
    rw [if_pos hp]
  · exact hb

theorem readMultilineBasic_newline (fuel : Nat) (rest : List Char) :
    readMultilineBasic (fuel + 1) ('\n' :: rest) =
      (readMultilineBasic fuel rest).map fun (body, r) => ('\n' :: body, r) := by
  have hq : closingQuotes? '"' ('\n' :: rest) = none :=
    closingQuotes?_of_lt (by rw [quotes_cons_of_ne (by decide)]; omega)
  rw [readMultilineBasic, hq]
  · rfl
  · decide

/-- A body that is not quotes alone starts with no more quotes than may stand together. -/
theorem quotes_basicBody (tail : List Char) : ∀ (cs : List Char) (run : Nat), run ≤ 2 →
    ¬ Closes '"' run cs → run + quotes '"' (basicBody true run cs ++ tail) ≤ 2
  | [], _, hr, h => absurd (closes_nil hr) h
  | c :: cs, run, hr, h => by
    cases bodyStep true run c cs with
    | escape code body =>
      rw [body, List.cons_append, quotes_cons_of_ne (by decide)]
      exact hr
    | quote isQuote _ lt body =>
      subst isQuote
      have ih := quotes_basicBody tail cs (run + 1) lt fun hk => h hk.cons
      rw [body, List.cons_append, quotes_cons_self]
      omega
    | plain noQuote _ _ body =>
      rw [body, List.cons_append, quotes_cons_of_ne noQuote]
      exact hr

/-- Quotes alone stand unescaped in front of the closing ones. -/
theorem basicBody_replicate : ∀ (k run : Nat), run + k ≤ 2 →
    basicBody true run (List.replicate k '"') = List.replicate k '"'
  | 0, _, _ => rfl
  | k + 1, run, h => by
    have hlt : ¬ (if true = true then 2 else 0) ≤ run := by
      rw [if_pos rfl]
      omega
    rw [List.replicate_succ, basicBody, if_pos rfl, if_neg hlt,
      basicBody_replicate k (run + 1) (by omega)]

/-- **A body of several lines in double quotes is read back** up to its closing quotes. -/
theorem readMultilineBasic_basicBody {rest : List Char} (hrest : rest.head? ≠ some '"') :
    ∀ (cs : List Char) (run fuel : Nat), run ≤ 2 → cs.length < fuel →
      readMultilineBasic fuel (basicBody true run cs ++ '"' :: '"' :: '"' :: rest) =
        some (cs, rest)
  | _, _, 0, _, h => absurd h (Nat.not_lt_zero _)
  | cs, run, fuel + 1, hr, h => by
    by_cases hk : Closes '"' run cs
    · obtain ⟨k, rfl, hk⟩ := hk
      rw [basicBody_replicate k run hk]
      exact readMultilineBasic_close fuel (closingQuotes?_replicate (by omega) hrest)
    · have hq := quotes_basicBody ('"' :: '"' :: '"' :: rest) cs run hr hk
      cases cs with
      | nil => exact absurd (closes_nil hr) hk
      | cons c cs =>
        have hlen : cs.length < fuel := Nat.lt_of_succ_lt_succ h
        have ih := readMultilineBasic_basicBody hrest cs 0 fuel (Nat.zero_le 2) hlen
        cases bodyStep true run c cs with
        | escape code body read =>
          rw [body, List.cons_append, List.append_assoc, readMultilineBasic_escape fuel (read _),
            ih]
          rfl
        | quote isQuote _ lt body =>
          subst isQuote
          rw [body, List.cons_append] at hq ⊢
          rw [readMultilineBasic_plain fuel (by omega) (by decide) (by decide),
            readMultilineBasic_basicBody hrest cs (run + 1) fuel lt hlen]
          rfl
        | plain _ noSlash stands body =>
          rw [body, List.cons_append] at hq ⊢
          rcases stands with hp | ⟨-, rfl⟩
          · rw [readMultilineBasic_plain fuel (by omega) noSlash hp, ih]
            rfl
          · rw [readMultilineBasic_newline, ih]
            rfl

theorem longestRun_le_succ (quote : Char) : ∀ (cs : List Char) (run : Nat),
    longestRun quote run cs ≤ longestRun quote (run + 1) cs
  | [], run => Nat.le_succ run
  | c :: cs, run => by
    rw [longestRun, longestRun]
    split
    · exact longestRun_le_succ quote cs (run + 1)
    · omega

/-- Text that is not quotes alone starts with no more quotes than its longest run has. -/
theorem quotes_of_longestRun (quote : Char) (tail : List Char) : ∀ (cs : List Char) (run : Nat),
    longestRun quote run cs ≤ 2 → ¬ Closes quote run cs → run + quotes quote (cs ++ tail) ≤ 2
  | [], _, hr, h => absurd (closes_nil hr) h
  | c :: cs, run, hr, h => by
    rw [longestRun] at hr
    by_cases hc : c = quote
    · subst hc
      rw [if_pos rfl] at hr
      have ih := quotes_of_longestRun c tail cs (run + 1) hr fun hk => h hk.cons
      rw [List.cons_append, quotes_cons_self]
      omega
    · rw [if_neg hc] at hr
      rw [List.cons_append, quotes_cons_of_ne hc]
      omega

/-- **A body of several lines in single quotes is read back** if no more than two of them stand
together. -/
theorem readMultilineLiteral_append {rest : List Char} (hrest : rest.head? ≠ some '\x27') :
    ∀ (cs : List Char) (fuel : Nat), (∀ c ∈ cs, isPlain c = true ∨ c = '\n') →
      longestRun '\x27' 0 cs ≤ 2 → cs.length < fuel →
      readMultilineLiteral fuel (cs ++ '\x27' :: '\x27' :: '\x27' :: rest) = some (cs, rest)
  | _, 0, _, _, h => absurd h (Nat.not_lt_zero _)
  | cs, fuel + 1, hcs, hr, h => by
    by_cases hk : Closes '\x27' 0 cs
    · obtain ⟨k, rfl, hk⟩ := hk
      unfold readMultilineLiteral
      rw [closingQuotes?_replicate (by omega) hrest]
    · have hq := quotes_of_longestRun '\x27' ('\x27' :: '\x27' :: '\x27' :: rest) cs 0 hr hk
      cases cs with
      | nil => exact absurd (closes_nil (Nat.zero_le 2)) hk
      | cons c cs =>
        have hr' : longestRun '\x27' 0 cs ≤ 2 := by
          have := longestRun_le_succ '\x27' cs 0
          rw [longestRun] at hr
          split at hr <;> omega
        have ih := readMultilineLiteral_append hrest cs fuel
          (fun d hd => hcs d (List.mem_cons_of_mem _ hd)) hr' (Nat.lt_of_succ_lt_succ h)
        rw [List.cons_append] at hq ⊢
        rw [readMultilineLiteral, closingQuotes?_of_lt (by omega)]
        dsimp only
        rcases hcs c List.mem_cons_self with hp | rfl
        · rw [if_pos hp, ih]
          rfl
        · rw [if_neg (by decide)]
          change (readMultilineLiteral fuel (cs ++ '\x27' :: '\x27' :: '\x27' :: rest)).map
            (fun x => ('\n' :: x.1, x.2)) = _
          rw [ih]
          rfl

/-! ## The four forms -/

/-- The newline that a body of several lines is opened with is dropped, and none of its own is. -/
theorem dropNewline_openingNewline (cs tail : List Char)
    (h : '\n' ∉ cs → ∀ c ∈ tail.head?, c ≠ '\n' ∧ c ≠ '\r') :
    dropNewline (openingNewline cs ++ tail) = tail := by
  rw [openingNewline]
  by_cases hn : '\n' ∈ cs
  · rw [if_pos (List.contains_iff_mem.2 hn)]
    rfl
  · rw [if_neg (fun hc => hn (List.contains_iff_mem.1 hc)), List.nil_append]
    cases tail with
    | nil => rfl
    | cons c tail =>
      obtain ⟨h1, h2⟩ := h hn c rfl
      rw [dropNewline, newline?]
      · rfl
      · simpa using h1
      · exact fun _ hc => h2 (List.cons.inj hc).1

theorem length_le_basicBody (multiline : Bool) : ∀ (cs : List Char) (run : Nat),
    cs.length ≤ (basicBody multiline run cs).length
  | [], _ => Nat.le_refl 0
  | c :: cs, run => by
    have h0 := length_le_basicBody multiline cs 0
    have h1 := length_le_basicBody multiline cs (run + 1)
    cases bodyStep multiline run c cs with
    | escape code body =>
      rw [body]
      simp only [List.length_append, List.length_cons]
      omega
    | quote _ _ _ body =>
      rw [body]
      exact Nat.succ_le_succ h1
    | plain _ _ _ body =>
      rw [body]
      exact Nat.succ_le_succ h0

/-- A body in double quotes starts with no line end of its own. -/
theorem head?_basicBody {cs : List Char} (hn : '\n' ∉ cs) (tail : List Char) :
    ∀ c ∈ (basicBody true 0 cs ++ '"' :: tail).head?, c ≠ '\n' ∧ c ≠ '\r' := by
  cases cs with
  | nil => intro c hc; cases hc; decide
  | cons d cs =>
    intro c hc
    cases bodyStep true 0 d cs with
    | escape code body =>
      rw [body] at hc
      cases hc
      decide
    | quote _ _ _ body =>
      rw [body] at hc
      cases hc
      decide
    | plain _ _ stands body =>
      rw [body] at hc
      cases hc
      have hd : d ≠ '\n' := fun e => hn (by rw [e]; exact List.mem_cons_self)
      have hp : isPlain d = true := stands.resolve_right fun e => hd e.2
      exact ⟨hd, fun e => (by rw [e] at hp; cases hp)⟩

theorem isPlain_of_not_isControl {c : Char} (h : isControl c = false) :
    isPlain c = true ∨ c = '\n' := by
  by_cases hn : c = '\n'
  · exact Or.inr hn
  · left
    by_cases ht : c = '\t'
    · subst ht; rfl
    · simp only [isControl, Bool.or_eq_false_iff, Bool.and_eq_false_iff, decide_eq_false_iff_not,
        bne_eq_false_iff_eq, beq_eq_false_iff_ne] at h
      simp only [isPlain, Bool.or_eq_true, Bool.and_eq_true, decide_eq_true_eq, bne_iff_ne]
      refine Or.inr ⟨?_, h.2⟩
      rcases h.1 with (h1 | h1) | h1
      · omega
      · exact absurd h1 ht
      · exact absurd h1 hn

/-- What a form without escapes promises of the string that it is chosen for. -/
def StringForm.Holds : StringForm → List Char → Prop
  | .literal, cs => ∀ c ∈ cs, isPlain c = true ∧ c ≠ '\x27'
  | .multilineLiteral, cs => (∀ c ∈ cs, isPlain c = true ∨ c = '\n') ∧ longestRun '\x27' 0 cs ≤ 2
  | _, _ => True

/-- **The form that is chosen for a string holds it.** -/
theorem StringForm.holds_of (cs : List Char) : (StringForm.of cs).Holds cs := by
  unfold StringForm.of
  dsimp only
  split
  · split <;> trivial
  · rename_i hcontrol
    simp only [Bool.not_eq_true, List.any_eq_false] at hcontrol
    have hplain : ∀ c ∈ cs, isPlain c = true ∨ c = '\n' := fun c hm =>
      isPlain_of_not_isControl (hcontrol c hm)
    split
    · trivial
    · split
      · rename_i hquote
        simp only [Bool.and_eq_true, Bool.not_eq_true', List.contains_eq_mem,
          decide_eq_false_iff_not] at hquote
        intro c hm
        exact ⟨(hplain c hm).resolve_right fun e => hquote.2 (e ▸ hm), fun e => hquote.1 (e ▸ hm)⟩
      · split
        · trivial
        · split
          · rename_i hrun
            exact ⟨hplain, hrun⟩
          · split <;> trivial

theorem readString?_basic {cs : List Char} (h : ∀ rest, cs ≠ '"' :: '"' :: rest) :
    readString? ('"' :: cs) = readBasic (cs.length + 1) cs := by
  rw [readString?]
  exact h

theorem readString?_literal {cs : List Char} (h : ∀ rest, cs ≠ '\x27' :: '\x27' :: rest) :
    readString? ('\x27' :: cs) = readLiteral cs := by
  match cs with
  | [] => rfl
  | [_] => rfl
  | b :: c :: rest =>
    have hbc : ¬ ('\x27' = '\x27' ∧ b = '\x27' ∧ c = '\x27') := fun ⟨_, hb, hc⟩ =>
      h rest (by rw [hb, hc])
    rw [readString?, if_neg hbc, if_pos rfl]
    · exact fun h => absurd h (by decide)
    · exact fun h => absurd h (by decide)

/-- A body on one line and its closing quote do not look like more opening quotes. -/
theorem basicBody_ne_quotes {rest : List Char} (hrest : rest.head? ≠ some '"') (cs r : List Char) :
    basicBody false 0 cs ++ '"' :: rest ≠ '"' :: '"' :: r := by
  cases cs with
  | nil =>
    intro h
    rw [(List.cons.inj h).2] at hrest
    exact hrest rfl
  | cons c cs =>
    intro h
    cases bodyStep false 0 c cs with
    | escape code body =>
      rw [body] at h
      exact absurd (List.cons.inj h).1 (by decide)
    | quote _ several => cases several
    | plain noQuote _ _ body =>
      rw [body] at h
      exact noQuote (List.cons.inj h).1

theorem literal_ne_quotes {rest cs : List Char} (hrest : rest.head? ≠ some '\x27')
    (hcs : ∀ c ∈ cs, c ≠ '\x27') (r : List Char) :
    cs ++ '\x27' :: rest ≠ '\x27' :: '\x27' :: r := by
  cases cs with
  | nil =>
    intro h
    rw [(List.cons.inj h).2] at hrest
    exact hrest rfl
  | cons c cs => exact fun h => hcs c List.mem_cons_self (List.cons.inj h).1

/-- **A string is read back from its plainest form**, in front of a text that does not go on with a
quote. -/
theorem readString?_quote (s : String) {rest : List Char} (hd : rest.head? ≠ some '"')
    (hs : rest.head? ≠ some '\x27') : readString? (quote s ++ rest) = some (s.toList, rest) := by
  rw [quote]
  generalize s.toList = cs
  have holds := StringForm.holds_of cs
  cases hf : StringForm.of cs with
  | basic =>
    simp only [quoteAs, List.cons_append, List.nil_append, List.append_assoc]
    rw [readString?_basic (basicBody_ne_quotes hd cs), readBasic_basicBody]
    have := length_le_basicBody false cs 0
    rw [List.length_append]
    omega
  | literal =>
    rw [hf] at holds
    have hcs : ∀ c ∈ cs, isPlain c = true ∧ c ≠ '\x27' := holds
    simp only [quoteAs, List.cons_append, List.nil_append, List.append_assoc]
    rw [readString?_literal (literal_ne_quotes hs fun c hc => (hcs c hc).2),
      readLiteral_append cs rest hcs]
  | multilineBasic =>
    simp only [quoteAs, List.cons_append, List.nil_append, List.append_assoc]
    rw [readString?, dropNewline_openingNewline cs _ fun hn => head?_basicBody hn _,
      readMultilineBasic_basicBody hd cs 0 _ (Nat.zero_le 2)]
    have := length_le_basicBody true cs 0
    simp only [List.length_append]
    omega
  | multilineLiteral =>
    rw [hf] at holds
    obtain ⟨hcs, hrun⟩ := holds
    simp only [quoteAs, List.cons_append, List.nil_append, List.append_assoc]
    have hdrop : dropNewline (openingNewline cs ++ (cs ++ '\x27' :: '\x27' :: '\x27' :: rest)) =
        cs ++ '\x27' :: '\x27' :: '\x27' :: rest :=
      dropNewline_openingNewline cs _ fun hn => by
        cases cs with
        | nil => intro c hc; cases hc; decide
        | cons d cs =>
          intro c hc
          cases hc
          have hp : isPlain d = true := (hcs d List.mem_cons_self).resolve_right fun e =>
            hn (by rw [e]; exact List.mem_cons_self)
          exact ⟨fun e => (by rw [e] at hp; cases hp), fun e => (by rw [e] at hp; cases hp)⟩
    rw [readString?, if_pos ⟨rfl, rfl, rfl⟩, hdrop,
      readMultilineLiteral_append hs cs _ hcs hrun]
    · simp only [List.length_append]
      omega
    · exact fun h => absurd h (by decide)
    · exact fun h => absurd h (by decide)

end EtcdKit.Toml
