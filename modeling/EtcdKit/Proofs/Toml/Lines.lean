import Mathlib.Data.List.TakeDrop
import EtcdKit.Proofs.Toml.Values
/-!
# Lines — every line that is written is read back

The lines of a text lead from one progress to another (`Leads`), and texts that follow each other
lead on.  A line with a key and a leaf, the two headers and an empty line are the only ones that are
written; each leads where its entry or its header does (`leads_line`, `leads_header`,
`leads_listHeader`, `leads_blank`).
-/
namespace EtcdKit.Toml

open EtcdKit.Text (ne_of_class)

/-! ## Keys -/

/-- A key that stands without quotes. -/
def isBareKey (key : String) : Bool := !key.toList.isEmpty && key.toList.all isKeyChar

/-- A bare key is a first character and more, all of them characters of bare keys. -/
theorem exists_of_isBareKey {key : String} (hk : isBareKey key = true) :
    ∃ c cs, key.toList = c :: cs ∧ ∀ d ∈ c :: cs, isKeyChar d = true := by
  simp only [isBareKey, Bool.and_eq_true, Bool.not_eq_true', List.isEmpty_eq_false_iff,
    List.all_eq_true] at hk
  obtain ⟨c, cs, hcs⟩ := List.exists_cons_of_ne_nil hk.1
  rw [hcs] at hk
  exact ⟨c, cs, hcs, hk.2⟩

theorem skipBlanks_cons {c : Char} (cs : List Char) (h : isBlank c = false) :
    skipBlanks (c :: cs) = c :: cs := by
  rw [skipBlanks, List.dropWhile_cons_of_neg (by rw [h]; decide)]

theorem isBlank_of_isKeyChar {c : Char} (hc : isKeyChar c = true) : isBlank c = false := by
  simp only [isBlank, Bool.or_eq_false_iff, beq_eq_false_iff_ne]
  exact ⟨ne_of_class hc (by decide), ne_of_class hc (by decide)⟩

theorem skipBlanks_key {key : String} (hk : isBareKey key = true) (rest : List Char) :
    skipBlanks (key.toList ++ rest) = key.toList ++ rest := by
  obtain ⟨c, cs, hcs, hall⟩ := exists_of_isBareKey hk
  rw [hcs, List.cons_append]
  exact skipBlanks_cons _ (isBlank_of_isKeyChar (hall c List.mem_cons_self))

/-- **A bare key is read back** in front of a character that no bare key has. -/
theorem readKeyPart?_bare {key : String} (hk : isBareKey key = true) {x : Char}
    (hx : isKeyChar x = false) (rest : List Char) :
    readKeyPart? (key.toList ++ x :: rest) = some (key, x :: rest) := by
  obtain ⟨c, cs, hcs, hall⟩ := exists_of_isBareKey hk
  have hc := hall c List.mem_cons_self
  have hxn : ¬ isKeyChar x = true := by rw [hx]; decide
  have hspan : (c :: cs ++ x :: rest).span isKeyChar = (c :: cs, x :: rest) := by
    rw [List.span_eq_takeWhile_dropWhile, List.takeWhile_append_of_pos hall,
      List.dropWhile_append_of_pos hall, List.takeWhile_cons_of_neg hxn,
      List.dropWhile_cons_of_neg hxn, List.append_nil]
  have hkey : String.ofList (c :: cs) = key := by rw [← hcs, String.ofList_toList]
  rw [hcs]
  rw [List.cons_append] at hspan ⊢
  rw [readKeyPart?, if_neg (ne_of_class hc (by decide)), hspan]
  · simp only [hkey]
  · exact ne_of_class hc (by decide)

/-- The last part of a key, in front of blanks and a character that is no dot. -/
theorem readParts?_last {key : String} (hk : isBareKey key = true) {x y : Char}
    {rest after : List Char} (hx : isKeyChar x = false) (hs : skipBlanks (x :: rest) = y :: after)
    (hy : y ≠ '.') (fuel : Nat) :
    readParts? (fuel + 1) (key.toList ++ x :: rest) = some ([key], y :: after) := by
  rw [readParts?, skipBlanks_key hk, readKeyPart?_bare hk hx]
  simp only [hs]
  split
  · rename_i e
    exact absurd (List.cons.inj e).1 hy
  · rfl

/-- A part of a key in front of a dot. -/
theorem readParts?_dot {key : String} (hk : isBareKey key = true) (fuel : Nat)
    (rest : List Char) :
    readParts? (fuel + 1) (key.toList ++ '.' :: rest) =
      (readParts? fuel rest).map fun (parts, r) => (key :: parts, r) := by
  rw [readParts?, skipBlanks_key hk, readKeyPart?_bare hk (by decide)]
  rfl

/-- **A bare key of one part is read back.** -/
theorem readKey?_bare {key : String} (hk : isBareKey key = true) {x y : Char}
    {rest after : List Char} (hx : isKeyChar x = false) (hs : skipBlanks (x :: rest) = y :: after)
    (hy : y ≠ '.') : readKey? (key.toList ++ x :: rest) = some ([key], y :: after) := by
  rw [readKey?, readParts?_last hk hx hs hy]
  rfl

/-- **A key of two bare parts is read back.** -/
theorem readKey?_dotted {first key : String} (hf : isBareKey first = true)
    (hk : isBareKey key = true) (rest : List Char) :
    readKey? (first.toList ++ '.' :: (key.toList ++ ']' :: rest)) =
      some ([first, key], ']' :: rest) := by
  have hlen : (first.toList ++ '.' :: (key.toList ++ ']' :: rest)).length =
      first.toList.length + (key.toList ++ ']' :: rest).length + 1 := by
    rw [List.length_append, List.length_cons, Nat.add_assoc]
  rw [readKey?, hlen, readParts?_dot hf,
    readParts?_last hk (by decide) (skipBlanks_cons rest (by decide)) (by decide)]
  rfl

/-! ## Lines -/

/-- A line that ends behind what is read of it. -/
theorem endLine?_newline (rest : List Char) : endLine? ('\n' :: rest) = some rest := by
  rw [endLine?, skipBlanks_cons rest (by decide)]
  rfl

/-- Reading goes on from one progress to another over a text, whatever follows the text.  It takes
at most one step for each character. -/
def Leads (p : Progress) (text : List Char) (q : Progress) : Prop :=
  ∃ steps ≤ text.length, ∀ fuel rest,
    readLines (fuel + steps) p (text ++ rest) = readLines fuel q rest

theorem Leads.refl (p : Progress) : Leads p [] p := ⟨0, Nat.le_refl 0, fun _ _ => rfl⟩

/-- **Texts that follow each other lead on.** -/
theorem Leads.trans {p q r : Progress} {s t : List Char} (hs : Leads p s q) (ht : Leads q t r) :
    Leads p (s ++ t) r := by
  obtain ⟨n, hn, hs⟩ := hs
  obtain ⟨m, hm, ht⟩ := ht
  refine ⟨m + n, by rw [List.length_append]; omega, fun fuel rest => ?_⟩
  rw [← Nat.add_assoc, List.append_assoc, hs, ht]

/-- A line leads where its one step does. -/
theorem Leads.step {p q : Progress} {line : List Char}
    (h : ∀ fuel rest, readLines (fuel + 1) p (line ++ '\n' :: rest) = readLines fuel q rest) :
    Leads p (line ++ ['\n']) q := by
  refine ⟨1, by rw [List.length_append]; exact Nat.le_add_left 1 _, fun fuel rest => ?_⟩
  rw [List.append_assoc, List.cons_append, List.nil_append]
  exact h fuel rest

/-- **A text that leads to a progress is read as that progress.** -/
theorem Leads.readLines {p q : Progress} {text : List Char} (h : Leads p text q) :
    readLines (text.length + 1) p text = some q := by
  obtain ⟨n, hn, h⟩ := h
  have hfuel : text.length + 1 = (text.length - n + 1) + n := by omega
  have h := h (text.length - n + 1) []
  rw [List.append_nil] at h
  rw [hfuel, h]
  rfl

theorem leads_blank (p : Progress) : Leads p ['\n'] p := by
  have hstep : Leads p ([] ++ ['\n']) p := Leads.step fun fuel rest => by
    rw [List.nil_append, Toml.readLines, skipBlanks_cons rest (by decide)]
    rfl
  exact hstep

/-- A line that starts with a bare key holds a key and its value. -/
theorem readLines_key {key : String} (hk : isBareKey key = true) (fuel : Nat) (p : Progress)
    (rest : List Char) :
    readLines (fuel + 1) p (key.toList ++ rest) =
      (readPair? p (key.toList ++ rest)).bind fun (p, rest) => readLines fuel p rest := by
  rw [Toml.readLines, skipBlanks_key hk]
  obtain ⟨c, cs, hcs, hall⟩ := exists_of_isBareKey hk
  have hc := hall c List.mem_cons_self
  have hend : ¬ (c = '#' ∨ c = '\n' ∨ c = '\r') := by
    rintro (e | e | e)
    · exact ne_of_class hc (by decide) e
    · exact ne_of_class hc (by decide) e
    · exact ne_of_class hc (by decide) e
  rw [hcs, List.cons_append]
  dsimp only
  split
  · rename_i e
    cases e
  · rename_i e
    exact absurd (List.cons.inj e).1 (ne_of_class hc (by decide))
  · rename_i e
    cases e
    rw [if_neg hend]

/-- A key and its leaf are read back, up to the next line. -/
theorem readPair?_leaf {key : String} {d : Document} {text : List Char} {p q : Progress}
    (hk : isBareKey key = true) (hd : IsLeaf d) (ht : leaf? d = some text)
    (hq : p.insert? [key] d = some q) (rest : List Char) :
    readPair? p (key.toList ++ ' ' :: '=' :: ' ' :: (text ++ '\n' :: rest)) = some (q, rest) := by
  have hkey : readKey? (key.toList ++ ' ' :: '=' :: ' ' :: (text ++ '\n' :: rest)) =
      some ([key], '=' :: ' ' :: (text ++ '\n' :: rest)) :=
    readKey?_bare hk (by decide) rfl (by decide)
  have hskip : skipBlanks (' ' :: (text ++ '\n' :: rest)) = text ++ '\n' :: rest := by
    obtain ⟨c, cs, rfl, hc⟩ := head?_leaf? hd ht
    change skipBlanks (c :: (cs ++ '\n' :: rest)) = _
    exact skipBlanks_cons _ hc
  rw [readPair?, hkey]
  simp only [hskip, readValue_leaf? hd ht, endLine?_newline, hq, Option.bind_eq_bind,
    Option.bind_some, Option.pure_def]

/-- **A line with a key and its leaf** leads where the leaf is put. -/
theorem leads_line {key : String} {d : Document} {line : List Char} {p q : Progress}
    (hk : isBareKey key = true) (hd : IsLeaf d) (hl : line? key d = some line)
    (hq : p.insert? [key] d = some q) : Leads p line q := by
  cases ht : leaf? d with
  | none =>
    rw [line?, ht] at hl
    cases hl
  | some text =>
    rw [line?, ht] at hl
    cases hl
    refine Leads.step fun fuel rest => ?_
    have e : key.toList ++ " = ".toList ++ text ++ '\n' :: rest =
        key.toList ++ ' ' :: '=' :: ' ' :: (text ++ '\n' :: rest) := by
      simp only [String.reduceToList, List.append_assoc, List.cons_append, List.nil_append]
    rw [e, readLines_key hk, readPair?_leaf hk hd ht hq]
    rfl

/-- **The header of a table** leads where the table is opened. -/
theorem leads_header {name : String} {p q : Progress} (hn : isBareKey name = true)
    (hq : p.open? [name] = some q) : Leads p (['['] ++ name.toList ++ "]\n".toList) q := by
  have e : ['['] ++ name.toList ++ "]\n".toList = '[' :: (name.toList ++ [']']) ++ ['\n'] := by
    simp only [String.reduceToList, List.append_assoc, List.cons_append, List.nil_append]
  rw [e]
  refine Leads.step fun fuel rest => ?_
  have hkey : readKey? (name.toList ++ ']' :: '\n' :: rest) = some ([name], ']' :: '\n' :: rest) :=
    readKey?_bare hn (by decide) (skipBlanks_cons _ (by decide)) (by decide)
  have hheader : readHeader? p (name.toList ++ ']' :: '\n' :: rest) = some (q, rest) := by
    obtain ⟨c, cs, hcs, hall⟩ := exists_of_isBareKey hn
    rw [hcs, List.cons_append] at hkey ⊢
    rw [readHeader?, hkey]
    · simp only [endLine?_newline, hq, Option.bind_eq_bind, Option.bind_some, Option.pure_def]
    · have hb : c ≠ '[' := ne_of_class (hall c List.mem_cons_self) (by decide)
      exact fun r e => hb (List.cons.inj e).1
  rw [List.cons_append, List.append_assoc, List.cons_append, List.nil_append, Toml.readLines,
    skipBlanks_cons _ (by decide)]
  simp only [hheader, Option.bind_some]

/-- **The header of a record in a list** leads where the record is added. -/
theorem leads_listHeader {name key : String} {p q : Progress} (hn : isBareKey name = true)
    (hk : isBareKey key = true) (hq : p.push? [name, key] = some q) :
    Leads p ("[[".toList ++ name.toList ++ ['.'] ++ key.toList ++ "]]\n".toList) q := by
  have e : "[[".toList ++ name.toList ++ ['.'] ++ key.toList ++ "]]\n".toList =
      '[' :: '[' :: (name.toList ++ '.' :: (key.toList ++ [']', ']'])) ++ ['\n'] := by
    simp only [String.reduceToList, List.append_assoc, List.cons_append, List.nil_append]
  rw [e]
  refine Leads.step fun fuel rest => ?_
  have hheader : readHeader? p
      ('[' :: (name.toList ++ '.' :: (key.toList ++ ']' :: ']' :: '\n' :: rest))) =
      some (q, rest) := by
    rw [readHeader?, readKey?_dotted hn hk]
    simp only [endLine?_newline, hq, Option.bind_eq_bind, Option.bind_some, Option.pure_def]
  have e : '[' :: '[' :: (name.toList ++ '.' :: (key.toList ++ [']', ']'])) ++ '\n' :: rest =
      '[' :: '[' :: (name.toList ++ '.' :: (key.toList ++ ']' :: ']' :: '\n' :: rest)) := by
    simp only [List.append_assoc, List.cons_append, List.nil_append]
  rw [e, Toml.readLines, skipBlanks_cons _ (by decide)]
  simp only [hheader, Option.bind_some]

end EtcdKit.Toml
