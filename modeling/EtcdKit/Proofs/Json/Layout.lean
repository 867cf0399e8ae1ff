import Mathlib.Data.List.Forall2
import EtcdKit.Proofs.Json.Tokens
/-!
# Layout — a JSON value is read from its text, wherever blanks stand

The text of an array or of an object goes from its opening bracket over its parts, with a comma
between two of them, to its closing bracket, and blanks may stand behind the opening bracket, the
commas and the colons and before the closing bracket (`Blanks`).  Whatever the blanks are, the text
writes the array or the object if the texts of its parts write these (`writes_array`,
`writes_object`), and a text that writes a value is read as that value (`Writes.read_eq`).
-/
namespace EtcdKit.Json

/-! ## Texts that write a value -/

/-- The text starts with no blank, and with no closing bracket. -/
def Opens (cs : List Char) : Prop :=
  ∃ c rest, cs = c :: rest ∧ isSpace c = false ∧ c ≠ ']' ∧ c ≠ '\x7d'

theorem Opens.append {cs : List Char} (h : Opens cs) (rest : List Char) : Opens (cs ++ rest) := by
  obtain ⟨c, tail, rfl, hspace, hclose⟩ := h
  exact ⟨c, tail ++ rest, rfl, hspace, hclose⟩

theorem Opens.skipSpace {cs : List Char} (h : Opens cs) : skipSpace cs = cs := by
  obtain ⟨c, rest, rfl, hspace, -⟩ := h
  rw [Json.skipSpace, List.dropWhile_cons_of_neg (by rw [hspace]; decide)]

/-- The text is one way to write the value: with enough fuel the value is read from it, whatever may
stand behind a number. -/
structure Writes (text : List Char) (value : Json) : Prop where
  opens : Opens text
  reads : ∀ fuel rest, 2 * text.length ≤ fuel → Stops rest →
    readValue fuel (text ++ rest) = some (value, rest)

/-- With one step of fuel in hand, the text is read by that step and the fuel that it leaves. -/
theorem Writes.of_succ {text : List Char} {value : Json} (opens : Opens text)
    (reads : ∀ fuel rest, 2 * text.length ≤ fuel + 1 → Stops rest →
      readValue (fuel + 1) (text ++ rest) = some (value, rest)) : Writes text value := by
  refine ⟨opens, ?_⟩
  rintro (_ | fuel) rest hfuel hrest
  · obtain ⟨c, tail, rfl, -⟩ := opens
    cases hfuel
  · exact reads fuel rest hfuel hrest

theorem writes_null : Writes ['n', 'u', 'l', 'l'] .null :=
  .of_succ ⟨_, _, rfl, rfl, by decide, by decide⟩ fun _ _ _ _ => rfl

theorem writes_true : Writes ['t', 'r', 'u', 'e'] (.bool true) :=
  .of_succ ⟨_, _, rfl, rfl, by decide, by decide⟩ fun _ _ _ _ => rfl

theorem writes_false : Writes ['f', 'a', 'l', 's', 'e'] (.bool false) :=
  .of_succ ⟨_, _, rfl, rfl, by decide, by decide⟩ fun _ _ _ _ => rfl

theorem writes_string (s : String) : Writes (quote s) (.string s) := by
  refine .of_succ ⟨_, _, rfl, rfl, by decide, by decide⟩ fun fuel rest _ _ => ?_
  rw [quote_append, readValue, readPieces_escaped]
  simp only [piecesText?_map_some]

/-- An integer starts with a digit or a minus sign, and so with no other character. -/
theorem chars_integer_head (n : Int) : ∃ c cs, chars (.integer n) = c :: cs ∧
    ∀ x : Char, x.isDigit = false → x ≠ '-' → c ≠ x := by
  cases n with
  | ofNat n =>
    obtain ⟨c, cs, hcs⟩ := List.exists_cons_of_ne_nil (Nat.toDigits_ne_nil (n := n) (b := 10))
    have hdigit : c.isDigit = true :=
      Text.isDigit_of_mem_toDigits c (by rw [hcs]; exact List.mem_cons_self)
    exact ⟨c, cs, (chars_ofNat n).trans hcs, fun x hx _ => Text.ne_of_class hdigit hx⟩
  | negSucc m => exact ⟨'-', _, chars_negSucc m, fun x _ hx => hx.symm⟩

theorem opens_integer (n : Int) : Opens (chars (.integer n)) := by
  obtain ⟨c, cs, hcs, hne⟩ := chars_integer_head n
  refine ⟨c, cs, hcs, ?_, hne _ (by decide) (by decide), hne _ (by decide) (by decide)⟩
  simp [isSpace, hne ' ' (by decide) (by decide), hne '\n' (by decide) (by decide),
    hne '\t' (by decide) (by decide), hne '\r' (by decide) (by decide)]

theorem writes_integer {n : Int} (hn : Fits64 n) : Writes (chars (.integer n)) (.integer n) := by
  refine .of_succ (opens_integer n) fun fuel rest _ hrest => ?_
  obtain ⟨d, hread, hd⟩ := readNumber_integer hn hrest
  obtain ⟨c, cs, hcs, hne⟩ := chars_integer_head n
  rw [hcs, List.cons_append] at hread ⊢
  rw [readValue, hread]
  · simp [hd]
  all_goals
    intro _ heq
    exact hne _ (by decide) (by decide) (List.cons.inj heq).1

/-! ## Blanks -/

/-- The text holds blanks only. -/
def Spaces (cs : List Char) : Prop := ∀ c ∈ cs, isSpace c = true

theorem skipSpace_append {cs : List Char} (h : Spaces cs) (rest : List Char) :
    skipSpace (cs ++ rest) = skipSpace rest :=
  List.dropWhile_append_of_pos h

/-- A number ends in front of blanks, as it ends in front of what they stand before. -/
theorem stops_append {cs rest : List Char} (h : Spaces cs) (hrest : Stops rest) :
    Stops (cs ++ rest) := by
  cases cs with
  | nil => exact hrest
  | cons c cs =>
    have hc : isSpace c = true := h c List.mem_cons_self
    simp only [isSpace, Bool.or_eq_true, beq_iff_eq] at hc
    rcases hc with ((rfl | rfl) | rfl) | rfl <;> exact ⟨rfl, by decide, by decide, by decide⟩

/-- The blanks between the tokens of an array or of an object. -/
structure Blanks where
  /-- Behind the opening bracket. -/
  lead : List Char
  /-- Behind each comma. -/
  comma : List Char
  /-- Behind each colon. -/
  colon : List Char
  /-- Before the closing bracket. -/
  close : List Char
  spaces_lead : Spaces lead
  spaces_comma : Spaces comma
  spaces_colon : Spaces colon
  spaces_close : Spaces close

namespace Blanks

/-- No blank anywhere. -/
def none : Blanks where
  lead := []
  comma := []
  colon := []
  close := []
  spaces_lead := by simp [Spaces]
  spaces_comma := by simp [Spaces]
  spaces_colon := by simp [Spaces]
  spaces_close := by simp [Spaces]

/-- The text between two brackets, from those of the parts. -/
def text (b : Blanks) (opening closing : Char) (parts : List (List Char)) : List Char :=
  opening :: (b.lead ++ (List.intercalate (',' :: b.comma) parts ++ (b.close ++ [closing])))

/-- The text of an array, from those of its items. -/
def arrayText (b : Blanks) (items : List (List Char)) : List Char := b.text '[' ']' items

/-- The text of a member, from its name and the text of its value. -/
def memberText (b : Blanks) (name : String) (value : List Char) : List Char :=
  quote name ++ ':' :: (b.colon ++ value)

/-- The text of an object, from those of its members. -/
def objectText (b : Blanks) (members : List (List Char)) : List Char :=
  b.text '\x7b' '\x7d' members

end Blanks

theorem opens_intercalate {α : Type} {R : List Char → α → Prop}
    (hopens : ∀ {text value}, R text value → Opens text) {texts : List (List Char)}
    {values : List α} (each : List.Forall₂ R texts values) (hne : texts ≠ [])
    (separator : List Char) : Opens (List.intercalate separator texts) := by
  cases each with
  | nil => exact absurd rfl hne
  | cons hfirst hmore =>
    cases hmore with
    | nil =>
      rw [List.intercalate_singleton]
      exact hopens hfirst
    | cons _ _ =>
      rw [List.intercalate_cons_cons, List.append_assoc]
      exact (hopens hfirst).append _

/-- A number ends in front of the comma that follows it. -/
theorem stops_comma (rest : List Char) : Stops (',' :: rest) := by
  simp [Stops]

/-! ## Arrays -/

theorem readItems_last {fuel : Nat} {text close rest : List Char} {item : Json}
    (hclose : Spaces close)
    (hitem : readValue fuel text = some (item, close ++ ']' :: rest)) :
    readItems (fuel + 1) text = some ([item], rest) := by
  have hbracket : skipSpace (close ++ ']' :: rest) = ']' :: rest := skipSpace_append hclose _
  rw [readItems, hitem]
  simp only [hbracket]

theorem readItems_next {fuel : Nat} {text more rest : List Char} {item : Json} {items : List Json}
    (hitem : readValue fuel text = some (item, ',' :: more))
    (hmore : readItems fuel (skipSpace more) = some (items, rest)) :
    readItems (fuel + 1) text = some (item :: items, rest) := by
  have hcomma : skipSpace (',' :: more) = ',' :: more := rfl
  rw [readItems, hitem]
  simp only [hcomma, hmore, Option.map_some]

/-- The items of an array are read up to its closing bracket. -/
theorem readItems_texts (b : Blanks) {texts : List (List Char)} {items : List Json}
    (each : List.Forall₂ Writes texts items) (hne : texts ≠ []) (fuel : Nat) (rest : List Char)
    (hfuel : 2 * (List.intercalate (',' :: b.comma) texts).length + 1 ≤ fuel) :
    readItems fuel (List.intercalate (',' :: b.comma) texts ++ (b.close ++ ']' :: rest)) =
      some (items, rest) := by
  induction each generalizing fuel with
  | nil => exact absurd rfl hne
  | @cons text item texts items hitem htexts ih =>
    obtain ⟨fuel, rfl⟩ : ∃ n, fuel = n + 1 := ⟨fuel - 1, by omega⟩
    cases htexts with
    | nil =>
      rw [List.intercalate_singleton] at hfuel ⊢
      have hstops : Stops (b.close ++ ']' :: rest) :=
        stops_append b.spaces_close ⟨rfl, by decide, by decide, by decide⟩
      exact readItems_last b.spaces_close (hitem.reads fuel _ (by omega) hstops)
    | @cons next _ texts _ hnext hrest =>
      -- the comma pays for the step that reads the other items behind it
      rw [List.intercalate_cons_cons] at hfuel ⊢
      simp only [List.length_append, List.length_cons] at hfuel
      have hopens := opens_intercalate (R := Writes) Writes.opens (.cons hnext hrest)
        (List.cons_ne_nil next texts) (',' :: b.comma)
      have hmore := ih (List.cons_ne_nil next texts) fuel (by omega)
      rw [← (hopens.append _).skipSpace, ← skipSpace_append b.spaces_comma] at hmore
      rw [List.append_assoc, List.append_assoc, List.cons_append]
      exact readItems_next (hitem.reads fuel _ (by omega) (stops_comma _)) hmore

theorem readValue_items {fuel : Nat} {lead text rest : List Char} {items : List Json}
    (hlead : Spaces lead) (hopens : Opens text)
    (hread : readItems fuel text = some (items, rest)) :
    readValue (fuel + 1) ('[' :: (lead ++ text)) = some (.array items, rest) := by
  rw [readValue, skipSpace_append hlead, hopens.skipSpace]
  obtain ⟨c, tail, rfl, -, hclose, -⟩ := hopens
  split
  · rename_i after heq
    exact absurd (List.cons.inj heq).1 hclose
  · rw [hread]
    rfl

/-- **An array is written by the texts of its items**, with any blanks between them. -/
theorem writes_array (b : Blanks) {texts : List (List Char)} {items : List Json}
    (each : List.Forall₂ Writes texts items) : Writes (b.arrayText texts) (.array items) := by
  refine .of_succ ⟨_, _, rfl, rfl, by decide, by decide⟩ fun fuel rest hfuel _ => ?_
  simp only [Blanks.arrayText, Blanks.text, List.length_cons, List.length_append] at hfuel
  simp only [Blanks.arrayText, Blanks.text, List.cons_append, List.append_assoc, List.nil_append]
  by_cases hne : texts = []
  · subst hne
    cases each
    have hskip : skipSpace (b.lead ++ (b.close ++ ']' :: rest)) = ']' :: rest := by
      rw [skipSpace_append b.spaces_lead, skipSpace_append b.spaces_close]
      rfl
    rw [List.intercalate_nil, List.nil_append, readValue, hskip]
    rfl
  · have hopens := opens_intercalate Writes.opens each hne (',' :: b.comma)
    exact readValue_items b.spaces_lead (hopens.append _)
      (readItems_texts b each hne fuel rest (by omega))

/-! ## Objects -/

/-- The text is one way to write the member. -/
def WritesMember (b : Blanks) (text : List Char) (m : String × Json) : Prop :=
  ∃ value, text = b.memberText m.1 value ∧ Writes value m.2

theorem Writes.member {text : List Char} {value : Json} (h : Writes text value) (b : Blanks)
    (name : String) : WritesMember b (b.memberText name text) (name, value) :=
  ⟨text, rfl, h⟩

theorem WritesMember.opens {b : Blanks} {text : List Char} {m : String × Json}
    (h : WritesMember b text m) : Opens text := by
  obtain ⟨value, rfl, -⟩ := h
  exact ⟨_, _, rfl, rfl, by decide, by decide⟩

theorem readMembers_last {fuel : Nat} (b : Blanks) (name : String) {item : Json}
    {text rest : List Char} (hopens : Opens text)
    (hitem : readValue fuel text = some (item, b.close ++ '\x7d' :: rest)) :
    readMembers (fuel + 1) (quote name ++ ':' :: (b.colon ++ text)) =
      some ([(some name, item)], rest) := by
  have hcolon : skipSpace (':' :: (b.colon ++ text)) = ':' :: (b.colon ++ text) := rfl
  have hvalue : skipSpace (b.colon ++ text) = text := by
    rw [skipSpace_append b.spaces_colon, hopens.skipSpace]
  have hbrace : skipSpace (b.close ++ '\x7d' :: rest) = '\x7d' :: rest :=
    skipSpace_append b.spaces_close _
  rw [quote_append, readMembers, readPieces_escaped]
  simp only [hcolon, hvalue, hitem, hbrace, piecesText?_map_some]

theorem readMembers_next {fuel : Nat} (b : Blanks) (name : String) {item : Json}
    {text more rest : List Char} {members : List (Option String × Json)} (hopens : Opens text)
    (hitem : readValue fuel text = some (item, ',' :: more))
    (hmore : readMembers fuel (skipSpace more) = some (members, rest)) :
    readMembers (fuel + 1) (quote name ++ ':' :: (b.colon ++ text)) =
      some ((some name, item) :: members, rest) := by
  have hcolon : skipSpace (':' :: (b.colon ++ text)) = ':' :: (b.colon ++ text) := rfl
  have hvalue : skipSpace (b.colon ++ text) = text := by
    rw [skipSpace_append b.spaces_colon, hopens.skipSpace]
  have hcomma : skipSpace (',' :: more) = ',' :: more := rfl
  rw [quote_append, readMembers, readPieces_escaped]
  simp only [hcolon, hvalue, hitem, hcomma, hmore, piecesText?_map_some, Option.map_some]

/-- The members of an object are read up to its closing brace. -/
theorem readMembers_texts (b : Blanks) {texts : List (List Char)} {members : List (String × Json)}
    (each : List.Forall₂ (WritesMember b) texts members) (hne : texts ≠ []) (fuel : Nat)
    (rest : List Char) (hfuel : 2 * (List.intercalate (',' :: b.comma) texts).length + 1 ≤ fuel) :
    readMembers fuel (List.intercalate (',' :: b.comma) texts ++ (b.close ++ '\x7d' :: rest)) =
      some (members.map fun m => (some m.1, m.2), rest) := by
  induction each generalizing fuel with
  | nil => exact absurd rfl hne
  | @cons text member texts members hmember htexts ih =>
    obtain ⟨value, rfl, hvalue⟩ := hmember
    obtain ⟨fuel, rfl⟩ : ∃ n, fuel = n + 1 := ⟨fuel - 1, by omega⟩
    cases htexts with
    | nil =>
      rw [List.intercalate_singleton] at hfuel ⊢
      simp only [Blanks.memberText, List.length_append, List.length_cons] at hfuel
      simp only [Blanks.memberText, List.append_assoc, List.cons_append]
      have hstops : Stops (b.close ++ '\x7d' :: rest) :=
        stops_append b.spaces_close ⟨rfl, by decide, by decide, by decide⟩
      exact readMembers_last b member.1 (hvalue.opens.append _)
        (hvalue.reads fuel _ (by omega) hstops)
    | @cons next _ texts _ hnext hrest =>
      rw [List.intercalate_cons_cons] at hfuel ⊢
      simp only [Blanks.memberText, List.length_append, List.length_cons] at hfuel
      simp only [Blanks.memberText, List.append_assoc, List.cons_append]
      have hopens := opens_intercalate (R := WritesMember b) WritesMember.opens (.cons hnext hrest)
        (List.cons_ne_nil next texts) (',' :: b.comma)
      have hmore := ih (List.cons_ne_nil next texts) fuel (by omega)
      rw [← (hopens.append _).skipSpace, ← skipSpace_append b.spaces_comma] at hmore
      exact readMembers_next b member.1 (hvalue.opens.append _)
        (hvalue.reads fuel _ (by omega) (stops_comma _)) hmore

theorem objectOf_named (members : List (String × Json)) :
    objectOf (members.map fun m => (some m.1, m.2)) = .object members := by
  have hnamed : (members.map fun m => (some m.1, m.2)).mapM
      (fun m => m.1.map fun name => (name, m.2)) = some members := by
    induction members with
    | nil => rfl
    | cons m members ih => rw [List.map_cons, List.mapM_cons, ih]; rfl
  rw [objectOf, hnamed]

theorem readValue_members {fuel : Nat} {lead text rest : List Char}
    {members : List (String × Json)} (hlead : Spaces lead) (hopens : Opens text)
    (hread : readMembers fuel text = some (members.map fun m => (some m.1, m.2), rest)) :
    readValue (fuel + 1) ('\x7b' :: (lead ++ text)) = some (.object members, rest) := by
  rw [readValue, skipSpace_append hlead, hopens.skipSpace]
  obtain ⟨c, tail, rfl, -, -, hclose⟩ := hopens
  split
  · rename_i after heq
    exact absurd (List.cons.inj heq).1 hclose
  · rw [hread, ← objectOf_named members]
    rfl

/-- **An object is written by the texts of its members**, with any blanks between them. -/
theorem writes_object (b : Blanks) {texts : List (List Char)} {members : List (String × Json)}
    (each : List.Forall₂ (WritesMember b) texts members) :
    Writes (b.objectText texts) (.object members) := by
  refine .of_succ ⟨_, _, rfl, rfl, by decide, by decide⟩ fun fuel rest hfuel _ => ?_
  simp only [Blanks.objectText, Blanks.text, List.length_cons, List.length_append] at hfuel
  simp only [Blanks.objectText, Blanks.text, List.cons_append, List.append_assoc, List.nil_append]
  by_cases hne : texts = []
  · subst hne
    cases each
    have hskip : skipSpace (b.lead ++ (b.close ++ '\x7d' :: rest)) = '\x7d' :: rest := by
      rw [skipSpace_append b.spaces_lead, skipSpace_append b.spaces_close]
      rfl
    rw [List.intercalate_nil, List.nil_append, readValue, hskip]
    rfl
  · have hopens := opens_intercalate WritesMember.opens each hne (',' :: b.comma)
    exact readValue_members b.spaces_lead (hopens.append _)
      (readMembers_texts b each hne fuel rest (by omega))

/-! ## Strings in arrays and in objects -/

theorem writes_strings (items : List String) :
    List.Forall₂ Writes (items.map quote) (items.map .string) :=
  List.forall₂_map_left_iff.2 (List.forall₂_map_right_iff.2
    (List.forall₂_same.2 fun item _ => writes_string item))

theorem writesMember_strings (b : Blanks) (members : List (String × String)) :
    List.Forall₂ (WritesMember b) (members.map fun m => b.memberText m.1 (quote m.2))
      (members.map fun m => (m.1, .string m.2)) :=
  List.forall₂_map_left_iff.2 (List.forall₂_map_right_iff.2
    (List.forall₂_same.2 fun m _ => (writes_string m.2).member b m.1))

/-! ## Whole texts -/

/-- **A text that writes a value is read as that value**, also with blanks around it. -/
theorem Writes.read_eq {cs : List Char} {value : Json} (h : Writes cs value)
    {before after : List Char} (hbefore : Spaces before) (hafter : Spaces after) {text : String}
    (htext : text.toList = before ++ (cs ++ after)) : read text = some value := by
  have hstops : Stops after := by
    have hnil : Stops [] := trivial
    simpa using stops_append hafter hnil
  have hread := h.reads (2 * (before ++ (cs ++ after)).length + 2) after
    (by simp only [List.length_append]; omega) hstops
  have hend : skipSpace after = [] := by
    simpa [skipSpace] using skipSpace_append hafter []
  rw [read, htext, skipSpace_append hbefore, (h.opens.append _).skipSpace]
  simp only [hread, hend]
  rfl

end EtcdKit.Json
