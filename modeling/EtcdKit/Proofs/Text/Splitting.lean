import EtcdKit.Text.Lines
import Mathlib.Data.List.Basic
import Mathlib.Data.List.Chain
/-!
# Splitting — a text taken apart at a character

A text is taken apart at every place of a character, or at the first one.  Both undo writing:
`parts_intercalate` gives back texts that were joined, and `splitFirst?_append` the two sides of a
text that was put together, as long as the character stands in none of them where it could be taken
for the joint.  No part of a text holds the character it was taken apart at, so every line of a text
stands on one line (`not_mem_of_mem_lines`).
-/
namespace EtcdKit.Text

/-- The texts between the places of a character. -/
def splitAll (joint : Char) (s : String) : List String :=
  (s.toList.splitOn joint).map String.ofList

/-- What stands in front of the first place of a character, and what stands behind it. -/
def cutFirst? (joint : Char) : List Char → Option (List Char × List Char)
  | [] => none
  | c :: cs =>
    if c = joint then some ([], cs)
    else (cutFirst? joint cs).map fun sides => (c :: sides.1, sides.2)

/-- The two sides of the first place of a character in a text; none if it does not stand there. -/
def splitFirst? (joint : Char) (s : String) : Option (String × String) :=
  (cutFirst? joint s.toList).map fun sides => (String.ofList sides.1, String.ofList sides.2)

/-- The two sides of the last place of a character in a text; none if it does not stand there. -/
def splitLast? (joint : Char) (s : String) : Option (String × String) :=
  (cutFirst? joint s.toList.reverse).map fun sides =>
    (String.ofList sides.2.reverse, String.ofList sides.1.reverse)

/-- **Joined texts are given back** by taking them apart at the joint, if it stands in none of
them. -/
theorem splitAll_intercalate {joint : Char} {separator : String} (hs : separator.toList = [joint])
    {parts : List String} (hne : parts ≠ []) (hj : ∀ p ∈ parts, joint ∉ p.toList) :
    splitAll joint (String.intercalate separator parts) = parts := by
  unfold splitAll
  rw [String.toList_intercalate, hs, List.splitOn_intercalate joint _ (by simpa using hne),
    List.map_map]
  · have hid : String.ofList ∘ String.toList = id := by
      funext s
      exact String.ofList_toList
    rw [hid, List.map_id]
  · intro l hl
    obtain ⟨p, hp, rfl⟩ := List.mem_map.1 hl
    exact hj p hp

/-- The texts that were joined: an empty text has none, as it is what joining no texts gives, and any
other has those between the places of the joint. -/
def parts (joint : Char) (s : String) : List String :=
  if s = "" then [] else splitAll joint s

/-- **Joined texts are given back** as the parts of what they were joined to, however many they are, if
none is empty and the joint stands in none. -/
theorem parts_intercalate {joint : Char} {separator : String} (hs : separator.toList = [joint])
    {ps : List String} (hj : ∀ p ∈ ps, joint ∉ p.toList) (hempty : ∀ p ∈ ps, p ≠ "") :
    parts joint (String.intercalate separator ps) = ps := by
  unfold parts
  cases ps with
  | nil => rfl
  | cons p ps =>
    have hne : String.intercalate separator (p :: ps) ≠ "" := by
      have hp := hempty p List.mem_cons_self
      cases ps with
      | nil => simpa using hp
      | cons q ps => simp [hp]
    rw [if_neg hne, splitAll_intercalate hs (List.cons_ne_nil p ps) hj]

/-- A word in front of every text that is joined is one at the start, and one behind every joint. -/
theorem intercalate_map_append (front separator : String) : ∀ (t : String) (ts : List String),
    String.intercalate separator ((t :: ts).map (front ++ ·)) =
      front ++ String.intercalate (separator ++ front) (t :: ts)
  | t, [] => by
    rw [List.map_cons, List.map_nil, String.intercalate_singleton, String.intercalate_singleton]
  | t, u :: ts => by
    have hrest := intercalate_map_append front separator u ts
    simp only [List.map_cons, String.intercalate_cons_cons, String.append_assoc] at hrest ⊢
    rw [hrest]

theorem cutFirst?_append {joint : Char} : ∀ {front : List Char}, joint ∉ front →
    ∀ rest, cutFirst? joint (front ++ joint :: rest) = some (front, rest)
  | [], _, rest => by simp [cutFirst?]
  | c :: front, h, rest => by
    have hc : c ≠ joint := fun e => h (by simp [e])
    have hf : joint ∉ front := fun hm => h (List.mem_cons_of_mem c hm)
    rw [List.cons_append, cutFirst?, if_neg hc, cutFirst?_append hf rest]
    rfl

theorem cutFirst?_eq_none {joint : Char} : ∀ {s : List Char}, joint ∉ s → cutFirst? joint s = none
  | [], _ => rfl
  | c :: s, h => by
    have hc : c ≠ joint := fun e => h (by simp [e])
    rw [cutFirst?, if_neg hc, cutFirst?_eq_none fun hm => h (List.mem_cons_of_mem c hm)]
    rfl

/-- **The two sides of a joint are given back**, if it does not stand in the first of them. -/
theorem splitFirst?_append {joint : Char} {separator : String} (hs : separator.toList = [joint])
    {front : String} (hf : joint ∉ front.toList) (rest : String) :
    splitFirst? joint (front ++ separator ++ rest) = some (front, rest) := by
  have hl : (front ++ separator ++ rest).toList = front.toList ++ joint :: rest.toList := by
    rw [String.toList_append, String.toList_append, hs, List.append_assoc, List.singleton_append]
  rw [splitFirst?, hl, cutFirst?_append hf, Option.map_some, String.ofList_toList,
    String.ofList_toList]

theorem splitFirst?_eq_none {joint : Char} {s : String} (h : joint ∉ s.toList) :
    splitFirst? joint s = none := by
  rw [splitFirst?, cutFirst?_eq_none h]
  rfl

theorem splitLast?_append {joint : Char} {separator : String} (hs : separator.toList = [joint])
    (front : String) {back : String} (hb : joint ∉ back.toList) :
    splitLast? joint (front ++ separator ++ back) = some (front, back) := by
  have hl : (front ++ separator ++ back).toList.reverse =
      back.toList.reverse ++ joint :: front.toList.reverse := by
    rw [String.toList_append, String.toList_append, hs]
    simp
  have hr : joint ∉ back.toList.reverse := by rwa [List.mem_reverse]
  rw [splitLast?, hl, cutFirst?_append hr, Option.map_some, List.reverse_reverse,
    List.reverse_reverse, String.ofList_toList, String.ofList_toList]

/-- **A text has one last joint**, so its two sides are told apart by it. -/
theorem append_joint_inj {joint : Char} {separator : String} (hs : separator.toList = [joint])
    {front other back rest : String} (hb : joint ∉ back.toList) (hr : joint ∉ rest.toList)
    (h : front ++ separator ++ back = other ++ separator ++ rest) : front = other ∧ back = rest := by
  have hsplit := splitLast?_append hs front hb
  rw [h, splitLast?_append hs other hr] at hsplit
  simp only [Option.some.injEq, Prod.mk.injEq] at hsplit
  exact ⟨hsplit.1.symm, hsplit.2.symm⟩

/-- What stands in a text between a fixed front and a fixed end. -/
def between? (front back s : String) : Option String := do
  let rest ← front.toList.isPrefixOf? s.toList
  let inner ← back.toList.isSuffixOf? rest
  some (String.ofList inner)

theorem between?_eq_some_iff {front back s inner : String} :
    between? front back s = some inner ↔ s = front ++ inner ++ back := by
  unfold between?
  simp only [Option.bind_eq_bind, Option.bind_eq_some_iff, List.isPrefixOf?_eq_some_iff_append_eq,
    List.isSuffixOf?_eq_some_iff_append_eq, Option.some.injEq]
  constructor
  · rintro ⟨rest, hs, chars, rfl, rfl⟩
    have hchars : (String.ofList chars).toList = chars := String.toList_ofList
    apply String.toList_inj.1
    rw [← hs, String.toList_append, String.toList_append, hchars, List.append_assoc]
  · rintro rfl
    refine ⟨inner.toList ++ back.toList, ?_, inner.toList, rfl, String.ofList_toList⟩
    rw [String.toList_append, String.toList_append, List.append_assoc]

theorem between?_eq_none {front back s : String} (h : ¬ front.toList <+: s.toList) :
    between? front back s = none := by
  rw [Option.eq_none_iff_forall_ne_some]
  intro inner hinner
  rw [between?_eq_some_iff.1 hinner, String.append_assoc, String.toList_append] at h
  exact h (List.prefix_append _ _)

/-- Neither of two words starts with the other. -/
def Apart (a b : String) : Prop := ¬ a.toList <+: b.toList ∧ ¬ b.toList <+: a.toList

instance (a b : String) : Decidable (Apart a b) := inferInstanceAs (Decidable (_ ∧ _))

/-- A text that starts with a word does not start with one that is apart from it. -/
theorem not_prefix_append {word front : String} (h : Apart word front) (rest : String) :
    ¬ word.toList <+: (front ++ rest).toList := by
  intro hword
  have hfront : front.toList <+: (front ++ rest).toList := by
    rw [String.toList_append]
    exact List.prefix_append _ _
  exact (List.prefix_or_prefix_of_prefix hword hfront).elim h.1 h.2

/-- A character stands nowhere twice in a row exactly if no two neighbours are both that character. -/
theorem not_pair_infix_iff_isChain {c : Char} {cs : List Char} :
    ¬ [c, c] <:+: cs ↔ cs.IsChain fun x y => ¬ (x = c ∧ y = c) := by
  constructor
  · intro h
    refine (List.isChain_isInfix cs).imp ?_
    rintro x y hxy ⟨rfl, rfl⟩
    exact h hxy
  · intro h hpart
    have hchain := List.IsChain.infix h hpart
    exact List.isChain_pair.1 hchain ⟨rfl, rfl⟩

theorem not_pair_infix_append_iff {c : Char} {front back : List Char} :
    ¬ [c, c] <:+: front ++ back ↔ ¬ [c, c] <:+: front ∧ ¬ [c, c] <:+: back ∧
      ¬ (front.getLast? = some c ∧ back.head? = some c) := by
  rw [not_pair_infix_iff_isChain, not_pair_infix_iff_isChain, not_pair_infix_iff_isChain,
    List.isChain_append]
  simp only [Option.mem_def, and_congr_right_iff]
  intro _ _
  constructor
  · rintro h ⟨hfront, hback⟩
    exact h _ hfront _ hback ⟨rfl, rfl⟩
  · rintro h x hx y hy ⟨rfl, rfl⟩
    exact h ⟨hx, hy⟩

/-- No character at which a text is split stands in a part of it. -/
theorem not_of_mem_splitOnP (p : Char → Bool) : ∀ (cs part : List Char),
    part ∈ cs.splitOnP p → ∀ c ∈ part, p c = false
  | [], part, h => by
    rw [List.splitOnP_nil, List.mem_singleton] at h
    rw [h]
    exact fun c hc => absurd hc List.not_mem_nil
  | c :: cs, part, h => by
    have hcs := not_of_mem_splitOnP p cs
    rw [List.splitOnP_cons_eq_if_modifyHead] at h
    split at h
    · rcases List.mem_cons.1 h with rfl | h
      · exact fun d hd => absurd hd List.not_mem_nil
      · exact hcs part h
    · rename_i hc
      obtain ⟨first, rest, hsplit⟩ := List.exists_cons_of_ne_nil (List.splitOnP_ne_nil p cs)
      rw [hsplit] at h hcs
      rcases List.mem_cons.1 h with rfl | h
      · exact List.forall_mem_cons.2 ⟨by simpa using hc, hcs first List.mem_cons_self⟩
      · exact hcs part (List.mem_cons_of_mem first h)

theorem not_mem_of_mem_splitOn (joint : Char) (cs part : List Char)
    (h : part ∈ cs.splitOn joint) : joint ∉ part := fun hmem => by
  have hother := not_of_mem_splitOnP (· == joint) cs part h joint hmem
  simp at hother

theorem dropReturn_prefix (line : List Char) : dropReturn line <+: line := by
  unfold dropReturn
  split
  · rename_i front hrev
    refine ⟨['\r'], ?_⟩
    rw [← List.reverse_cons, ← hrev, List.reverse_reverse]
  · exact List.prefix_rfl

theorem exists_of_mem_closeLines {line : List Char} : ∀ {parts : List (List Char)},
    line ∈ closeLines parts → ∃ part ∈ parts, line <+: part
  | [last], h => ⟨last, List.mem_singleton_self last, List.mem_singleton.1 h ▸ List.prefix_rfl⟩
  | part :: next :: rest, h => by
    rcases List.mem_cons.1 h with rfl | h
    · exact ⟨part, List.mem_cons_self, dropReturn_prefix part⟩
    · obtain ⟨found, hfound, hfront⟩ := exists_of_mem_closeLines h
      exact ⟨found, List.mem_cons_of_mem part hfound, hfront⟩

/-- Every line of a text stands on one line. -/
theorem not_mem_of_mem_lines {text line : String} (h : line ∈ lines text) : '\n' ∉ line.toList := by
  obtain ⟨chars, hchars, rfl⟩ := List.mem_map.1 h
  obtain ⟨part, hpart, hfront⟩ := exists_of_mem_closeLines (List.mem_filter.1 hchars).1
  rw [String.toList_ofList]
  exact fun hmem => not_mem_of_mem_splitOn '\n' _ part hpart (hfront.subset hmem)

/-- A character that is no digit does not stand in a number. -/
theorem not_mem_toString {c : Char} (hc : c.isDigit = false) (n : Nat) : c ∉ (toString n).toList := by
  intro hm
  have hd : (toString n).toList = Nat.toDigits 10 n := Nat.toList_repr
  rw [hd] at hm
  have := Nat.isDigit_of_mem_toDigits (by decide) (by decide) hm
  rw [hc] at this
  cases this

end EtcdKit.Text
