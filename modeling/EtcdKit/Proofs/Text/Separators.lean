import EtcdKit.Proofs.Text.Splitting
/-!
# Separators — a text taken apart at another one, and the other one replaced

A separator is looked for from the left, and behind a place where it stands the search goes on after
it.  Replacing it writes another word at these places (`replaceText_eq`).  Joined texts are given back,
and joined by the other word after a replacement, if one character of the separator stands in none of
them: no place of the separator then goes over the end of a text (`splitText_intercalate`).
-/
namespace EtcdKit.Text

/-- The parts of a text between the places of a separator.  `front` is what has been seen of the first
part, backwards; `skip` characters belong to a place that has been found. -/
def partsFrom (separator : List Char) : List Char → Nat → List Char → List (List Char)
  | front, _, [] => [front.reverse]
  | front, skip + 1, _ :: cs => partsFrom separator front skip cs
  | front, 0, c :: cs =>
    if separator.isPrefixOf (c :: cs) then
      front.reverse :: partsFrom separator [] (separator.length - 1) cs
    else partsFrom separator (c :: front) 0 cs

/-- The parts of a text between the places of a separator, which is not empty. -/
def splitText (separator s : String) : List String :=
  (partsFrom separator.toList [] 0 s.toList).map String.ofList

/-- A text with a word in place of a separator; `skip` characters belong to a place that has been
found. -/
def replaceFrom (separator word : List Char) : Nat → List Char → List Char
  | _, [] => []
  | skip + 1, _ :: cs => replaceFrom separator word skip cs
  | 0, c :: cs =>
    if separator.isPrefixOf (c :: cs) then
      word ++ replaceFrom separator word (separator.length - 1) cs
    else c :: replaceFrom separator word 0 cs

/-- A text with a word in every place of a separator, which is not empty. -/
def replaceText (separator word s : String) : String :=
  String.ofList (replaceFrom separator.toList word.toList 0 s.toList)

theorem partsFrom_ne_nil (separator : List Char) : ∀ (cs front : List Char) (skip : Nat),
    partsFrom separator front skip cs ≠ []
  | [], front, skip => by
    rw [partsFrom]
    exact List.cons_ne_nil _ _
  | _ :: cs, front, skip + 1 => by
    rw [partsFrom]
    exact partsFrom_ne_nil separator cs front skip
  | c :: cs, front, 0 => by
    rw [partsFrom]
    split
    · exact List.cons_ne_nil _ _
    · exact partsFrom_ne_nil separator cs (c :: front) 0

theorem intercalate_partsFrom (separator word : List Char) : ∀ (cs front : List Char) (skip : Nat),
    word.intercalate (partsFrom separator front skip cs) =
      front.reverse ++ replaceFrom separator word skip cs
  | [], front, skip => by
    rw [partsFrom, replaceFrom, List.intercalate_singleton, List.append_nil]
  | _ :: cs, front, skip + 1 => by
    rw [partsFrom, replaceFrom]
    exact intercalate_partsFrom separator word cs front skip
  | c :: cs, front, 0 => by
    rw [partsFrom, replaceFrom]
    split
    · have hrest := intercalate_partsFrom separator word cs [] (separator.length - 1)
      rw [List.intercalate_cons_of_ne_nil (partsFrom_ne_nil _ _ _ _), hrest]
      simp
    · rw [intercalate_partsFrom separator word cs (c :: front) 0]
      simp

/-- **Replacing a separator joins the parts by the other word.** -/
theorem replaceText_eq (separator word s : String) :
    replaceText separator word s = String.intercalate word (splitText separator s) := by
  have hid : String.toList ∘ String.ofList = id := by
    funext cs
    exact String.toList_ofList
  apply String.toList_inj.1
  unfold replaceText splitText
  rw [String.toList_intercalate, List.map_map, hid, List.map_id, String.toList_ofList]
  exact (intercalate_partsFrom separator.toList word.toList s.toList [] 0).symm

/-! ## Joined texts -/

theorem partsFrom_append (separator : List Char) : ∀ (passed rest front : List Char),
    partsFrom separator front passed.length (passed ++ rest) = partsFrom separator front 0 rest
  | [], _, _ => rfl
  | _ :: passed, rest, front => by
    rw [List.length_cons, List.cons_append, partsFrom]
    exact partsFrom_append separator passed rest front

section Marked

variable {separator : List Char} {mark : Char}

/-- A separator does not stand in front of itself with something before it that lacks one of its
characters. -/
theorem not_isPrefixOf_append (hmark : mark ∈ separator) {c : Char} {cs : List Char}
    (h : mark ∉ c :: cs) (rest : List Char) :
    separator.isPrefixOf (c :: cs ++ (separator ++ rest)) = false := by
  obtain ⟨before, after, hsplit, hbefore⟩ := List.eq_append_cons_of_mem hmark
  rw [Bool.eq_false_iff]
  intro hprefix
  obtain ⟨tail, htail⟩ := List.isPrefixOf_iff_prefix.1 hprefix
  -- the first mark is as far from the front of the separator as from the front of the whole
  have hfirst : cutFirst? mark (separator ++ tail) = some (before, after ++ tail) := by
    rw [hsplit, List.append_assoc, List.cons_append]
    exact cutFirst?_append hbefore _
  have hlater : mark ∉ c :: cs ++ before := by
    rw [List.mem_append, not_or]
    exact ⟨h, hbefore⟩
  have hsecond : cutFirst? mark (c :: cs ++ (separator ++ rest)) =
      some (c :: cs ++ before, after ++ rest) := by
    rw [hsplit, List.append_assoc, List.cons_append, ← List.append_assoc]
    exact cutFirst?_append hlater _
  rw [htail, hsecond] at hfirst
  have hsame : c :: cs ++ before = before := (Prod.mk.inj (Option.some.inj hfirst)).1
  have hlength := congrArg List.length hsame
  rw [List.length_append, List.length_cons] at hlength
  omega

theorem partsFrom_of_not_mem (hmark : mark ∈ separator) : ∀ (cs front : List Char), mark ∉ cs →
    partsFrom separator front 0 cs = [front.reverse ++ cs]
  | [], front, _ => by rw [partsFrom, List.append_nil]
  | c :: cs, front, h => by
    have hnone : ¬ separator.isPrefixOf (c :: cs) = true := fun hprefix =>
      h ((List.isPrefixOf_iff_prefix.1 hprefix).subset hmark)
    rw [partsFrom, if_neg hnone, partsFrom_of_not_mem hmark cs _ fun hm =>
      h (List.mem_cons_of_mem c hm)]
    simp

theorem partsFrom_separator (hmark : mark ∈ separator) (rest : List Char) :
    ∀ (cs front : List Char), mark ∉ cs →
      partsFrom separator front 0 (cs ++ (separator ++ rest)) =
        (front.reverse ++ cs) :: partsFrom separator [] 0 rest
  | [], front, _ => by
    obtain ⟨first, behind, rfl⟩ := List.exists_cons_of_ne_nil (List.ne_nil_of_mem hmark)
    have hprefix : (first :: behind).isPrefixOf (first :: (behind ++ rest)) = true :=
      List.isPrefixOf_iff_prefix.2 ⟨rest, rfl⟩
    rw [List.nil_append, List.cons_append, partsFrom, if_pos hprefix, List.append_nil]
    exact congrArg _ (partsFrom_append _ behind rest [])
  | c :: cs, front, h => by
    have hnone : ¬ separator.isPrefixOf (c :: (cs ++ (separator ++ rest))) = true := by
      rw [Bool.not_eq_true]
      exact not_isPrefixOf_append hmark h rest
    rw [List.cons_append, partsFrom, if_neg hnone, partsFrom_separator hmark rest cs _ fun hm =>
      h (List.mem_cons_of_mem c hm)]
    simp

theorem partsFrom_intercalate (hmark : mark ∈ separator) : ∀ (part : List Char)
    (parts : List (List Char)), (∀ p ∈ part :: parts, mark ∉ p) →
      partsFrom separator [] 0 (separator.intercalate (part :: parts)) = part :: parts
  | part, [], h => by
    rw [List.intercalate_singleton, partsFrom_of_not_mem hmark _ _ (h part List.mem_cons_self)]
    rfl
  | part, next :: parts, h => by
    have hrest := partsFrom_intercalate hmark next parts fun p hp => h p (List.mem_cons_of_mem _ hp)
    rw [List.intercalate_cons_cons, List.append_assoc,
      partsFrom_separator hmark _ _ _ (h part List.mem_cons_self), hrest]
    rfl

end Marked

/-- **Joined texts are given back** by taking them apart at the separator, if one of its characters
stands in none of them. -/
theorem splitText_intercalate {separator : String} {mark : Char} (hmark : mark ∈ separator.toList)
    {parts : List String} (hne : parts ≠ []) (h : ∀ p ∈ parts, mark ∉ p.toList) :
    splitText separator (String.intercalate separator parts) = parts := by
  obtain ⟨part, rest, rfl⟩ := List.exists_cons_of_ne_nil hne
  have hchars : ∀ p ∈ part.toList :: rest.map String.toList, mark ∉ p := by
    rw [← List.map_cons, List.forall_mem_map]
    exact h
  have hid : String.ofList ∘ String.toList = id := by
    funext s
    exact String.ofList_toList
  unfold splitText
  rw [String.toList_intercalate, List.map_cons, partsFrom_intercalate hmark _ _ hchars,
    ← List.map_cons, List.map_map, hid, List.map_id]

/-- Without such a character, the end of a text could belong to a separator. -/
example : splitText "aa" (String.intercalate "aa" ["a", "b"]) = ["", "ab"] := by decide

/-- **Joined texts are joined by the other word** once it replaces the separator. -/
theorem replaceText_intercalate {separator : String} {mark : Char}
    (hmark : mark ∈ separator.toList) (word : String) {parts : List String}
    (h : ∀ p ∈ parts, mark ∉ p.toList) :
    replaceText separator word (String.intercalate separator parts) =
      String.intercalate word parts := by
  cases parts with
  | nil => rfl
  | cons part rest => rw [replaceText_eq, splitText_intercalate hmark (List.cons_ne_nil _ _) h]

end EtcdKit.Text
