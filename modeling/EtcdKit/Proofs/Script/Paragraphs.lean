import EtcdKit.Proofs.Script.Fragments
/-!
# Paragraphs — a part of a text that starts with a word and ends at an empty line

A paragraph is looked for from the first line: lines that start otherwise are passed over
(`paragraph_skip`), whatever value stands in them (`paragraph_skip_between`).  A folded text has no empty
line, so it is found as it was written (`paragraph_found`).
-/
namespace EtcdKit
namespace Script

/-- The lines of a text from the first one that starts with a word to the next empty one. -/
def paragraph (word text : String) : String :=
  String.intercalate "\n"
    (((splitLines text).dropWhile fun l => !word.toList.isPrefixOf l.toList).takeWhile (· != ""))

theorem lines_eq_intercalate : ∀ (l : String) (ls : List String),
    lines (l :: ls) = String.intercalate "\n" (l :: ls) ++ "\n"
  | l, [] => by rw [lines_cons, lines_nil, String.append_empty, String.intercalate_singleton]
  | l, m :: ls => by
    rw [lines_cons, lines_eq_intercalate m ls, String.intercalate_cons_cons, String.append_assoc,
      String.append_assoc, String.append_assoc]

/-- A folded text that starts with a word has a first line that starts with it, and no empty line. -/
theorem splitLines_folded {word rest : String} (hword : OneLine word) (hne : word ≠ "")
    (hrest : Folded rest) :
    ∃ l ls, splitLines (word ++ rest ++ "\n") = l :: ls ∧ word.toList <+: l.toList ∧
      ∀ m ∈ l :: ls, m ≠ "" := by
  obtain ⟨ls, hls, hindent⟩ := linesFrom_folded [] (hword.folded.append hrest)
  have hsplit : splitLines (word ++ rest ++ "\n") =
      linesFrom [] ((word ++ rest).toList ++ ['\n']) := by
    unfold splitLines
    rw [String.toList_append]
    rfl
  have hfirst : (word ++ rest).toList.takeWhile (· != '\n') =
      word.toList ++ rest.toList.takeWhile (· != '\n') := by
    rw [String.toList_append, List.takeWhile_append_of_pos]
    intro c hc
    rw [bne_iff_ne]
    rintro rfl
    exact hword hc
  rw [List.reverse_nil, List.nil_append, hfirst] at hls
  refine ⟨_, ls, hsplit.trans hls, ?_, List.forall_mem_cons.2 ⟨?_, ?_⟩⟩
  · rw [String.toList_ofList]
    exact List.prefix_append _ _
  · intro hempty
    have hchars := congrArg String.toList hempty
    rw [String.toList_ofList] at hchars
    exact hne (String.toList_inj.1 (List.append_eq_nil_iff.1 hchars).1)
  · rintro m hm rfl
    cases hindent "" hm

theorem paragraph_skip {word l : String} (hl : OneLine l) (h : ¬ word.toList <+: l.toList)
    (ls : List String) : paragraph word (lines (l :: ls)) = paragraph word (lines ls) := by
  rw [← List.isPrefixOf_iff_prefix, Bool.not_eq_true] at h
  unfold paragraph
  rw [lines_cons, (whole_concat l).splitLines_append, splitLines_concat hl, List.singleton_append,
    List.dropWhile_cons, h]
  rfl

theorem paragraph_skip_between {word front value back : String} (hfront : OneLine front)
    (hback : OneLine back) (hvalue : OneLine value) (h : Text.Apart word front) (ls : List String) :
    paragraph word (lines ((front ++ value ++ back) :: ls)) = paragraph word (lines ls) := by
  refine paragraph_skip (oneLine_append.2 ⟨oneLine_append.2 ⟨hfront, hvalue⟩, hback⟩) ?_ ls
  rw [String.append_assoc]
  exact Text.not_prefix_append h _

/-- **A folded text is the paragraph that starts with its first word**, if an empty line or nothing stands
behind it. -/
theorem paragraph_found {word rest : String} (hword : OneLine word) (hne : word ≠ "")
    (hrest : Folded rest) {ls : List String} (hls : ∀ l ∈ ls.head?, l = "") :
    paragraph word (lines ((word ++ rest) :: ls)) = word ++ rest := by
  obtain ⟨m, ms, hsplit, hm, hempty⟩ := splitLines_folded hword hne hrest
  -- the paragraph goes over all lines of the text, and over none behind it
  have hbehind : (splitLines (lines ls)).takeWhile (· != "") = [] := by
    cases ls with
    | nil => rfl
    | cons l ls =>
      rw [hls l rfl, lines_cons, (whole_concat "").splitLines_append, splitLines_concat oneLine_empty]
      rfl
  have htake : (m :: ms ++ splitLines (lines ls)).takeWhile (· != "") = m :: ms := by
    rw [List.takeWhile_append_of_pos fun l hl => bne_iff_ne.2 (hempty l hl), hbehind, List.append_nil]
  have hwhole : lines (m :: ms) = word ++ rest ++ "\n" := by
    rw [← hsplit]
    exact (whole_concat _).lines_splitLines
  unfold paragraph
  rw [lines_cons, (whole_concat _).splitLines_append, hsplit, List.cons_append, List.dropWhile_cons,
    List.isPrefixOf_iff_prefix.2 hm]
  rw [lines_eq_intercalate] at hwhole
  exact (congrArg _ htake).trans ((String.append_left_inj "\n").1 hwhole)

end Script
end EtcdKit
