import EtcdKit.Directory
import EtcdKit.Proofs.Script.Reading
import EtcdKit.Proofs.Text.Splitting
/-!
# Fragments — texts put together from fixed words and values

Scripts are put together from fixed words and values.  `Quiet` texts hold no redirection of a
here-document: a fixed word between two values keeps them apart, so it is enough that every value is
quiet (`quiet_append_append`).  `Folded` texts go over several lines only in a way that every further
line is indented, so behind a fixed beginning no line of theirs is the end marker
(`endMarker_not_mem_lines`).
-/
namespace EtcdKit
namespace Script

/-- A fixed text is searched for a character by running over it once. -/
theorem not_mem_ofList {c : Char} {cs : List Char} (h : cs.all (· != c) = true) :
    c ∉ (String.ofList cs).toList := by
  rw [String.toList_ofList]
  intro hmem
  simpa using List.all_eq_true.1 h c hmem

/-! ## Quiet texts -/

/-- A text that is not empty, and holds no half of a redirection. -/
def Calm (text : String) : Prop := text.toList ≠ [] ∧ '<' ∉ text.toList

theorem calm_ofList (cs : List Char) (h : (!cs.isEmpty && cs.all (· != '<')) = true) :
    Calm (String.ofList cs) := by
  rw [Bool.and_eq_true] at h
  refine ⟨?_, not_mem_ofList h.2⟩
  simpa [String.toList_ofList] using h.1

theorem quiet_append_iff {a b : String} :
    Quiet (a ++ b) ↔ Quiet a ∧ Quiet b ∧
      ¬ (a.toList.getLast? = some '<' ∧ b.toList.head? = some '<') := by
  unfold Quiet
  rw [String.toList_append]
  exact Text.not_pair_infix_append_iff

theorem quiet_of_not_mem {text : String} (h : '<' ∉ text.toList) : Quiet text :=
  fun hpart => h (hpart.subset (by decide))

theorem quiet_ofList (cs : List Char) (h : cs.all (· != '<') = true) : Quiet (String.ofList cs) :=
  quiet_of_not_mem (not_mem_ofList h)

theorem Calm.quiet {text : String} (h : Calm text) : Quiet text := quiet_of_not_mem h.2

theorem Calm.getLast?_ne {text : String} (h : Calm text) : text.toList.getLast? ≠ some '<' :=
  fun e => h.2 (List.mem_of_getLast? e)

theorem Calm.head?_ne {text : String} (h : Calm text) : text.toList.head? ≠ some '<' :=
  fun e => h.2 (List.mem_of_head? e)

variable {a b m : String}

@[simp] theorem quiet_calm (ha : Calm a) : Quiet a ↔ True := iff_true_intro ha.quiet

@[simp] theorem quiet_calm_append (ha : Calm a) : Quiet (a ++ b) ↔ Quiet b := by
  rw [quiet_append_iff]
  simp [ha.quiet, ha.getLast?_ne]

@[simp] theorem quiet_append_calm (hb : Calm b) : Quiet (a ++ b) ↔ Quiet a := by
  rw [quiet_append_iff]
  simp [hb.quiet, hb.head?_ne]

/-- A fixed word keeps what stands before it apart from what stands behind it. -/
@[simp] theorem quiet_append_append (hm : Calm m) : Quiet (a ++ (m ++ b)) ↔ Quiet a ∧ Quiet b := by
  have hhead : (m ++ b).toList.head? = m.toList.head? := by
    rw [String.toList_append, List.head?_append_of_ne_nil _ hm.1]
  rw [quiet_append_iff, quiet_calm_append hm, hhead]
  simp [hm.head?_ne]

@[simp] theorem quiet_empty : Quiet "" := fun hpart => by simp at hpart

theorem quiet_true (ha : Quiet a) : Quiet a ↔ True := iff_true_intro ha

theorem quiet_intercalate {separator : String} (hs : Calm separator) :
    ∀ ts : List String, Quiet (String.intercalate separator ts) ↔ ∀ t ∈ ts, Quiet t
  | [] => by simp [String.intercalate_nil, quiet_empty]
  | [t] => by simp [String.intercalate_singleton]
  | t :: u :: ts => by
    rw [String.intercalate_cons_cons, String.append_assoc, quiet_append_append hs,
      quiet_intercalate hs (u :: ts)]
    simp only [List.forall_mem_cons]

theorem calm_continuation : Calm continuation := calm_ofList _ rfl

@[simp] theorem quiet_command (segments : List String) :
    Quiet (command segments) ↔ ∀ s ∈ segments, Quiet s :=
  quiet_intercalate calm_continuation segments

@[simp] theorem quiet_lines : ∀ ls : List String, Quiet (lines ls) ↔ ∀ l ∈ ls, Quiet l
  | [] => by simp [lines_nil, quiet_empty]
  | l :: ls => by
    have hend : Calm "\n" := calm_ofList _ rfl
    rw [lines_cons, String.append_assoc, quiet_append_append hend, quiet_lines ls,
      List.forall_mem_cons]

theorem Whole.getLast?_ne {text : String} (h : Whole text) : text.toList.getLast? ≠ some '<' := by
  obtain ⟨ls, -, rfl⟩ := h
  induction ls with
  | nil => simp [lines_nil]
  | cons l ls ih =>
    rw [lines_cons, String.toList_append, String.toList_append, List.getLast?_append]
    intro hlast
    cases hrest : (lines ls).toList.getLast? with
    | none => simp [hrest] at hlast
    | some c =>
      rw [hrest, Option.some_or] at hlast
      exact ih (hrest.trans hlast)

/-- Whole lines are apart from the text behind them. -/
theorem Whole.quiet_append (ha : Whole a) : Quiet (a ++ b) ↔ Quiet a ∧ Quiet b := by
  rw [quiet_append_iff]
  simp only [ha.getLast?_ne, false_and, not_false_eq_true, and_true]

@[simp] theorem quiet_lines_append (ls : List String) :
    Quiet (lines ls ++ b) ↔ Quiet (lines ls) ∧ Quiet b :=
  (whole_lines ls).quiet_append

/-! ## Texts on one line, and texts whose further lines are indented -/

/-- The text stands on one line. -/
def OneLine (text : String) : Prop := '\n' ∉ text.toList

theorem oneLine_ofList (cs : List Char) (h : cs.all (· != '\n') = true) :
    OneLine (String.ofList cs) :=
  not_mem_ofList h

@[simp] theorem oneLine_append : OneLine (a ++ b) ↔ OneLine a ∧ OneLine b := by
  unfold OneLine
  rw [String.toList_append, List.mem_append, not_or]

/-- Behind every line end stands a blank. -/
def Folded (text : String) : Prop :=
  ∀ front rest, text.toList = front ++ '\n' :: rest → rest.head? = some ' '

theorem OneLine.folded (h : OneLine a) : Folded a := by
  intro front rest he
  exact absurd (he ▸ List.mem_append_right front List.mem_cons_self) h

theorem Folded.append (ha : Folded a) (hb : Folded b) : Folded (a ++ b) := by
  intro front rest he
  rw [String.toList_append] at he
  rcases List.append_eq_append_iff.1 he with ⟨part, hfront, hb'⟩ | ⟨part, ha', hrest⟩
  · exact hb part rest hb'
  · cases part with
    | nil => exact hb [] rest hrest.symm
    | cons c cs =>
      obtain ⟨rfl, rfl⟩ := List.cons.inj hrest
      have hhead : cs.head? = some ' ' := ha front cs ha'
      change (cs ++ b.toList).head? = some ' '
      rw [List.head?_append, hhead]
      rfl

@[simp] theorem folded_oneLine (ha : OneLine a) : Folded a ↔ True := iff_true_intro ha.folded

@[simp] theorem folded_append (ha : OneLine a) : Folded (a ++ b) ↔ Folded b := by
  refine ⟨fun h front rest he => ?_, ha.folded.append⟩
  refine h (a.toList ++ front) rest ?_
  rw [String.toList_append, he, List.append_assoc]

/-- What holds of two texts put together holds of many texts joined. -/
theorem intercalate_of_append {holds : String → Prop} {separator : String} (hempty : holds "")
    (happend : ∀ {a b}, holds a → holds b → holds (a ++ b)) (hs : holds separator) :
    ∀ {ts : List String}, (∀ t ∈ ts, holds t) → holds (String.intercalate separator ts)
  | [], _ => by rwa [String.intercalate_nil]
  | [t], h => by
    rw [String.intercalate_singleton]
    exact h t List.mem_cons_self
  | t :: u :: ts, h => by
    have hrest := intercalate_of_append hempty happend hs fun v hv => h v (List.mem_cons_of_mem t hv)
    rw [String.intercalate_cons_cons]
    exact happend (happend (h t List.mem_cons_self) hs) hrest

theorem oneLine_empty : OneLine "" := List.not_mem_nil

theorem OneLine.of_part (hb : OneLine b) (hab : a.toList <:+: b.toList) : OneLine a :=
  fun hmem => hb (hab.subset hmem)

theorem oneLine_true (ha : OneLine a) : OneLine a ↔ True := iff_true_intro ha

theorem oneLine_intercalate {separator : String} {ts : List String} (hs : OneLine separator)
    (h : ∀ t ∈ ts, OneLine t) : OneLine (String.intercalate separator ts) :=
  intercalate_of_append oneLine_empty (fun ha hb => oneLine_append.2 ⟨ha, hb⟩) hs h

theorem folded_intercalate {separator : String} {ts : List String} (hs : Folded separator)
    (h : ∀ t ∈ ts, Folded t) : Folded (String.intercalate separator ts) :=
  intercalate_of_append oneLine_empty.folded Folded.append hs h

/-- A line end with a blank behind it. -/
theorem folded_break : Folded "\n " := by
  intro front rest he
  change ['\n', ' '] = front ++ '\n' :: rest at he
  rcases front with _ | ⟨c, _ | ⟨d, front⟩⟩
  · rw [← (List.cons.inj he).2]
    rfl
  · simp at he
  · simp at he

theorem folded_between (ha : OneLine a) (hb : OneLine b) : Folded (a ++ "\n " ++ b) :=
  (ha.folded.append folded_break).append hb.folded

theorem folded_continuation : Folded continuation := by
  have hparts : continuation = " \\" ++ "\n " ++ "   " := by decide
  rw [hparts]
  exact folded_between (oneLine_ofList _ rfl) (oneLine_ofList _ rfl)

theorem folded_command {segments : List String} (h : ∀ s ∈ segments, Folded s) :
    Folded (command segments) :=
  folded_intercalate folded_continuation h

/-! ## Lines that cannot be the end marker -/

/-- How a line may not start: it could be the end marker. -/
def markerStart : List Char := ['E', 'O']

/-- A fixed beginning that tells a line apart from the end marker. -/
def Lead (text : String) : Prop := OneLine text ∧ ¬ text.toList.take 2 <+: markerStart

theorem lead_ofList (cs : List Char)
    (h : (cs.all (· != '\n') && !(cs.take 2).isPrefixOf markerStart) = true) :
    Lead (String.ofList cs) := by
  have hcs : (String.ofList cs).toList = cs := String.toList_ofList
  rw [Bool.and_eq_true] at h
  refine ⟨oneLine_ofList cs h.1, ?_⟩
  rw [hcs]
  intro hstart
  rw [List.isPrefixOf_iff_prefix.2 hstart] at h
  cases h.2

/-- A text that is written as a line, and is folded where it goes over several. -/
def Contained (text : String) : Prop := Folded text ∧ ¬ markerStart <+: text.toList

@[simp] theorem contained_lead_append (ha : Lead a) : Contained (a ++ b) ↔ Folded b := by
  have hstart : ¬ markerStart <+: (a ++ b).toList := by
    intro h
    rw [String.toList_append] at h
    have htake : a.toList.take 2 <+: a.toList ++ b.toList :=
      (List.take_prefix 2 _).trans (List.prefix_append _ _)
    have hlength : (a.toList.take 2).length ≤ markerStart.length := List.length_take_le 2 _
    exact ha.2 (List.prefix_of_prefix_length_le htake h hlength)
  unfold Contained
  rw [folded_append ha.1]
  exact and_iff_left hstart

@[simp] theorem contained_lead (ha : Lead a) : Contained a ↔ True := by
  have h := contained_lead_append (b := "") ha
  rw [String.append_empty] at h
  rw [h]
  exact iff_true_intro oneLine_empty.folded

@[simp] theorem contained_empty : Contained "" :=
  ⟨oneLine_empty.folded, by decide⟩

/-- The lines of a folded text: the first one, and others that are indented. -/
theorem linesFrom_folded : ∀ {cs : List Char} (front : List Char),
    (∀ first rest, cs = first ++ '\n' :: rest → rest.head? = some ' ') →
      ∃ ls, linesFrom front (cs ++ ['\n']) =
          String.ofList (front.reverse ++ cs.takeWhile (· != '\n')) :: ls ∧
        ∀ l ∈ ls, l.toList.head? = some ' '
  | [], front, _ => ⟨[], by simp [linesFrom], by simp⟩
  | c :: cs, front, h => by
    have hcs : ∀ first rest, cs = first ++ '\n' :: rest → rest.head? = some ' ' :=
      fun first rest he => h (c :: first) rest (by rw [he, List.cons_append])
    by_cases hc : c = '\n'
    -- the first line ends here, and the blank behind its end starts the next one
    · have hhead : cs.head? = some ' ' := h [] cs (by rw [hc, List.nil_append])
      obtain ⟨ls, hls, hindent⟩ := linesFrom_folded [] hcs
      refine ⟨String.ofList (cs.takeWhile (· != '\n')) :: ls, ?_, ?_⟩
      · rw [List.cons_append, linesFrom, if_pos hc, hls]
        simp [hc]
      · intro l hl
        rcases List.mem_cons.1 hl with rfl | hl
        · obtain ⟨rest, rfl⟩ := List.head?_eq_some_iff.1 hhead
          rw [String.toList_ofList]
          rfl
        · exact hindent l hl
    · obtain ⟨ls, hls, hindent⟩ := linesFrom_folded (c :: front) hcs
      refine ⟨ls, ?_, hindent⟩
      rw [List.cons_append, linesFrom, if_neg hc, hls]
      simp [hc]

theorem Contained.endMarker_not_mem {text : String} (h : Contained text) :
    endMarker ∉ splitLines (text ++ "\n") := by
  obtain ⟨ls, hls, hindent⟩ := linesFrom_folded [] h.1
  have hsplit : splitLines (text ++ "\n") = linesFrom [] (text.toList ++ ['\n']) := by
    unfold splitLines
    rw [String.toList_append]
    rfl
  rw [hsplit, hls]
  intro hmem
  rcases List.mem_cons.1 hmem with hfirst | hlater
  · have hchars : text.toList.takeWhile (· != '\n') = ['E', 'O', 'F'] := by
      have := congrArg String.toList hfirst
      rw [String.toList_ofList, List.reverse_nil, List.nil_append] at this
      exact this.symm
    have hstart : markerStart <+: text.toList.takeWhile (· != '\n') :=
      hchars ▸ List.prefix_append markerStart ['F']
    exact h.2 (hstart.trans (List.takeWhile_prefix _))
  · have hhead := hindent endMarker hlater
    simp [endMarker] at hhead

/-- **Contained lines hold no end marker**, however many lines they go over. -/
theorem endMarker_not_mem_lines : ∀ {ls : List String}, (∀ l ∈ ls, Contained l) →
    endMarker ∉ splitLines (lines ls)
  | [], _ => List.not_mem_nil
  | l :: ls, h => by
    have hl := (h l List.mem_cons_self).endMarker_not_mem
    have hls := endMarker_not_mem_lines fun m hm => h m (List.mem_cons_of_mem l hm)
    rw [lines_cons, (whole_concat l).splitLines_append, List.mem_append, not_or]
    exact ⟨hl, hls⟩

/-! ## Values -/

/-- A value that stands on one line and holds no redirection of a here-document. -/
def Inert (text : String) : Prop := OneLine text ∧ Quiet text

instance (text : String) : Decidable (OneLine text) :=
  inferInstanceAs (Decidable ('\n' ∉ text.toList))

instance (text : String) : Decidable (Quiet text) :=
  inferInstanceAs (Decidable (¬ "<<".toList <:+: text.toList))

instance (text : String) : Decidable (Inert text) :=
  inferInstanceAs (Decidable (OneLine text ∧ Quiet text))

theorem Inert.of_part (hb : Inert b) (hab : a.toList <:+: b.toList) : Inert a :=
  ⟨hb.1.of_part hab, fun hpart => hb.2 (hpart.trans hab)⟩

theorem inert_of_not_mem (hbreak : '\n' ∉ a.toList) (hangle : '<' ∉ a.toList) : Inert a :=
  ⟨hbreak, quiet_of_not_mem hangle⟩

theorem inert_ofList (cs : List Char) (h : (cs.all (· != '\n') && cs.all (· != '<')) = true) :
    Inert (String.ofList cs) := by
  rw [Bool.and_eq_true] at h
  exact inert_of_not_mem (not_mem_ofList h.1) (not_mem_ofList h.2)

theorem inert_empty : Inert "" := ⟨oneLine_empty, quiet_empty⟩

theorem inert_toString (n : Nat) : Inert (toString n) :=
  inert_of_not_mem (Text.not_mem_toString (by decide) n) (Text.not_mem_toString (by decide) n)

/-- A fixed word that stands on one line. -/
structure Word (text : String) : Prop where
  oneLine : OneLine text
  calm : Calm text

theorem word_ofList (cs : List Char)
    (h : (cs.all (· != '\n') && (!cs.isEmpty && cs.all (· != '<'))) = true) :
    Word (String.ofList cs) := by
  rw [Bool.and_eq_true] at h
  exact ⟨oneLine_ofList cs h.1, calm_ofList cs h.2⟩

/-- A value with a fixed word behind it. -/
theorem Inert.before (ha : Inert a) (hb : Word b) : Inert (a ++ b) :=
  ⟨oneLine_append.2 ⟨ha.1, hb.oneLine⟩, (quiet_append_calm hb.calm).2 ha.2⟩

/-- Two values with a fixed word between them. -/
theorem Inert.between (ha : Inert a) (hb : Inert b) (hm : Word m) : Inert (a ++ m ++ b) := by
  refine ⟨oneLine_append.2 ⟨oneLine_append.2 ⟨ha.1, hm.oneLine⟩, hb.1⟩, ?_⟩
  rw [String.append_assoc, quiet_append_append hm.calm]
  exact ⟨ha.2, hb.2⟩

/-- A directory as it is written is a part of the directory that was given. -/
theorem strip_part (dir : String) : (Directory.strip dir).toList <:+: dir.toList := by
  unfold Directory.strip Directory.dropSeparator
  split
  · rename_i hroot
    rw [hroot]
  · split
    · rename_i front hrev
      refine List.IsPrefix.isInfix ⟨['/'], ?_⟩
      rw [String.toList_ofList, ← List.reverse_cons, ← hrev, List.reverse_reverse]
    · exact List.infix_rfl

theorem oneLine_strip {dir : String} (h : OneLine dir) : OneLine (Directory.strip dir) :=
  h.of_part (strip_part dir)

theorem oneLine_strip? {dir : Option String} (h : ∀ d, dir = some d → OneLine d) :
    OneLine (Directory.strip? dir) := by
  cases dir with
  | none => exact oneLine_empty
  | some d => exact oneLine_strip (h d rfl)

theorem oneLine_executable {dir program : String} (h : OneLine dir) (hprogram : OneLine program) :
    OneLine (Directory.executable dir program) := by
  have hdivider : OneLine (Directory.divider (Directory.strip dir)) := by
    unfold Directory.divider
    split <;> exact oneLine_ofList _ rfl
  exact oneLine_append.2 ⟨oneLine_append.2 ⟨oneLine_strip h, hdivider⟩, hprogram⟩

theorem inert_strip {dir : String} (h : Inert dir) : Inert (Directory.strip dir) :=
  h.of_part (strip_part dir)

theorem inert_strip? {dir : Option String} (h : ∀ d, dir = some d → Inert d) :
    Inert (Directory.strip? dir) := by
  cases dir with
  | none => exact inert_empty
  | some d => exact inert_strip (h d rfl)

theorem inert_executable {dir program : String} (h : Inert dir) (hprogram : Word program) :
    Inert (Directory.executable dir program) := by
  unfold Directory.executable Directory.divider
  split
  · rw [String.append_empty]
    exact (inert_strip h).before hprogram
  · have hslash : Word "/" := word_ofList _ rfl
    exact (inert_strip h).between ⟨hprogram.oneLine, hprogram.calm.quiet⟩ hslash

end Script
end EtcdKit
