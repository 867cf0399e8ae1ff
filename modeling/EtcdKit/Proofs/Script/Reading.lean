import EtcdKit.Proofs.Text.Splitting
import EtcdKit.Script.Block
import Mathlib.Data.List.Infix
/-!
# Reading — the files of a script as a shell finds them in its text

A shell reads a script line by line.  A line that sends what follows into a file opens a here-document,
and the first line behind it that is the end marker closes it (`Reading.step`).  Nothing else in the text
tells where a file starts or ends, so a value with the wrong content could do either.

A text of whole lines is read on its own, whatever follows (`ReadsAs.append`).  Plain text in which no
line opens a here-document is passed over, and a here-document is given back as it was written if the
end marker is no line of its body (`readsAs_document`).
-/
namespace EtcdKit
namespace Script

/-! ## Lines -/

/-- The lines of a text, of which the last one may lack its line end; `front` is what has been seen of
the first one, backwards. -/
def linesFrom : List Char → List Char → List String
  | front, [] => if front = [] then [] else [String.ofList front.reverse]
  | front, c :: cs =>
    if c = '\n' then String.ofList front.reverse :: linesFrom [] cs else linesFrom (c :: front) cs

/-- The lines of a text. -/
def splitLines (text : String) : List String := linesFrom [] text.toList

theorem lines_nil : lines [] = "" := rfl

theorem lines_cons (l : String) (ls : List String) : lines (l :: ls) = l ++ "\n" ++ lines ls := by
  unfold lines
  rw [List.map_cons, String.join_cons]

theorem toList_lines_cons (l : String) (ls : List String) :
    (lines (l :: ls)).toList = l.toList ++ '\n' :: (lines ls).toList := by
  rw [lines_cons, String.toList_append, String.toList_append, List.append_assoc]
  rfl

theorem lines_append (ls ms : List String) : lines (ls ++ ms) = lines ls ++ lines ms := by
  unfold lines
  rw [List.map_append, String.join_append]

/-- The last segment of a command stands behind a continuation. -/
theorem command_concat {launcher : List String} (h : launcher ≠ []) (flags : String) :
    command (launcher ++ [flags]) = command launcher ++ continuation ++ flags := by
  unfold command
  rw [String.intercalate_append_of_ne_nil h (List.cons_ne_nil _ _), String.intercalate_singleton]

theorem linesFrom_append : ∀ {l : List Char}, '\n' ∉ l → ∀ front rest : List Char,
    linesFrom front (l ++ '\n' :: rest) = String.ofList (front.reverse ++ l) :: linesFrom [] rest
  | [], _, front, rest => by simp [linesFrom]
  | c :: l, h, front, rest => by
    have hc : c ≠ '\n' := fun e => h (e ▸ List.mem_cons_self)
    have hl : '\n' ∉ l := fun hm => h (List.mem_cons_of_mem c hm)
    rw [List.cons_append, linesFrom, if_neg hc, linesFrom_append hl]
    simp

theorem splitLines_lines_append : ∀ {ls : List String}, (∀ l ∈ ls, '\n' ∉ l.toList) →
    ∀ rest : String, splitLines (lines ls ++ rest) = ls ++ splitLines rest
  | [], _, rest => by rw [lines_nil, String.empty_append, List.nil_append]
  | l :: ls, h, rest => by
    have hsplit : (lines (l :: ls) ++ rest).toList =
        l.toList ++ '\n' :: (lines ls ++ rest).toList := by
      rw [lines_cons, String.append_assoc, String.toList_append, String.toList_append,
        List.append_assoc]
      rfl
    have hrest := splitLines_lines_append (fun m hm => h m (List.mem_cons_of_mem l hm)) rest
    unfold splitLines at hrest ⊢
    rw [hsplit, linesFrom_append (h l List.mem_cons_self), hrest, List.reverse_nil, List.nil_append,
      String.ofList_toList, List.cons_append]

/-- Every line of a text is a part of it. -/
theorem infix_of_mem_linesFrom {l : String} : ∀ (cs front : List Char),
    l ∈ linesFrom front cs → l.toList <:+: front.reverse ++ cs
  | [], front, h => by
    unfold linesFrom at h
    split at h
    · cases h
    · rw [List.mem_singleton.1 h, String.toList_ofList, List.append_nil]
  | c :: cs, front, h => by
    unfold linesFrom at h
    split at h
    · rcases List.mem_cons.1 h with rfl | h
      · rw [String.toList_ofList]
        exact (List.prefix_append _ _).isInfix
      · have hlater := infix_of_mem_linesFrom cs [] h
        have hsuffix : cs <:+ front.reverse ++ c :: cs :=
          (List.suffix_cons c cs).trans (List.suffix_append _ _)
        exact hlater.trans hsuffix.isInfix
    · have hlater := infix_of_mem_linesFrom cs (c :: front) h
      rwa [List.reverse_cons, List.append_assoc, List.singleton_append] at hlater

/-- A text of whole lines. -/
def Whole (text : String) : Prop := ∃ ls, (∀ l ∈ ls, '\n' ∉ l.toList) ∧ text = lines ls

theorem whole_empty : Whole "" := ⟨[], fun _ h => (by cases h), rfl⟩

theorem Whole.append {a b : String} (ha : Whole a) (hb : Whole b) : Whole (a ++ b) := by
  obtain ⟨ls, hls, rfl⟩ := ha
  obtain ⟨ms, hms, rfl⟩ := hb
  refine ⟨ls ++ ms, fun l hl => ?_, (lines_append ls ms).symm⟩
  exact (List.mem_append.1 hl).elim (hls l) (hms l)

/-- A line end makes the last line of a text whole. -/
theorem exists_lines_of_concat : ∀ cs : List Char, ∃ l ls, (∀ m ∈ l :: ls, '\n' ∉ m.toList) ∧
    cs ++ ['\n'] = (lines (l :: ls)).toList
  | [] => ⟨"", [], by simp, rfl⟩
  | c :: cs => by
    obtain ⟨l, ls, hls, hcs⟩ := exists_lines_of_concat cs
    by_cases hc : c = '\n'
    · refine ⟨"", l :: ls, ?_, ?_⟩
      · intro m hm
        rcases List.mem_cons.1 hm with rfl | hm
        · exact List.not_mem_nil
        · exact hls m hm
      · rw [List.cons_append, hcs, hc, lines_cons "", String.toList_append]
        rfl
    · refine ⟨String.ofList (c :: l.toList), ls, ?_, ?_⟩
      · intro m hm
        rcases List.mem_cons.1 hm with rfl | hm
        · have hl := hls l List.mem_cons_self
          rw [String.toList_ofList]
          exact fun h => (List.mem_cons.1 h).elim (fun e => hc e.symm) hl
        · exact hls m (List.mem_cons_of_mem l hm)
      · rw [List.cons_append, hcs, lines_cons, lines_cons]
        simp

theorem whole_concat (text : String) : Whole (text ++ "\n") := by
  obtain ⟨l, ls, hls, htext⟩ := exists_lines_of_concat text.toList
  refine ⟨l :: ls, hls, String.toList_inj.1 ?_⟩
  rw [← htext, String.toList_append]
  rfl

theorem whole_lines : ∀ ls : List String, Whole (lines ls)
  | [] => whole_empty
  | l :: ls => by
    rw [lines_cons]
    exact (whole_concat l).append (whole_lines ls)

theorem endsLine_lines : ∀ {ls : List String}, ls ≠ [] → Block.endsLine (lines ls) = true
  | [], h => absurd rfl h
  | [l], _ => by simp [lines_cons, lines_nil, Block.endsLine]
  | l :: m :: ls, _ => by
    have hrest : Block.endsLine (lines (m :: ls)) = true := endsLine_lines (List.cons_ne_nil m ls)
    unfold Block.endsLine at hrest ⊢
    rw [lines_cons l, String.toList_append, List.getLast?_append, beq_iff_eq.1 hrest]
    rfl

theorem whole_of_endsLine {text : String} (h : Block.endsLine text = true) : Whole text := by
  have hlast : text.toList.getLast? = some '\n' := by simpa [Block.endsLine] using h
  obtain ⟨front, hfront⟩ := List.getLast?_eq_some_iff.1 hlast
  have htext : text = String.ofList front ++ "\n" := by
    apply String.toList_inj.1
    rw [hfront, String.toList_append, String.toList_ofList]
    rfl
  rw [htext]
  exact whole_concat _

theorem splitLines_lines {ls : List String} (h : ∀ l ∈ ls, '\n' ∉ l.toList) :
    splitLines (lines ls) = ls := by
  have hsplit := splitLines_lines_append h ""
  rwa [String.append_empty, show splitLines "" = [] from rfl, List.append_nil] at hsplit

theorem Whole.splitLines_append {a : String} (ha : Whole a) (b : String) :
    splitLines (a ++ b) = splitLines a ++ splitLines b := by
  obtain ⟨ls, hls, rfl⟩ := ha
  rw [splitLines_lines_append hls, splitLines_lines hls]

/-- Whole lines are given back with their line ends. -/
theorem Whole.lines_splitLines {text : String} (h : Whole text) : lines (splitLines text) = text := by
  obtain ⟨ls, hls, rfl⟩ := h
  rw [splitLines_lines hls]

theorem splitLines_concat {l : String} (hl : '\n' ∉ l.toList) : splitLines (l ++ "\n") = [l] := by
  have hsplit := splitLines_lines (List.forall_mem_singleton.2 hl)
  rwa [lines_cons, lines_nil, String.append_empty] at hsplit

/-! ## The reader -/

/-- The line that closes a here-document. -/
def endMarker : String := "EOF"

/-- The path that a line sends a here-document to, if it opens one. -/
def openedPath? (line : String) : Option String := do
  let rest ← "cat > ".toList.isPrefixOf? line.toList
  let path ← " <<EOF".toList.isSuffixOf? rest
  some (String.ofList path)

theorem openedPath?_eq_some_iff {line path : String} :
    openedPath? line = some path ↔ line = "cat > " ++ path ++ " <<EOF" :=
  Text.between?_eq_some_iff

theorem openedPath?_eq_none {word : String} (h : Text.Apart "cat > " word) (rest : String) :
    openedPath? (word ++ rest) = none :=
  Text.between?_eq_none (Text.not_prefix_append h rest)

/-- What has been read of a script: the here-documents that are closed, and the one that is open. -/
structure Reading where
  closed : List HereDocument := []
  open? : Option HereDocument := none
  deriving DecidableEq, Repr

namespace Reading

/-- Reads one line. -/
def step (r : Reading) (line : String) : Reading :=
  match r.open? with
  | none => { r with open? := (openedPath? line).map fun path => ⟨path, ""⟩ }
  | some d =>
    if line = endMarker then { closed := r.closed ++ [d] }
    else { r with open? := some { d with body := d.body ++ line ++ "\n" } }

theorem foldl_step_plain (closed : List HereDocument) : ∀ {ls : List String},
    (∀ l ∈ ls, openedPath? l = none) → ls.foldl step ⟨closed, none⟩ = ⟨closed, none⟩
  | [], _ => rfl
  | l :: ls, h => by
    have hl : step ⟨closed, none⟩ l = ⟨closed, none⟩ := by
      unfold step
      simp only [h l List.mem_cons_self, Option.map_none]
    rw [List.foldl_cons, hl]
    exact foldl_step_plain closed fun m hm => h m (List.mem_cons_of_mem l hm)

/-- The lines of a body are collected with their line ends. -/
theorem foldl_step_body (closed : List HereDocument) (path : String) : ∀ {ls : List String},
    endMarker ∉ ls → ∀ body, ls.foldl step ⟨closed, some ⟨path, body⟩⟩ =
      ⟨closed, some ⟨path, body ++ lines ls⟩⟩
  | [], _, body => by rw [List.foldl_nil, lines_nil, String.append_empty]
  | l :: ls, h, body => by
    have hl : l ≠ endMarker := fun e => h (e ▸ List.mem_cons_self)
    have hls : endMarker ∉ ls := fun hm => h (List.mem_cons_of_mem l hm)
    have hstep : step ⟨closed, some ⟨path, body⟩⟩ l =
        ⟨closed, some ⟨path, body ++ l ++ "\n"⟩⟩ := if_neg hl
    rw [List.foldl_cons, hstep, foldl_step_body closed path hls, lines_cons]
    simp only [String.append_assoc]

end Reading

/-- What a shell has read at the end of a text. -/
def read (text : String) : Reading := (splitLines text).foldl Reading.step {}

/-- A text of whole lines in which a shell finds these here-documents, whatever it has found before;
each of them ends with a line end. -/
structure ReadsAs (text : String) (ds : List HereDocument) : Prop where
  whole : Whole text
  ends : ∀ d ∈ ds, Block.endsLine d.body = true
  reads : ∀ closed,
    (splitLines text).foldl Reading.step ⟨closed, none⟩ = ⟨closed ++ ds, none⟩

theorem ReadsAs.read_eq {text : String} {ds : List HereDocument} (h : ReadsAs text ds) :
    read text = ⟨ds, none⟩ := h.reads []

theorem readsAs_empty : ReadsAs "" [] where
  whole := whole_empty
  ends := fun _ h => (by cases h)
  reads := fun closed => by
    rw [List.append_nil]
    rfl

theorem ReadsAs.append {a b : String} {ds es : List HereDocument} (ha : ReadsAs a ds)
    (hb : ReadsAs b es) : ReadsAs (a ++ b) (ds ++ es) where
  whole := ha.whole.append hb.whole
  ends := fun d hd => (List.mem_append.1 hd).elim (ha.ends d) (hb.ends d)
  reads := fun closed => by
    rw [ha.whole.splitLines_append, List.foldl_append, ha.reads, hb.reads, List.append_assoc]

/-! ## Plain text and here-documents -/

/-- The text does not hold what redirects a here-document. -/
def Quiet (text : String) : Prop := ¬ "<<".toList <:+: text.toList

theorem readsAs_of_not_opened {text : String} (hw : Whole text)
    (h : ∀ l ∈ splitLines text, openedPath? l = none) : ReadsAs text [] := by
  refine ⟨hw, fun _ h => (by cases h), fun closed => ?_⟩
  rw [Reading.foldl_step_plain closed h, List.append_nil]

theorem readsAs_lines {ls : List String} (h : ∀ l ∈ ls, '\n' ∉ l.toList ∧ openedPath? l = none) :
    ReadsAs (lines ls) [] := by
  refine readsAs_of_not_opened (whole_lines ls) ?_
  rw [splitLines_lines fun l hl => (h l hl).1]
  exact fun l hl => (h l hl).2

theorem readsAs_plain {text : String} (hw : Whole text) (hq : Quiet text) : ReadsAs text [] := by
  refine readsAs_of_not_opened hw fun l hl => ?_
  cases hopen : openedPath? l with
  | none => rfl
  | some path =>
    have hline := openedPath?_eq_some_iff.1 hopen
    have hredirect : "<<".toList <:+: l.toList := by
      refine ⟨"cat > ".toList ++ path.toList ++ " ".toList, "EOF".toList, ?_⟩
      rw [hline, String.toList_append, String.toList_append]
      simp
    exact absurd (hredirect.trans (infix_of_mem_linesFrom _ [] hl)) hq

/-- **A here-document is given back** if its path stands on one line, and its body ends with a line end
and has no line that is the end marker. -/
theorem readsAs_document {d : HereDocument} (hpath : '\n' ∉ d.path.toList)
    (hend : Block.endsLine d.body = true) (hmarker : endMarker ∉ splitLines d.body) :
    ReadsAs d.text [d] := by
  have hbody := whole_of_endsLine hend
  let opener := "cat > " ++ d.path ++ " <<EOF"
  have hopener : '\n' ∉ opener.toList := by
    simp only [opener, String.toList_append, List.mem_append, hpath, or_false]
    decide
  have htext : d.text = opener ++ "\n" ++ (d.body ++ (endMarker ++ "\n")) := by
    unfold HereDocument.text
    apply String.toList_inj.1
    simp [opener, endMarker]
  have hlines : splitLines d.text = opener :: (splitLines d.body ++ [endMarker]) := by
    rw [htext, (whole_concat opener).splitLines_append, splitLines_concat hopener,
      hbody.splitLines_append, splitLines_concat (by decide), List.singleton_append]
  have hopens (closed : List HereDocument) :
      Reading.step ⟨closed, none⟩ opener = ⟨closed, some ⟨d.path, ""⟩⟩ := by
    have hpath : openedPath? opener = some d.path := openedPath?_eq_some_iff.2 rfl
    unfold Reading.step
    simp only [hpath, Option.map_some]
  have hwhole : Whole d.text :=
    htext ▸ (whole_concat opener).append (hbody.append (whole_concat endMarker))
  refine ⟨hwhole, List.forall_mem_singleton.2 hend, fun closed => ?_⟩
  rw [hlines, List.foldl_cons, hopens, List.foldl_append, Reading.foldl_step_body _ _ hmarker,
    hbody.lines_splitLines, String.empty_append]
  rfl

/-- An end marker among the lines of a body closes its file there, and the rest of it is commands. -/
example : read "cat > a <<EOF\nx\nEOF\ny\nEOF\n" = { closed := [⟨"a", "x\n"⟩] } := by decide

/-! ## Parts -/

/-- A part that a shell reads as it was meant: plain text of whole lines without here-documents, or a
here-document that ends where its body ends. -/
def SoundPart : ScriptPart → Prop
  | .plain content => Whole content ∧ Quiet content
  | .document d =>
    '\n' ∉ d.path.toList ∧ Block.endsLine d.body = true ∧ endMarker ∉ splitLines d.body

/-- **A script of sound parts is read as it was written.** -/
theorem readsAs_text : ∀ {s : Script}, (∀ part ∈ s, SoundPart part) → ReadsAs s.text s.documents
  | [], _ => readsAs_empty
  | part :: s, h => by
    have hrest := readsAs_text fun p hp => h p (List.mem_cons_of_mem part hp)
    rw [text_cons]
    cases part with
    | plain content =>
      obtain ⟨hw, hq⟩ := h _ List.mem_cons_self
      exact (readsAs_plain hw hq).append hrest
    | document d =>
      obtain ⟨hpath, hend, hmarker⟩ := h _ List.mem_cons_self
      exact (readsAs_document hpath hend hmarker).append hrest

end Script
end EtcdKit
