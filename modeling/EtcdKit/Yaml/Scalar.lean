import EtcdKit.Text.Digits
import EtcdKit.Yaml.Cursor
/-!
# Scalar — the words and texts of a YAML file

A word stands bare, between quotes, or as a block of indented lines.  Line ends within a bare or
quoted word are folded: one becomes a blank, further ones are kept.
-/
namespace EtcdKit.Yaml

open EtcdKit.Text (hexValue?)

structure Gap where
  broken : Bool := false
  blanks : List Char := []
  first : List Char := []
  further : List Char := []

def Gap.folded (g : Gap) : List Char :=
  if g.broken then
    if g.first = ['\n'] then if g.further.isEmpty then [' '] else g.further
    else g.first ++ g.further
  else g.blanks

/-- Reads a gap.  After a line end, no tab may stand before the column that is given. -/
def readGap (tabLimit : Int) : Nat → Gap → Cursor → Option (Gap × Cursor)
  | 0, g, c => some (g, c)
  | fuel + 1, g, c =>
    match c.peek? with
    | none => some (g, c)
    | some ch =>
      if isBlank ch then
        if g.broken then
          if ch == '\t' && (c.column : Int) < tabLimit then none
          else readGap tabLimit fuel g (c.advance 1)
        else readGap tabLimit fuel { g with blanks := g.blanks ++ [ch] } (c.advance 1)
      else if isBreak ch then
        let (text, c) := c.takeBreak
        if g.broken then readGap tabLimit fuel { g with further := g.further ++ text } c
        else readGap tabLimit fuel { g with broken := true, blanks := [], first := text } c
      else some (g, c)

/-- A run of a bare word: it ends at a blank, at a colon before a blank, and within brackets at
every character that structures them.  Within brackets a colon before one of these is refused. -/
def bareRun (inFlow : Bool) : List Char → Option (List Char)
  | [] => some []
  | c :: rest =>
    if isSpace c then some []
    else if inFlow && c == ':' && rest.head?.any (fun d => ",?[]\x7b\x7d".toList.contains d) then none
    else if c == ':' && startsBlank rest then some []
    else if inFlow && ",[]\x7b\x7d".toList.contains c then some []
    else (bareRun inFlow rest).map (c :: ·)

/-- Reads a bare word behind the text read so far and a gap.  Yields the word, whether a line end
follows it, and the place behind it. -/
def readBare (inFlow : Bool) (indent : Int) :
    Nat → List Char → Gap → Cursor → Option (List Char × Bool × Cursor)
  | 0, text, g, c => some (text, g.broken, c)
  | fuel + 1, text, g, c =>
    if c.atDocumentEdge || c.peek? == some '#' then some (text, g.broken, c)
    else
      match bareRun inFlow c.rest with
      | none => none
      | some run =>
        let (text, g) := if run.isEmpty then (text, g) else (text ++ g.folded ++ run, {})
        let c := c.advance run.length
        if c.peek?.any isSpace then
          match readGap indent (c.rest.length + 1) g c with
          | none => none
          | some (g, c) =>
            if !inFlow && (c.column : Int) < indent then some (text, g.broken, c)
            else readBare inFlow indent fuel text g c
        else some (text, g.broken, c)

def hexNumber? (count : Nat) (cs : List Char) : Option Nat :=
  let digits := cs.take count
  if digits.length = count then
    (digits.mapM hexValue?).map fun values => values.foldl (fun acc v => acc * 16 + v) 0
  else none

/-- The character of an escape behind its backslash, and the number of characters it takes. -/
def escape? (cs : List Char) : Option (Char × Nat) :=
  let coded := fun (count : Nat) (rest : List Char) =>
    match hexNumber? count rest with
    | some n => if n.isValidChar then some (Char.ofNat n, count + 1) else none
    | none => none
  match cs with
  | [] => none
  | 'x' :: rest => coded 2 rest
  | 'u' :: rest => coded 4 rest
  | 'U' :: rest => coded 8 rest
  | e :: _ =>
    match e with
    | '0' => some ('\x00', 1)
    | 'a' => some ('\x07', 1)
    | 'b' => some ('\x08', 1)
    | 't' => some ('\t', 1)
    | '\t' => some ('\t', 1)
    | 'n' => some ('\n', 1)
    | 'v' => some ('\x0b', 1)
    | 'f' => some ('\x0c', 1)
    | 'r' => some ('\r', 1)
    | 'e' => some ('\x1b', 1)
    | ' ' => some (' ', 1)
    | '"' => some ('"', 1)
    | '/' => some ('/', 1)
    | '\\' => some ('\\', 1)
    | 'N' => some ('\u0085', 1)
    | '_' => some ('\u00a0', 1)
    | 'L' => some ('\u2028', 1)
    | 'P' => some ('\u2029', 1)
    | _ => none

inductive RunEnd where
  | closed
  | blank
  | escapedBreak

/-- A run of a word in single quotes, in which a doubled quote stands for itself. -/
def singleRun : Nat → Cursor → List Char × RunEnd × Cursor
  | 0, c => ([], .blank, c)
  | fuel + 1, c =>
    match c.rest with
    | [] => ([], .blank, c)
    | ch :: rest =>
      if isSpace ch then ([], .blank, c)
      else if ch == '\x27' then
        if rest.head? == some '\x27' then
          let (run, ending, c) := singleRun fuel (c.advance 2)
          (ch :: run, ending, c)
        else ([], .closed, c.advance 1)
      else
        let (run, ending, c) := singleRun fuel (c.advance 1)
        (ch :: run, ending, c)

def doubleRun : Nat → Cursor → Option (List Char × RunEnd × Cursor)
  | 0, c => some ([], .blank, c)
  | fuel + 1, c =>
    match c.rest with
    | [] => some ([], .blank, c)
    | ch :: rest =>
      if isSpace ch then some ([], .blank, c)
      else if ch == '"' then some ([], .closed, c.advance 1)
      else if ch == '\\' then
        if rest.head?.any isBreak then some ([], .escapedBreak, ((c.advance 1).takeBreak).2)
        else
          match escape? rest with
          | none => none
          | some (e, count) =>
            (doubleRun fuel (c.advance (count + 1))).map fun (run, ending, c) =>
              (e :: run, ending, c)
      else (doubleRun fuel (c.advance 1)).map fun (run, ending, c) => (ch :: run, ending, c)

/-- Reads a quoted word behind its opening quote and the text read so far. -/
def readQuoted (single : Bool) : Nat → List Char → Cursor → Option (List Char × Cursor)
  | 0, _, _ => none
  | fuel + 1, text, c =>
    if c.atDocumentEdge || c.rest.isEmpty then none
    else
      let run := if single then some (singleRun (c.rest.length + 1) c)
        else doubleRun (c.rest.length + 1) c
      match run with
      | none => none
      | some (run, .closed, c) => some (text ++ run, c)
      | some (run, ending, c) =>
        let start : Gap := match ending with
          | .escapedBreak => { broken := true }
          | _ => {}
        match readGap 0 (c.rest.length + 1) start c with
        | none => none
        | some (g, c) => readQuoted single fuel (text ++ run ++ g.folded) c

inductive Chomping where
  | clip
  | strip
  | keep
  deriving DecidableEq

def chomping? (c : Char) : Option Chomping :=
  if c == '+' then some .keep else if c == '-' then some .strip else none

def indentation? (c : Char) : Option Nat :=
  if c.isDigit && c != '0' then some (c.toNat - 48) else none

/-- The indicators behind the mark of a block, in either order. -/
def blockHeader? (c : Cursor) : Option (Chomping × Nat × Cursor) :=
  match c.rest with
  | [] => some (.clip, 0, c)
  | a :: rest =>
    match chomping? a with
    | some chomping =>
      match rest with
      | d :: _ =>
        if d.isDigit then (indentation? d).map fun n => (chomping, n, c.advance 2)
        else some (chomping, 0, c.advance 1)
      | [] => some (chomping, 0, c.advance 1)
    | none =>
      if a.isDigit then
        (indentation? a).map fun n =>
          match rest.head?.bind chomping? with
          | some chomping => (chomping, n, c.advance 2)
          | none => (.clip, n, c.advance 1)
      else some (.clip, 0, c)

/-- Reads indentation and empty lines in front of a line of a block.  An indentation of zero is
not known yet.  Yields the line ends, the widest column reached, and the place. -/
def readMargin (indent : Nat) : Nat → List Char → Nat → Cursor → Option (List Char × Nat × Cursor)
  | 0, breaks, widest, c => some (breaks, widest, c)
  | fuel + 1, breaks, widest, c =>
    let open_ := fun (column : Nat) => indent == 0 || decide (column < indent)
    let blanks := (c.rest.takeWhile (· == ' ')).length
    let c := c.advance (if indent == 0 then blanks else min blanks (indent - c.column))
    let widest := max widest c.column
    if open_ c.column && c.peek? == some '\t' then none
    else if c.peek?.any isBreak then
      let (text, c) := c.takeBreak
      readMargin indent fuel (breaks ++ text) widest c
    else some (breaks, widest, c)

/-- The lines of a block that have been read: the text, the line end after the last line and the
empty lines after it, and whether that line began with a blank. -/
structure Lines where
  text : List Char := []
  lastBreak : List Char := []
  further : List Char := []
  indented : Bool := false

def readLines (literal : Bool) (indent : Nat) : Nat → Lines → Cursor → Option (Lines × Cursor)
  | 0, l, c => some (l, c)
  | fuel + 1, l, c =>
    if c.column == indent && !c.rest.isEmpty then
      let indented := c.peek?.any isBlank
      let joint :=
        if !literal && l.lastBreak == ['\n'] && !l.indented && !indented then
          if l.further.isEmpty then [' '] else []
        else l.lastBreak
      let (line, c) := c.take (fun ch => !isBreak ch)
      let (lastBreak, c) := c.takeBreak
      match readMargin indent (c.rest.length + 1) [] 0 c with
      | none => none
      | some (further, _, c) =>
        readLines literal indent fuel
          { text := l.text ++ joint ++ l.further ++ line, lastBreak, further, indented } c
    else some (l, c)

/-- Reads a block behind its mark, under the indentation of what holds it. -/
def readBlock (literal : Bool) (outer : Int) (c : Cursor) : Option (List Char × Cursor) := do
  let (chomping, increment, c) ← blockHeader? c
  let c := c.skip isBlank
  let c := if c.peek? == some '#' then c.skip (fun ch => !isBreak ch) else c
  if !startsBreak c.rest then none
  let c := c.takeBreak.2
  let given : Nat := if increment = 0 then 0 else (max outer 0).toNat + increment
  let (further, widest, c) ← readMargin given (c.rest.length + 1) [] 0 c
  let indent := if given = 0 then max (max widest (outer + 1).toNat) 1 else given
  let (l, c) ← readLines literal indent (c.rest.length + 1) { further } c
  let tail := match chomping with
    | .strip => []
    | .clip => l.lastBreak
    | .keep => l.lastBreak ++ l.further
  return (l.text ++ tail, c)

end EtcdKit.Yaml
