import EtcdKit.Document
import EtcdKit.Yaml.Scalar
/-!
# Token — the tokens of a YAML file

Indentation becomes visible as tokens that open and close collections.  A simple key is only known
as one when its colon is met: then a key token, and if need be an opening token, are put in front
of the tokens of the key.
-/
namespace EtcdKit.Yaml

inductive Token where
  | versionDirective (major minor : Nat)
  | tagDirective (handle : String) (front : List UInt8)
  | documentStart
  | documentEnd
  | blockSequenceStart
  | blockMappingStart
  | blockEnd
  | flowSequenceStart
  | flowSequenceEnd
  | flowMappingStart
  | flowMappingEnd
  | blockEntry
  | flowEntry
  | key
  | value
  | alias (name : String)
  | anchor (name : String)
  | tag (handle : String) (suffix : List UInt8)
  | scalar (text : String) (style : WordStyle)
  deriving DecidableEq, Repr

/-- A place where a simple key may have begun: the number of tokens before it, and where it is. -/
structure KeyStart where
  tokens : Nat
  index : Nat
  line : Nat
  column : Nat
  /-- Without a colon after it the text is wrong, because it stands at the current indentation. -/
  required : Bool

structure Scan where
  cursor : Cursor
  /-- The tokens found so far, the last one first. -/
  tokens : List Token := []
  count : Nat := 0
  /-- The column of the innermost block collection, or minus one outside of all. -/
  indent : Int := -1
  outer : List Int := []
  keyAllowed : Bool := true
  /-- The key that may have begun on each level of brackets, the innermost first. -/
  keys : List (Option KeyStart) := [none]

namespace Scan

def inFlow (s : Scan) : Bool := 1 < s.keys.length

def push (t : Token) (s : Scan) : Scan := { s with tokens := t :: s.tokens, count := s.count + 1 }

def insertAt (position : Nat) (t : Token) (s : Scan) : Scan :=
  let later := s.count - position
  { s with tokens := s.tokens.take later ++ t :: s.tokens.drop later, count := s.count + 1 }

def advance (n : Nat) (s : Scan) : Scan := { s with cursor := s.cursor.advance n }

def allowKey (allowed : Bool) (s : Scan) : Scan := { s with keyAllowed := allowed }

/-- Gives up the key on the innermost level; it must not be a required one. -/
def dropKey (s : Scan) : Option Scan :=
  match s.keys with
  | [] => some s
  | none :: _ => some s
  | some key :: rest => if key.required then none else some { s with keys := none :: rest }

/-- A key that is on an earlier line or too long is none. -/
def freshKey (c : Cursor) (key : Option KeyStart) : Option (Option KeyStart) :=
  match key with
  | none => some none
  | some key =>
    if key.line < c.line || key.index + 1024 < c.index then
      if key.required then none else some none
    else some (some key)

def dropStaleKeys (s : Scan) : Option Scan :=
  (s.keys.mapM (freshKey s.cursor)).map fun keys => { s with keys }

def noteKey (s : Scan) : Option Scan :=
  if s.keyAllowed then
    let c := s.cursor
    let required := !s.inFlow && s.indent == (c.column : Int)
    s.dropKey.map fun s =>
      { s with keys := some ⟨s.count, c.index, c.line, c.column, required⟩ :: s.keys.drop 1 }
  else some s

/-- Opens a block collection if the column is deeper than the innermost one. -/
def openBlock (column : Nat) (position : Nat) (t : Token) (s : Scan) : Scan :=
  if !s.inFlow && s.indent < (column : Int) then
    insertAt position t { s with outer := s.indent :: s.outer, indent := column }
  else s

def closeBlocks (column : Int) : List Int → Scan → Scan
  | [], s => s
  | next :: rest, s =>
    if column < s.indent then
      closeBlocks column rest (push .blockEnd { s with indent := next, outer := rest })
    else s

/-- Closes the block collections that are deeper than a column; none are closed in brackets. -/
def unroll (column : Int) (s : Scan) : Scan :=
  if s.inFlow then s else closeBlocks column s.outer s

/-- Skips blanks, comments and line ends in front of a token.  A tab is skipped where no simple
key may begin. -/
def skipToToken : Nat → Scan → Scan
  | 0, s => s
  | fuel + 1, s =>
    let c := if s.cursor.index == 0 && s.cursor.peek? == some '\ufeff' then s.cursor.advance 1
      else s.cursor
    let tabs := s.inFlow || !s.keyAllowed
    let c := c.skip fun ch => ch == ' ' || (tabs && ch == '\t')
    let c := if c.peek? == some '#' then c.skip (fun ch => !isBreak ch) else c
    if c.peek?.any isBreak then
      skipToToken fuel { s with cursor := c.takeBreak.2, keyAllowed := s.keyAllowed || !s.inFlow }
    else { s with cursor := c }

def versionNumber? (c : Cursor) : Option (Nat × Cursor) :=
  let (digits, c) := c.take Char.isDigit
  if digits.isEmpty || 9 < digits.length then none
  else some (Nat.ofDigitChars 10 digits 0, c)

/-- The handle of a tag: exclamation marks around a name.  The closing mark may be missing, except
in a directive behind a name. -/
def tagHandle? (directive : Bool) (c : Cursor) : Option (List Char × Cursor) :=
  if c.peek? == some '!' then
    let (name, c) := (c.advance 1).take isNameChar
    if c.peek? == some '!' then some ('!' :: (name ++ ['!']), c.advance 1)
    else if directive && !name.isEmpty then none
    else some ('!' :: name, c)
  else none

def isTagChar (verbatim : Bool) (c : Char) : Bool :=
  isNameChar c || ";/?:@&=+$.!~*\x27()".toList.contains c ||
    (verbatim && ",[]".toList.contains c)

/-- The byte that an escape at the front of a text names, and the text after it. -/
def escapedOctet? : List Char → Option (Nat × List Char)
  | '%' :: a :: b :: rest => do
    let high ← EtcdKit.Text.hexValue? a
    let low ← EtcdKit.Text.hexValue? b
    return (high * 16 + low, rest)
  | _ => none

def trailCount? (octet : Nat) : Option Nat :=
  if octet < 0x80 then some 0
  else if octet / 0x20 = 0x06 then some 1
  else if octet / 0x10 = 0x0E then some 2
  else if octet / 0x08 = 0x1E then some 3
  else none

def trailOctets? : Nat → List Char → Option (List UInt8)
  | 0, _ => some []
  | n + 1, cs => do
    let (octet, rest) ← escapedOctet? cs
    if octet / 0x40 ≠ 0x02 then none
    let octets ← trailOctets? n rest
    return UInt8.ofNat octet :: octets

/-- The bytes of the escapes at the front of a text that belong together. -/
def escapedOctets? (cs : List Char) : Option (List UInt8) := do
  let (octet, rest) ← escapedOctet? cs
  let octets ← trailOctets? (← trailCount? octet) rest
  return UInt8.ofNat octet :: octets

def tagAddress? (verbatim : Bool) : Nat → Cursor → Option (List UInt8 × Cursor)
  | 0, c => some ([], c)
  | fuel + 1, c =>
    match c.peek? with
    | none => some ([], c)
    | some ch =>
      if ch == '%' then
        match escapedOctets? c.rest with
        | some octets =>
          (tagAddress? verbatim fuel (c.advance (3 * octets.length))).map fun (more, c) =>
            (octets ++ more, c)
        | none => none
      else if isTagChar verbatim ch then
        (tagAddress? verbatim fuel (c.advance 1)).map fun (more, c) =>
          (UInt8.ofNat ch.toNat :: more, c)
      else some ([], c)

/-- A byte of zero ends a tag. -/
def untilZero (tag : List UInt8) : List UInt8 := tag.takeWhile (· != 0)

def fullTagAddress? (verbatim : Bool) (c : Cursor) : Option (List UInt8 × Cursor) :=
  match tagAddress? verbatim (c.rest.length + 1) c with
  | none => none
  | some (address, c) => if address.isEmpty then none else some (untilZero address, c)

def readTag (inFlow : Bool) (c : Cursor) : Option (Token × Cursor) := do
  let (token, c) ←
    if (c.rest.drop 1).head? == some '<' then do
      let (suffix, c) ← fullTagAddress? true (c.advance 2)
      if c.peek? == some '>' then some (Token.tag "" suffix, c.advance 1) else none
    else do
      let (handle, c) ← tagHandle? false c
      if 2 ≤ handle.length && handle.getLast? == some '!' then
        let (suffix, c) ← fullTagAddress? false c
        some (Token.tag (String.ofList handle) suffix, c)
      else
        let (more, c) ← tagAddress? false (c.rest.length + 1) c
        let suffix := untilZero (octets (String.ofList (handle.drop 1)) ++ more)
        if suffix.isEmpty then some (Token.tag "" (octets "!"), c)
        else some (Token.tag "!" suffix, c)
  if startsBlank c.rest || (inFlow && c.peek? == some ',') then some (token, c) else none

def readAnchor (c : Cursor) : Option (String × Cursor) :=
  let (name, c) := (c.advance 1).take isNameChar
  let closed := startsBlank c.rest || c.peek?.any (fun ch => "?:,]\x7d%@\x60".toList.contains ch)
  if name.isEmpty || !closed then none else some (String.ofList name, c)

def endDirective (c : Cursor) : Option Cursor :=
  let c := c.skip isBlank
  let c := if c.peek? == some '#' then c.skip (fun ch => !isBreak ch) else c
  if startsBreak c.rest then some c.takeBreak.2 else none

def readDirective (c : Cursor) : Option (Token × Cursor) := do
  let (name, c) := (c.advance 1).take isNameChar
  if name.isEmpty || !startsBlank c.rest then none
  if name == "YAML".toList then
    let (major, c) ← versionNumber? (c.skip isBlank)
    if c.peek? != some '.' then none
    let (minor, c) ← versionNumber? (c.advance 1)
    let c ← endDirective c
    some (.versionDirective major minor, c)
  else if name == "TAG".toList then
    let (handle, c) ← tagHandle? true (c.skip isBlank)
    if !c.peek?.any isBlank then none
    let (front, c) ← fullTagAddress? true (c.skip isBlank)
    if !startsBlank c.rest then none
    let c ← endDirective c
    some (.tagDirective (String.ofList handle) front, c)
  else none

def endBlocks (s : Scan) : Option Scan := ((s.unroll (-1)).dropKey).map (allowKey false)

def openFlow (t : Token) (s : Scan) : Option Scan :=
  s.noteKey.map fun s =>
    ((allowKey true { s with keys := none :: s.keys }).push t).advance 1

def closeFlow (t : Token) (s : Scan) : Option Scan :=
  s.dropKey.map fun s =>
    ((allowKey false { s with keys := if s.inFlow then s.keys.drop 1 else s.keys }).push t).advance 1

def blockEntry (s : Scan) : Option Scan :=
  if !s.inFlow && !s.keyAllowed then none
  else
    ((s.openBlock s.cursor.column s.count .blockSequenceStart).dropKey).map fun s =>
      ((allowKey true s).push .blockEntry).advance 1

def keyMark (s : Scan) : Option Scan :=
  if !s.inFlow && !s.keyAllowed then none
  else
    ((s.openBlock s.cursor.column s.count .blockMappingStart).dropKey).map fun s =>
      ((allowKey (!s.inFlow) s).push .key).advance 1

def valueMark (s : Scan) : Option Scan :=
  match s.keys with
  | some key :: rest =>
    let s := { s with keys := none :: rest }
    let s := (s.insertAt key.tokens .key).openBlock key.column key.tokens .blockMappingStart
    some (((allowKey false s).push .value).advance 1)
  | _ =>
    if !s.inFlow && !s.keyAllowed then none
    else
      let s := s.openBlock s.cursor.column s.count .blockMappingStart
      some (((allowKey (!s.inFlow) s).push .value).advance 1)

/-- Splits off a token that a simple key may consist of. -/
def keyToken (read : Cursor → Option (Token × Cursor)) (s : Scan) : Option Scan := do
  let s ← s.noteKey
  let (token, c) ← read s.cursor
  return ((allowKey false s).push token) |> fun s => { s with cursor := c }

def bareWord (s : Scan) : Option Scan := do
  let s ← s.noteKey
  let c := s.cursor
  let (text, broken, c) ← readBare s.inFlow (s.indent + 1) (c.rest.length + 1) [] {} c
  return { ((allowKey broken s).push (.scalar (String.ofList text) .bare)) with cursor := c }

def block (literal : Bool) (s : Scan) : Option Scan := do
  let s ← s.dropKey
  let (text, c) ← readBlock literal s.indent (s.cursor.advance 1)
  let style := if literal then WordStyle.literalBlock else .quoted
  return { ((allowKey true s).push (.scalar (String.ofList text) style)) with cursor := c }

def quotedWord (single : Bool) (c : Cursor) : Option (Token × Cursor) :=
  (readQuoted single (c.rest.length + 1) [] (c.advance 1)).map fun (text, c) =>
    (.scalar (String.ofList text) .quoted, c)

/-- Characters that no bare word begins with, unless the next character allows it. -/
def isIndicator (c : Char) : Bool := "-?:,[]\x7b\x7d#&*!|>\x27\"%@\x60".toList.contains c

/-- A bare word begins with the character, before the text that follows. -/
def startsBare (inFlow : Bool) (c : Char) (rest : List Char) : Bool :=
  !(isSpace c || isIndicator c) || (c == '-' && !rest.head?.any isBlank) ||
    (!inFlow && (c == '?' || c == ':') && !startsBlank rest)

/-- Splits off the next token, in front of which nothing is left to skip. -/
def next (s : Scan) (c : Char) (rest : List Char) : Option Scan :=
  if s.cursor.column == 0 && c == '%' then do
    let s ← s.endBlocks
    let (token, after) ← readDirective s.cursor
    return { s.push token with cursor := after }
  else if s.cursor.atIndicator '-' then
    s.endBlocks.map fun s => (s.push .documentStart).advance 3
  else if s.cursor.atIndicator '.' then
    s.endBlocks.map fun s => (s.push .documentEnd).advance 3
  else if c == '[' then s.openFlow .flowSequenceStart
  else if c == '\x7b' then s.openFlow .flowMappingStart
  else if c == ']' then s.closeFlow .flowSequenceEnd
  else if c == '\x7d' then s.closeFlow .flowMappingEnd
  else if c == ',' then
    s.dropKey.map fun s => ((allowKey true s).push .flowEntry).advance 1
  else if c == '-' && startsBlank rest then s.blockEntry
  else if c == '?' && (s.inFlow || startsBlank rest) then s.keyMark
  else if c == ':' && (s.inFlow || startsBlank rest) then s.valueMark
  else if c == '*' then
    s.keyToken fun c => (readAnchor c).map fun (name, c) => (.alias name, c)
  else if c == '&' then
    s.keyToken fun c => (readAnchor c).map fun (name, c) => (.anchor name, c)
  else if c == '!' then s.keyToken (readTag s.inFlow)
  else if c == '|' && !s.inFlow then s.block true
  else if c == '>' && !s.inFlow then s.block false
  else if c == '\x27' then s.keyToken (quotedWord true)
  else if c == '"' then s.keyToken (quotedWord false)
  else if startsBare s.inFlow c rest then s.bareWord
  else none

def run : Nat → Scan → Option (List Token)
  | 0, _ => none
  | fuel + 1, s => do
    let s := skipToToken (s.cursor.rest.length + 1) s
    let s ← s.dropStaleKeys
    let s := s.unroll s.cursor.column
    match s.cursor.rest with
    | [] =>
      let s ← (s.unroll (-1)).dropKey
      return s.tokens.reverse
    | c :: rest => run fuel (← s.next c rest)

end Scan

def tokens? (text : String) : Option (List Token) :=
  let cs := text.toList
  if cs.all isAllowed then Scan.run (cs.length + 2) { cursor := { rest := cs } } else none

end EtcdKit.Yaml
