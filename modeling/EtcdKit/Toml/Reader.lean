import EtcdKit.Text.Digits
import EtcdKit.Toml.Moment
import EtcdKit.Toml.Number
import EtcdKit.Toml.Table
/-!
# Reader — documents from TOML text

A text is a sequence of lines that hold a header, a key with its value, or nothing.  Lists and
inline tables nest less than `nestingLimit` deep, and no key has that many parts.
-/
namespace EtcdKit.Toml

open EtcdKit.Text (hexValue? readNat)

def isBlank (c : Char) : Bool := c == ' ' || c == '\t'

def skipBlanks (cs : List Char) : List Char := cs.dropWhile isBlank

def isCommentChar (c : Char) : Bool := c == '\t' || (0x20 ≤ c.toNat && c.toNat != 0x7F)

def newline? : List Char → Option (List Char)
  | '\n' :: rest => some rest
  | '\r' :: '\n' :: rest => some rest
  | _ => none

def skipComment : List Char → List Char
  | '#' :: rest => rest.dropWhile isCommentChar
  | cs => cs

/-- The text after what may follow a header or a value on its line. -/
def endLine? (cs : List Char) : Option (List Char) :=
  match skipComment (skipBlanks cs) with
  | [] => some []
  | rest => newline? rest

/-- The text after blanks, comments and line ends; a comment has to be closed by a line end. -/
def skipLines : Nat → List Char → Option (List Char)
  | 0, cs => some cs
  | fuel + 1, cs =>
    match skipBlanks cs with
    | '#' :: rest =>
      match newline? (rest.dropWhile isCommentChar) with
      | some after => skipLines fuel after
      | none => none
    | rest =>
      match newline? rest with
      | some after => skipLines fuel after
      | none => some rest

def scalar? (digits : List Char) : Option Char :=
  match readNat 16 digits with
  | some n => if n.isValidChar then some (Char.ofNat n) else none
  | none => none

def shortEscape? : Char → Option Char
  | 'b' => some '\x08'
  | 't' => some '\t'
  | 'n' => some '\n'
  | 'f' => some '\x0c'
  | 'r' => some '\r'
  | '"' => some '"'
  | '\\' => some '\\'
  | _ => none

def readEscape? : List Char → Option (Char × List Char)
  | 'u' :: a :: b :: c :: d :: rest => (scalar? [a, b, c, d]).map fun ch => (ch, rest)
  | 'U' :: a :: b :: c :: d :: e :: f :: g :: h :: rest =>
    (scalar? [a, b, c, d, e, f, g, h]).map fun ch => (ch, rest)
  | e :: rest => (shortEscape? e).map fun ch => (ch, rest)
  | [] => none

def isPlain (c : Char) : Bool := c == '\t' || (0x20 ≤ c.toNat && c.toNat != 0x7F)

def readBasic : Nat → List Char → Option (List Char × List Char)
  | 0, _ => none
  | fuel + 1, cs =>
    match cs with
    | '"' :: rest => some ([], rest)
    | '\\' :: rest =>
      match readEscape? rest with
      | some (c, after) => (readBasic fuel after).map fun (body, r) => (c :: body, r)
      | none => none
    | c :: rest =>
      if isPlain c then (readBasic fuel rest).map fun (body, r) => (c :: body, r) else none
    | [] => none

def readLiteral : List Char → Option (List Char × List Char)
  | [] => none
  | c :: rest =>
    if c = '\x27' then some ([], rest)
    else if isPlain c then (readLiteral rest).map fun (body, r) => (c :: body, r)
    else none

/-- The quotes at the front of a text that close a string of several lines: the last three of at
most five.  The quotes before them belong to the string. -/
def closingQuotes? (quote : Char) (cs : List Char) : Option (List Char × List Char) :=
  let run := min 5 (cs.takeWhile (· == quote)).length
  if 3 ≤ run then some (List.replicate (run - 3) quote, cs.drop run) else none

def skipBlankLines : Nat → List Char → List Char
  | 0, cs => cs
  | fuel + 1, cs =>
    match newline? (skipBlanks cs) with
    | some rest => skipBlankLines fuel rest
    | none => skipBlanks cs

/-- The text behind a backslash at the end of a line: blanks and line ends are skipped. -/
def skipLineEnd? (cs : List Char) : Option (List Char) :=
  (newline? (skipBlanks cs)).map fun rest => skipBlankLines rest.length rest

def readMultilineBasic : Nat → List Char → Option (List Char × List Char)
  | 0, _ => none
  | fuel + 1, cs =>
    match closingQuotes? '"' cs with
    | some (body, rest) => some (body, rest)
    | none =>
      match cs with
      | '\\' :: rest =>
        match readEscape? rest with
        | some (c, after) => (readMultilineBasic fuel after).map fun (body, r) => (c :: body, r)
        | none =>
          match skipLineEnd? rest with
          | some after => readMultilineBasic fuel after
          | none => none
      | c :: rest =>
        if isPlain c then (readMultilineBasic fuel rest).map fun (body, r) => (c :: body, r)
        else
          match newline? cs with
          | some after => (readMultilineBasic fuel after).map fun (body, r) => ('\n' :: body, r)
          | none => none
      | [] => none

def readMultilineLiteral : Nat → List Char → Option (List Char × List Char)
  | 0, _ => none
  | fuel + 1, cs =>
    match closingQuotes? '\x27' cs with
    | some (body, rest) => some (body, rest)
    | none =>
      match cs with
      | c :: rest =>
        if isPlain c then (readMultilineLiteral fuel rest).map fun (body, r) => (c :: body, r)
        else
          match newline? cs with
          | some after => (readMultilineLiteral fuel after).map fun (body, r) => ('\n' :: body, r)
          | none => none
      | [] => none

def dropNewline (cs : List Char) : List Char := (newline? cs).getD cs

def readString? (cs : List Char) : Option (List Char × List Char) :=
  match cs with
  | '"' :: '"' :: '"' :: rest => readMultilineBasic (rest.length + 1) (dropNewline rest)
  | '"' :: rest => readBasic (rest.length + 1) rest
  | a :: b :: c :: rest =>
    if a = '\x27' ∧ b = '\x27' ∧ c = '\x27' then
      readMultilineLiteral (rest.length + 1) (dropNewline rest)
    else if a = '\x27' then readLiteral (b :: c :: rest)
    else none
  | a :: rest => if a = '\x27' then readLiteral rest else none
  | [] => none

def isKeyChar (c : Char) : Bool := c.isAlphanum || c == '-' || c == '_'

/-- One part of a key, bare or quoted on one line, and the text after it. -/
def readKeyPart? (cs : List Char) : Option (String × List Char) :=
  match cs with
  | [] => none
  | '"' :: rest =>
    (readBasic (rest.length + 1) rest).map fun (body, r) => (String.ofList body, r)
  | c :: rest =>
    if c = '\x27' then (readLiteral rest).map fun (body, r) => (String.ofList body, r)
    else
      match (c :: rest).span isKeyChar with
      | ([], _) => none
      | (bare, after) => some (String.ofList bare, after)

/-- Lists and tables in each other, and the parts of a key, stay below this number. -/
def nestingLimit : Nat := 80

/-- The parts of a dotted key, and the text after it; blanks may surround the dots. -/
def readParts? : Nat → List Char → Option (List String × List Char)
  | 0, _ => none
  | fuel + 1, cs =>
    match readKeyPart? (skipBlanks cs) with
    | none => none
    | some (part, after) =>
      match skipBlanks after with
      | '.' :: rest => (readParts? fuel rest).map fun (parts, r) => (part :: parts, r)
      | rest => some ([part], rest)

def readKey? (cs : List Char) : Option (List String × List Char) :=
  match readParts? (cs.length + 1) cs with
  | some (parts, rest) => if parts.length < nestingLimit then some (parts, rest) else none
  | none => none

/-- The entries of a table written inline, as one record. -/
def inlineRecord? : List (List String × Document) → Table → Option Document
  | [], t => some t.toDocument
  | (path, value) :: entries, t =>
    match path.getLast? with
    | none => none
    | some key => (t.insertDotted path.dropLast key value).bind (inlineRecord? entries)

mutual
/-- A value inside that many lists and tables, and the text after it. -/
def readValue : Nat → Nat → List Char → Option (Document × List Char)
  | 0, _, _ => none
  | fuel + 1, depth, cs =>
    match cs with
    | 't' :: 'r' :: 'u' :: 'e' :: rest => some (.bool true, rest)
    | 'f' :: 'a' :: 'l' :: 's' :: 'e' :: rest => some (.bool false, rest)
    | '[' :: rest =>
      if depth + 1 < nestingLimit then
        (readItems fuel (depth + 1) rest).map fun (items, r) => (.list items, r)
      else none
    | '\x7b' :: rest =>
      if depth + 1 < nestingLimit then
        match skipBlanks rest with
        | '\x7d' :: after => some (.record [], after)
        | rest =>
          match readEntries fuel (depth + 1) rest with
          | none => none
          | some (entries, after) =>
            (inlineRecord? entries Table.root).map fun record => (record, after)
      else none
    | '"' :: _ => (readString? cs).map fun (body, r) => (.text (String.ofList body), r)
    | '\x27' :: _ => (readString? cs).map fun (body, r) => (.text (String.ofList body), r)
    | cs =>
      match behindMoment? cs with
      | some rest => some (.foreign, rest)
      | none => readNumber? cs

def readItems : Nat → Nat → List Char → Option (List Document × List Char)
  | 0, _, _ => none
  | fuel + 1, depth, cs =>
    match skipLines cs.length cs with
    | none => none
    | some (']' :: rest) => some ([], rest)
    | some rest =>
      match readValue fuel depth rest with
      | none => none
      | some (item, after) =>
        match skipLines after.length after with
        | some (']' :: rest) => some ([item], rest)
        | some (',' :: rest) =>
          (readItems fuel depth rest).map fun (items, r) => (item :: items, r)
        | _ => none

def readEntries : Nat → Nat → List Char → Option (List (List String × Document) × List Char)
  | 0, _, _ => none
  | fuel + 1, depth, cs =>
    match readKey? cs with
    | some (path, '=' :: rest) =>
      match readValue fuel depth (skipBlanks rest) with
      | none => none
      | some (value, after) =>
        match skipBlanks after with
        | '\x7d' :: rest => some ([(path, value)], rest)
        | ',' :: rest =>
          (readEntries fuel depth rest).map fun (entries, r) => ((path, value) :: entries, r)
        | _ => none
    | _ => none
end

/-- How far a file has been read: its tables, and the path of the table that is open. -/
structure Progress where
  root : Table
  path : List String

def Progress.insert? (p : Progress) (key : List String) (value : Document) : Option Progress :=
  match key.getLast? with
  | none => none
  | some name =>
    (p.root.update false (Table.insertDotted key.dropLast name value) p.path).map
      fun root => { p with root }

def Progress.open? (p : Progress) (path : List String) : Option Progress :=
  match path.getLast? with
  | none => none
  | some name =>
    (p.root.update false (Table.openTable name) path.dropLast).map fun root => ⟨root, path⟩

def Progress.push? (p : Progress) (path : List String) : Option Progress :=
  match path.getLast? with
  | none => none
  | some name =>
    (p.root.update false (Table.pushTable name) path.dropLast).map fun root => ⟨root, path⟩

def readHeader? (p : Progress) (cs : List Char) : Option (Progress × List Char) :=
  match cs with
  | '[' :: rest =>
    match readKey? rest with
    | some (path, ']' :: ']' :: after) => do
      let rest ← endLine? after
      return (← p.push? path, rest)
    | _ => none
  | rest =>
    match readKey? rest with
    | some (path, ']' :: after) => do
      let rest ← endLine? after
      return (← p.open? path, rest)
    | _ => none

def readPair? (p : Progress) (cs : List Char) : Option (Progress × List Char) :=
  match readKey? cs with
  | some (path, '=' :: rest) => do
    let (value, after) ← readValue (2 * rest.length + 2) 0 (skipBlanks rest)
    let rest ← endLine? after
    return (← p.insert? path value, rest)
  | _ => none

def readLines : Nat → Progress → List Char → Option Progress
  | 0, _, _ => none
  | fuel + 1, p, cs =>
    match skipBlanks cs with
    | [] => some p
    | '[' :: rest => (readHeader? p rest).bind fun (p, rest) => readLines fuel p rest
    | c :: rest =>
      if c = '#' ∨ c = '\n' ∨ c = '\r' then
        match endLine? (c :: rest) with
        | some after => readLines fuel p after
        | none => none
      else (readPair? p (c :: rest)).bind fun (p, rest) => readLines fuel p rest

def dropMark : List Char → List Char
  | '\ufeff' :: rest => rest
  | cs => cs

def read? (text : String) : Option Document :=
  let cs := dropMark text.toList
  (readLines (cs.length + 1) ⟨Table.root, []⟩ cs).map fun p => p.root.toDocument

end EtcdKit.Toml
