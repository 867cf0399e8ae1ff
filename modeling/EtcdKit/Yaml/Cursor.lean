/-!
# Cursor — the place in a YAML text up to which it has been read

A cursor knows what is left of the text, how many characters stand before it, and its line and
column.
-/
namespace EtcdKit.Yaml

def isBlank (c : Char) : Bool := c == ' ' || c == '\t'

def isBreak (c : Char) : Bool :=
  c == '\r' || c == '\n' || c == '\u0085' || c == '\u2028' || c == '\u2029'

def isSpace (c : Char) : Bool := isBlank c || isBreak c

def startsBlank (cs : List Char) : Bool := cs.head?.all isSpace

def startsBreak (cs : List Char) : Bool := cs.head?.all isBreak

def isNameChar (c : Char) : Bool := c.isAlphanum || c == '_' || c == '-'

def isAllowed (c : Char) : Bool :=
  let n := c.toNat
  n == 9 || n == 10 || n == 13 || (0x20 ≤ n && n ≤ 0x7E) || n == 0x85 || (0xA0 ≤ n && n ≤ 0xD7FF) ||
    (0xE000 ≤ n && n ≤ 0xFFFD) || 0x10000 ≤ n

structure Cursor where
  rest : List Char
  index : Nat := 0
  line : Nat := 0
  column : Nat := 0

namespace Cursor

def peek? (c : Cursor) : Option Char := c.rest.head?

def advance (n : Nat) (c : Cursor) : Cursor :=
  { c with rest := c.rest.drop n, index := c.index + n, column := c.column + n }

def take (p : Char → Bool) (c : Cursor) : List Char × Cursor :=
  let run := c.rest.takeWhile p
  (run, c.advance run.length)

def skip (p : Char → Bool) (c : Cursor) : Cursor := (c.take p).2

/-- The line end at the place as it is kept in text, and the place behind it.  All line ends but
the two separators are kept as line feeds. -/
def takeBreak (c : Cursor) : List Char × Cursor :=
  let after := fun (n : Nat) (rest : List Char) =>
    { rest, index := c.index + n, line := c.line + 1, column := 0 : Cursor }
  match c.rest with
  | '\r' :: '\n' :: rest => (['\n'], after 2 rest)
  | ch :: rest =>
    if ch == '\u2028' || ch == '\u2029' then ([ch], after 1 rest)
    else if isBreak ch then (['\n'], after 1 rest)
    else ([], c)
  | [] => ([], c)

/-- A document indicator of three equal characters stands at the beginning of the line. -/
def atIndicator (mark : Char) (c : Cursor) : Bool :=
  c.column == 0 &&
    match c.rest with
    | x :: y :: z :: rest => x == mark && y == mark && z == mark && startsBlank rest
    | _ => false

def atDocumentEdge (c : Cursor) : Bool := c.atIndicator '-' || c.atIndicator '.'

end Cursor
end EtcdKit.Yaml
