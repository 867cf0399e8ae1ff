import EtcdKit.Text.Digits
/-!
# Quoted — strings as they stand in a TOML file

A string is written in the plainest of four forms that holds it: in double or single quotes, on one
line or on several.  Escapes stand between double quotes only.
-/
namespace EtcdKit.Toml

open EtcdKit.Text (hexDigitUpper)

inductive StringForm where
  | basic
  | literal
  | multilineBasic
  | multilineLiteral
  deriving DecidableEq, Repr

def isControl (c : Char) : Bool := (c.toNat < 0x20 && c != '\t' && c != '\n') || c.toNat == 0x7F

def longestRun (x : Char) : Nat → List Char → Nat
  | run, [] => run
  | run, c :: cs => if c = x then longestRun x (run + 1) cs else max run (longestRun x 0 cs)

/-- The plainest form that holds a string. -/
def StringForm.of (cs : List Char) : StringForm :=
  let newline := cs.contains '\n'
  if cs.any isControl then if newline then .multilineBasic else .basic
  else if !cs.contains '\\' && !cs.contains '"' && !newline then .basic
  else if !cs.contains '\x27' && !newline then .literal
  else if !cs.contains '\\' && longestRun '"' 0 cs ≤ 2 then .multilineBasic
  else if longestRun '\x27' 0 cs ≤ 2 then .multilineLiteral
  else if newline then .multilineBasic
  else .basic

def escape? (multiline : Bool) (c : Char) : Option (List Char) :=
  match c with
  | '\x08' => some ['\\', 'b']
  | '\t' => some ['\\', 't']
  | '\n' => if multiline then none else some ['\\', 'n']
  | '\x0c' => some ['\\', 'f']
  | '\r' => some ['\\', 'r']
  | '\\' => some ['\\', '\\']
  | c =>
    if c.toNat < 0x20 || c.toNat == 0x7F then
      some ['\\', 'u', '0', '0', hexDigitUpper (c.toNat / 16), hexDigitUpper (c.toNat % 16)]
    else none

/-- The body of a string in double quotes, after a run of quotes that stand unescaped. -/
def basicBody (multiline : Bool) : Nat → List Char → List Char
  | _, [] => []
  | run, c :: cs =>
    if c = '"' then
      if (if multiline then 2 else 0) ≤ run then '\\' :: '"' :: basicBody multiline 0 cs
      else '"' :: basicBody multiline (run + 1) cs
    else
      match escape? multiline c with
      | some text => text ++ basicBody multiline 0 cs
      | none => c :: basicBody multiline 0 cs

/-- The newline that follows the opening quotes of a string with newlines. -/
def openingNewline (cs : List Char) : List Char := if cs.contains '\n' then ['\n'] else []

def quoteAs (form : StringForm) (cs : List Char) : List Char :=
  match form with
  | .basic => ['"'] ++ basicBody false 0 cs ++ ['"']
  | .literal => ['\x27'] ++ cs ++ ['\x27']
  | .multilineBasic =>
    ['"', '"', '"'] ++ openingNewline cs ++ basicBody true 0 cs ++ ['"', '"', '"']
  | .multilineLiteral =>
    ['\x27', '\x27', '\x27'] ++ openingNewline cs ++ cs ++ ['\x27', '\x27', '\x27']

def quote (s : String) : List Char := quoteAs (StringForm.of s.toList) s.toList

end EtcdKit.Toml
