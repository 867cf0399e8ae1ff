import EtcdKit.Json.Value
import EtcdKit.Text.Decimal
import EtcdKit.Text.Digits
/-!
# Reader — JSON values from text

The grammar is the strict one: no trailing comma, no comment, no leading zero, no raw control
character in a string, and only blanks after the value.
-/
namespace EtcdKit.Json

open EtcdKit.Text (Decimal doubleLimit hexValue? natOfDigits roundToDouble signedLimit)

def isSpace (c : Char) : Bool := c == ' ' || c == '\n' || c == '\t' || c == '\r'

def skipSpace (cs : List Char) : List Char := cs.dropWhile isSpace

def hex4? (a b c d : Char) : Option Nat := do
  let a ← hexValue? a
  let b ← hexValue? b
  let c ← hexValue? c
  let d ← hexValue? d
  return ((a * 16 + b) * 16 + c) * 16 + d

def shortEscape? : Char → Option Char
  | '"' => some '"'
  | '\\' => some '\\'
  | '/' => some '/'
  | 'b' => some '\x08'
  | 'f' => some '\x0c'
  | 'n' => some '\n'
  | 'r' => some '\r'
  | 't' => some '\t'
  | _ => none

def isHighSurrogate (n : Nat) : Bool := 0xD800 ≤ n && n ≤ 0xDBFF

def isLowSurrogate (n : Nat) : Bool := 0xDC00 ≤ n && n ≤ 0xDFFF

/-- A piece of a string body that has been read: a character, or half of a surrogate pair. -/
abbrev Piece := Option Char

/-- The pieces of a string body up to its closing quote, and the text after that quote. -/
def readPieces : List Char → Option (List Piece × List Char)
  | [] => none
  | '"' :: rest => some ([], rest)
  | '\\' :: 'u' :: a :: b :: c :: d :: '\\' :: 'u' :: e :: f :: g :: h :: rest =>
    match hex4? a b c d, hex4? e f g h with
    | some high, some low =>
      if isHighSurrogate high && isLowSurrogate low then
        (readPieces rest).map fun (ps, r) =>
          (some (Char.ofNat (0x10000 + (high - 0xD800) * 0x400 + (low - 0xDC00))) :: ps, r)
      else
        (readPieces ('\\' :: 'u' :: e :: f :: g :: h :: rest)).map fun (ps, r) =>
          ((if isHighSurrogate high || isLowSurrogate high then none else some (Char.ofNat high))
            :: ps, r)
    | _, _ => none
  | '\\' :: 'u' :: a :: b :: c :: d :: rest =>
    match hex4? a b c d with
    | some n =>
      (readPieces rest).map fun (ps, r) =>
        ((if isHighSurrogate n || isLowSurrogate n then none else some (Char.ofNat n)) :: ps, r)
    | none => none
  | '\\' :: e :: rest =>
    match shortEscape? e with
    | some c => (readPieces rest).map fun (ps, r) => (some c :: ps, r)
    | none => none
  | c :: rest =>
    if c.toNat < 0x20 || c == '\\' then none
    else (readPieces rest).map fun (ps, r) => (some c :: ps, r)

/-- The text of the pieces, unless half of a surrogate pair stands alone among them. -/
def piecesText? (pieces : List Piece) : Option String := (pieces.mapM id).map String.ofList

def spanDigits (cs : List Char) : List Char × List Char := cs.span Char.isDigit

/-- A fraction, if the text goes on with one; its digits are not empty. -/
def readFraction : List Char → Option (List Char × List Char)
  | '.' :: rest =>
    match spanDigits rest with
    | ([], _) => none
    | (digits, after) => some (digits, after)
  | rest => some ([], rest)

def readExponentDigits (negative : Bool) (rest : List Char) :
    Option (Bool × List Char × List Char) :=
  match spanDigits rest with
  | ([], _) => none
  | (digits, after) => some (negative, digits, after)

def readExponent : List Char → Option (Bool × List Char × List Char)
  | [] => some (false, [], [])
  | c :: rest =>
    if c == 'e' || c == 'E' then
      match rest with
      | '-' :: more => readExponentDigits true more
      | '+' :: more => readExponentDigits false more
      | _ => readExponentDigits false rest
    else some (false, [], c :: rest)

/-- The digits in front of the point: a zero alone, or a run that starts with no zero. -/
def readWhole : List Char → Option (List Char × List Char)
  | '0' :: rest => some (['0'], rest)
  | cs =>
    match spanDigits cs with
    | ([], _) => none
    | (digits, after) => some (digits, after)

def readUnsigned (negative : Bool) (cs : List Char) : Option (Decimal × List Char) := do
  let (whole, cs) ← readWhole cs
  let (fraction, cs) ← readFraction cs
  let (exponentNegative, exponent, cs) ← readExponent cs
  return (⟨negative, whole, fraction, exponentNegative, exponent⟩, cs)

def readNumber : List Char → Option (Decimal × List Char)
  | '-' :: rest => readUnsigned true rest
  | cs => readUnsigned false cs

/-- The number that digits write behind others, for as long as it fits 64 bits, and how many
digits are left. -/
def leadingDigits (acc : Nat) : List Char → Nat × Nat
  | [] => (acc, 0)
  | c :: cs =>
    let next := acc * 10 + (c.toNat - 48)
    if next < UInt64.size then leadingDigits next cs else (acc, cs.length + 1)

/-- The number is read as infinite.  Its size is that of the leading digits times a power of ten,
each rounded to double precision. -/
def tooLarge (d : Decimal) : Bool :=
  let (whole, dropped) := leadingDigits 0 d.whole
  let (significand, left) := leadingDigits whole d.fraction
  let scale := dropped - (d.fraction.length - left : Int) + d.power
  if significand == 0 then false
  else if 309 ≤ scale then true
  else if 0 ≤ scale then
    doubleLimit ≤ roundToDouble significand * roundToDouble (Nat.pow 10 scale.toNat)
  else false

def decimalText (d : Decimal) : String :=
  String.ofList
    ((if d.negative then ['-'] else []) ++ d.whole ++
      (if d.fraction.isEmpty then [] else '.' :: d.fraction) ++
      (if d.exponent.isEmpty then []
       else 'e' :: (if d.exponentNegative then ['-'] else []) ++ d.exponent))

def ofDecimal (d : Decimal) : Json :=
  let n := natOfDigits d.whole
  if d.fraction.isEmpty && d.exponent.isEmpty && !d.negative && n < UInt64.size then .integer n
  else if d.fraction.isEmpty && d.exponent.isEmpty && d.negative && 0 < n && n ≤ signedLimit then
    .integer (-(n : Int))
  else if tooLarge d then .unreadable
  else .decimal (decimalText d)

/-- An object, unless one of its names is unreadable. -/
def objectOf (members : List (Option String × Json)) : Json :=
  match members.mapM (fun m => m.1.map (fun name => (name, m.2))) with
  | some named => .object named
  | none => .unreadable

mutual
def readValue : Nat → List Char → Option (Json × List Char)
  | 0, _ => none
  | fuel + 1, cs =>
    match cs with
    | 'n' :: 'u' :: 'l' :: 'l' :: rest => some (.null, rest)
    | 't' :: 'r' :: 'u' :: 'e' :: rest => some (.bool true, rest)
    | 'f' :: 'a' :: 'l' :: 's' :: 'e' :: rest => some (.bool false, rest)
    | '"' :: rest =>
      match readPieces rest with
      | some (pieces, after) =>
        match piecesText? pieces with
        | some s => some (.string s, after)
        | none => some (.unreadable, after)
      | none => none
    | '[' :: rest =>
      match skipSpace rest with
      | ']' :: after => some (.array [], after)
      | rest => (readItems fuel rest).map fun (items, after) => (.array items, after)
    | '\x7b' :: rest =>
      match skipSpace rest with
      | '\x7d' :: after => some (.object [], after)
      | rest => (readMembers fuel rest).map fun (members, after) => (objectOf members, after)
    | cs => (readNumber cs).map fun (number, after) => (ofDecimal number, after)

def readItems : Nat → List Char → Option (List Json × List Char)
  | 0, _ => none
  | fuel + 1, cs =>
    match readValue fuel cs with
    | none => none
    | some (item, after) =>
      match skipSpace after with
      | ']' :: rest => some ([item], rest)
      | ',' :: rest =>
        (readItems fuel (skipSpace rest)).map fun (items, after) => (item :: items, after)
      | _ => none

def readMembers : Nat → List Char → Option (List (Option String × Json) × List Char)
  | 0, _ => none
  | fuel + 1, cs =>
    match cs with
    | '"' :: rest =>
      match readPieces rest with
      | none => none
      | some (pieces, after) =>
        match skipSpace after with
        | ':' :: rest =>
          match readValue fuel (skipSpace rest) with
          | none => none
          | some (item, after) =>
            match skipSpace after with
            | '\x7d' :: rest => some ([(piecesText? pieces, item)], rest)
            | ',' :: rest =>
              (readMembers fuel (skipSpace rest)).map fun (members, after) =>
                ((piecesText? pieces, item) :: members, after)
            | _ => none
        | _ => none
    | _ => none
end

def read (text : String) : Option Json :=
  let cs := text.toList
  match readValue (2 * cs.length + 2) (skipSpace cs) with
  | some (value, rest) => if (skipSpace rest).isEmpty then some value else none
  | none => none

/-- Arrays and objects nest at most this deep in a value that is read as a whole. -/
def maxDepth : Nat := 127

/-- The value that a text holds, if all of it has a meaning. -/
def readMeaningful (text : String) : Option Json :=
  match read text with
  | some value => if value.meaningful maxDepth then some value else none
  | none => none

end EtcdKit.Json
