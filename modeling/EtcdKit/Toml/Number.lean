import EtcdKit.Document
import EtcdKit.Text.Decimal
import EtcdKit.Text.Digits
/-!
# Number — numbers in TOML text

An integer fits 64 bits with a sign.  A number with a fraction or an exponent is no setting, but it
has to be written well and, if it has no minus sign, has to lie within double precision.
-/
namespace EtcdKit.Toml

open EtcdKit.Text (Decimal readNat signedLimit)

/-- Digits of a base with single underscores between them, and the text after them. -/
def readDigits? (isDigit : Char → Bool) : List Char → Option (List Char × List Char)
  | [] => none
  | c :: cs =>
    if isDigit c then
      match cs with
      | '_' :: rest => (readDigits? isDigit rest).map fun (digits, r) => (c :: digits, r)
      | d :: rest =>
        if isDigit d then (readDigits? isDigit (d :: rest)).map fun (ds, r) => (c :: ds, r)
        else some ([c], d :: rest)
      | [] => some ([c], [])
    else none

def readBased? (base : Nat) (cs : List Char) : Option (Int × List Char) := do
  let (digits, rest) ← readDigits? (fun c => (EtcdKit.Text.digitValue? base c).isSome) cs
  let n ← readNat base digits
  if n < signedLimit then some ((n : Int), rest) else none

/-- The digits in front of the point: a zero alone, or digits that start with no zero. -/
def readWhole? : List Char → Option (List Char × List Char)
  | '0' :: rest => some (['0'], rest)
  | cs => readDigits? Char.isDigit cs

def readExponent? : List Char → Option (Bool × List Char × List Char)
  | '-' :: rest => (readDigits? Char.isDigit rest).map fun (digits, r) => (true, digits, r)
  | '+' :: rest => (readDigits? Char.isDigit rest).map fun (digits, r) => (false, digits, r)
  | rest => (readDigits? Char.isDigit rest).map fun (digits, r) => (false, digits, r)

def isExponentMark (c : Char) : Bool := c == 'e' || c == 'E'

def readDecimal? (negative : Bool) (cs : List Char) : Option (Decimal × List Char) := do
  let (whole, cs) ← readWhole? cs
  let (fraction, cs) ← match cs with
    | '.' :: rest => readDigits? Char.isDigit rest
    | cs => some ([], cs)
  let (exponentNegative, exponent, cs) ← match cs with
    | [] => some (false, [], [])
    | c :: rest => if isExponentMark c then readExponent? rest else some (false, [], c :: rest)
  return (⟨negative, whole, fraction, exponentNegative, exponent⟩, cs)

def ofDecimal? (d : Decimal) : Option Document :=
  if d.fraction.isEmpty && d.exponent.isEmpty then do
    let n ← readNat 10 d.whole
    if d.negative then if n ≤ signedLimit then some (.integer (-(n : Int))) else none
    else if n < signedLimit then some (.integer n) else none
  else if d.isHuge && !d.negative then none
  else some .foreign

def readSigned? (negative : Bool) (cs : List Char) : Option (Document × List Char) :=
  match cs with
  | 'i' :: 'n' :: 'f' :: rest => some (.foreign, rest)
  | 'n' :: 'a' :: 'n' :: rest => some (.foreign, rest)
  | cs => do
    let (number, rest) ← readDecimal? negative cs
    return (← ofDecimal? number, rest)

def readNumber? (cs : List Char) : Option (Document × List Char) :=
  match cs with
  | '0' :: 'x' :: rest => (readBased? 16 rest).map fun (n, r) => (.integer n, r)
  | '0' :: 'o' :: rest => (readBased? 8 rest).map fun (n, r) => (.integer n, r)
  | '0' :: 'b' :: rest => (readBased? 2 rest).map fun (n, r) => (.integer n, r)
  | '+' :: rest => readSigned? false rest
  | '-' :: rest => readSigned? true rest
  | cs => readSigned? false cs

end EtcdKit.Toml
