import EtcdKit.Text.Digits
/-!
# Percent — characters written as escaped bytes

An escaped byte is a percent sign and two hexadecimal digits.  Every part of an address has its own
set of characters that are escaped; characters outside ASCII are escaped everywhere.
-/
namespace EtcdKit.Url

open EtcdKit.Text (hexValue? hexDigitUpper)

def isControl (c : Char) : Bool := c.toNat < 0x20 || c.toNat == 0x7F

def inFragmentSet (c : Char) : Bool :=
  isControl c || c == ' ' || c == '"' || c == '<' || c == '>' || c == '\x60'

/-- Escaped in a query; with special schemes also the apostrophe. -/
def inQuerySet (special : Bool) (c : Char) : Bool :=
  isControl c || c == ' ' || c == '"' || c == '#' || c == '<' || c == '>' ||
    (special && c == '\x27')

def inPathSet (c : Char) : Bool :=
  inFragmentSet c || c == '#' || c == '?' || c == '\x7b' || c == '\x7d'

def inUserSet (c : Char) : Bool :=
  inPathSet c || c == '/' || c == ':' || c == ';' || c == '=' || c == '@' || c == '[' ||
    c == '\\' || c == ']' || c == '^' || c == '|'

def escapeByte (n : Nat) : List Char := ['%', hexDigitUpper (n / 16), hexDigitUpper (n % 16)]

/-- A character, escaped if it is in the set or outside ASCII. -/
def escapeChar (set : Char → Bool) (c : Char) : List Char :=
  if 0x80 ≤ c.toNat then (String.utf8EncodeChar c).flatMap fun b => escapeByte b.toNat
  else if set c then escapeByte c.toNat
  else [c]

def escape (set : Char → Bool) (cs : List Char) : String :=
  String.ofList (cs.flatMap (escapeChar set))

def unescape : List Char → List UInt8
  | [] => []
  | '%' :: a :: b :: rest =>
    match hexValue? a, hexValue? b with
    | some high, some low => UInt8.ofNat (high * 16 + low) :: unescape rest
    | _, _ => 37 :: unescape (a :: b :: rest)
  | c :: rest => String.utf8EncodeChar c ++ unescape rest

def textOfBytes? (bytes : List UInt8) : Option String := String.fromUTF8? ⟨bytes.toArray⟩

end EtcdKit.Url
