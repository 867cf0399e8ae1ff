import EtcdKit.Json.Value
import EtcdKit.Text.Digits
/-!
# Printer — the compact text of a JSON value

No blank is written.  In strings the quote, the backslash and the control characters below U+0020
are escaped, and everything else stands for itself.
-/
namespace EtcdKit.Json

open EtcdKit.Text (hexDigit)

def escapeChar (c : Char) : List Char :=
  match c with
  | '"' => ['\\', '"']
  | '\\' => ['\\', '\\']
  | '\n' => ['\\', 'n']
  | '\r' => ['\\', 'r']
  | '\t' => ['\\', 't']
  | '\x08' => ['\\', 'b']
  | '\x0c' => ['\\', 'f']
  | c =>
    if c.toNat < 0x20 then
      ['\\', 'u', '0', '0', hexDigit (c.toNat / 16), hexDigit (c.toNat % 16)]
    else [c]

def quote (s : String) : List Char := '"' :: (s.toList.flatMap escapeChar ++ ['"'])

mutual
def chars : Json → List Char
  | .null => ['n', 'u', 'l', 'l']
  | .bool true => ['t', 'r', 'u', 'e']
  | .bool false => ['f', 'a', 'l', 's', 'e']
  | .integer n => (toString n).toList
  | .decimal text => text.toList
  | .string s => quote s
  | .array items => '[' :: (itemChars items ++ [']'])
  | .object members => '\x7b' :: (memberChars members ++ ['\x7d'])
  | .unreadable => ['n', 'u', 'l', 'l']

def itemChars : List Json → List Char
  | [] => []
  | [item] => chars item
  | item :: items => chars item ++ ',' :: itemChars items

def memberChars : List (String × Json) → List Char
  | [] => []
  | [(name, item)] => quote name ++ ':' :: chars item
  | (name, item) :: members => quote name ++ ':' :: (chars item ++ ',' :: memberChars members)
end

def text (value : Json) : String := String.ofList value.chars

end EtcdKit.Json
