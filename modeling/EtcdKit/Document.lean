import EtcdKit.Shape
import EtcdKit.Text.Digits
/-!
# Document — the tree that a configuration file holds

The three file formats differ in what a leaf says about its type: some leaves are typed by the
format, others are plain words that are read as the type that is asked for.  `Format` holds what
else differs: which other shapes may stand for a record or for a word of an enumeration.
-/
namespace EtcdKit

inductive WordStyle where
  | bare
  | literalBlock
  | quoted
  deriving DecidableEq, Repr

def octets (s : String) : List UInt8 := s.toList.flatMap String.utf8EncodeChar

/-- A leaf whose type is not fixed by its format.  Its tag is kept in bytes, which need not be
those of a text. -/
structure Word where
  text : String
  style : WordStyle := .bare
  tag : Option (List UInt8) := none
  deriving DecidableEq, Repr

/-- A document tree.  Records keep their entries in the order of the file. -/
inductive Document where
  | null
  | bool (value : Bool)
  | integer (value : Int)
  | text (value : String)
  | word (value : Word)
  /-- A leaf of a type that no setting has. -/
  | foreign
  | list (items : List Document)
  | record (entries : List (String × Document))
  deriving Inhabited

/-- The formats of configuration files, and of documents that other programs hand over. -/
inductive Format where
  | json
  | toml
  | yaml
  deriving DecidableEq, Repr

namespace Word

def isNullText (s : String) : Bool := s == "null" || s == "Null" || s == "NULL" || s == "~"

def integerTag : List UInt8 := octets "tag:yaml.org,2002:int"

def booleanTag : List UInt8 := octets "tag:yaml.org,2002:bool"

def nullTag : List UInt8 := octets "tag:yaml.org,2002:null"

/-- The word may be read as a type other than text: it is bare, or a block with the type's tag. -/
def isTyped (w : Word) (tag : List UInt8) : Bool :=
  match w.style with
  | .bare => true
  | .literalBlock => w.tag == some tag
  | .quoted => false

def bool? (w : Word) : Option Bool :=
  if !w.isTyped booleanTag then none
  else if w.text = "true" ∨ w.text = "True" ∨ w.text = "TRUE" then some true
  else if w.text = "false" ∨ w.text = "False" ∨ w.text = "FALSE" then some false
  else none

/-- A number in base ten; a zero in front of another digit makes it no number. -/
def decimal? (cs : List Char) : Option Nat :=
  match cs with
  | '0' :: _ :: _ => none
  | digits => EtcdKit.Text.readNat 10 digits

/-- The natural number of a text: base sixteen, eight or two behind `0x`, `0o`, `0b`, else ten. -/
def natural? (cs : List Char) : Option Nat :=
  let unsigned := match cs with
    | '+' :: rest => rest
    | rest => rest
  match unsigned with
  | '0' :: 'x' :: digits => EtcdKit.Text.readNat 16 digits
  | '0' :: 'o' :: digits => EtcdKit.Text.readNat 8 digits
  | '0' :: 'b' :: digits => EtcdKit.Text.readNat 2 digits
  | digits => decimal? digits

def nat? (w : Word) : Option Nat :=
  if w.isTyped integerTag then natural? w.text.toList else none

/-- A bare word that is empty or stands for nothing, whatever its tag. -/
def isBlankBare (w : Word) : Bool :=
  w.style == .bare && (w.text == "" || isNullText w.text)

/-- The word stands for a missing value; none if its tag promises nothing and it says something. -/
def isMissing? (w : Word) : Option Bool :=
  match w.style, w.tag with
  | .bare, none => some (w.text == "" || isNullText w.text)
  | .bare, some tag =>
    if tag = nullTag then if isNullText w.text then some true else none else some false
  | _, _ => some false

end Word

namespace Document

def bool? : Document → Option Bool
  | .bool b => some b
  | .word w => w.bool?
  | _ => none

def text? : Document → Option String
  | .text s => some s
  | .word w => some w.text
  | _ => none

def natBelow? (bound : Nat) : Document → Option Nat
  | .integer n => if 0 ≤ n ∧ n < bound then some n.toNat else none
  | .word w =>
    match w.nat? with
    | some n => if n < bound then some n else none
    | none => none
  | _ => none

def optionalText? : Document → Option (Option String)
  | .null => some none
  | .word w =>
    match w.isMissing? with
    | some true => some none
    | some false => some (some w.text)
    | none => none
  | .text s => some (some s)
  | _ => none

/-- The value stands for the payload of an enumeration word that has none. -/
def isEmptyPayload : Format → Document → Bool
  | .json, .null => true
  | .toml, .list [] => true
  | .toml, .record [] => true
  | _, _ => false

/-- The name behind the exclamation mark of a tag; a mark alone is its own name. -/
def tagName? (tag : List UInt8) : Option String :=
  match tag with
  | 33 :: name => String.fromUTF8? ⟨(if name.isEmpty then tag else name).toArray⟩
  | _ => none

/-- The word of an enumeration: a text, or a form of the format that names it without payload. -/
def choice? (format : Format) : Document → Option String
  | .text s => some s
  | .record [(name, payload)] => if payload.isEmptyPayload format then some name else none
  | .word w =>
    match w.tag.bind tagName? with
    | some name => if w.isBlankBare then some name else none
    | none => some w.text
  | _ => none

/-- The values of a record with the given fields, in the order of the fields.

Every entry must be a field, and no field may stand twice.  In some formats a list holds the values
in order, with fields missing at its end; a bare empty word is a record without entries. -/
def fields? (format : Format) (names : List String) : Document → Option (List (Option Document))
  | .record entries =>
    if entries.all (fun e => names.contains e.1) then Shape.byName? names entries else none
  | .list items =>
    match format with
    | .json =>
      if items.length ≤ names.length then some (Shape.inOrder names items) else none
    | .toml => some (Shape.inOrder names items)
    | .yaml => none
  | .word w => if w.style = .bare ∧ w.text = "" then some (names.map fun _ => none) else none
  | _ => none

/-- The items of a list; a bare empty word is an empty list. -/
def items? : Document → Option (List Document)
  | .list items => some items
  | .word w => if w.style = .bare ∧ w.text = "" then some [] else none
  | _ => none

end Document
end EtcdKit
