import EtcdKit.Document
import EtcdKit.Toml.Quoted
/-!
# Writer — documents of sections as TOML text

The text holds one section after the other.  A section gives its leaves first, one on each line,
and then its lists of records, every record under a header of its own.
-/
namespace EtcdKit.Toml

/-- Numbers above this one cannot be written. -/
def maxInteger : Int := EtcdKit.Text.signedLimit - 1

/-- A leaf, or a list without items; none for what cannot stand behind a key. -/
def leaf? : Document → Option (List Char)
  | .bool true => some "true".toList
  | .bool false => some "false".toList
  | .integer n => if n ≤ maxInteger then some (toString n).toList else none
  | .text s => some (quote s)
  | .list [] => some ['[', ']']
  | _ => none

def line? (key : String) (value : Document) : Option (List Char) :=
  (leaf? value).map fun text => key.toList ++ " = ".toList ++ text ++ ['\n']

def lines? : List (String × Document) → Option (List Char)
  | [] => some []
  | (_, .list (_ :: _)) :: entries => lines? entries
  | (key, value) :: entries => do
    let line ← line? key value
    let rest ← lines? entries
    return line ++ rest

/-- The records of a list, each behind an empty line and a header. -/
def records? (header : List Char) : List Document → Option (List Char)
  | [] => some []
  | .record entries :: items => do
    let body ← lines? entries
    let rest ← records? header items
    return ['\n'] ++ header ++ body ++ rest
  | _ => none

def tables? (section_ : String) : List (String × Document) → Option (List Char)
  | [] => some []
  | (key, .list (item :: items)) :: entries => do
    let header := "[[".toList ++ section_.toList ++ ['.'] ++ key.toList ++ "]]\n".toList
    let body ← records? header (item :: items)
    let rest ← tables? section_ entries
    return body ++ rest
  | _ :: entries => tables? section_ entries

def section? (name : String) : Document → Option (List Char)
  | .record entries => do
    let body ← lines? entries
    let tables ← tables? name entries
    return ['['] ++ name.toList ++ "]\n".toList ++ body ++ tables
  | _ => none

def sections? : List (String × Document) → Option (List Char)
  | [] => some []
  | [(name, value)] => section? name value
  | (name, value) :: entries => do
    let text ← section? name value
    let rest ← sections? entries
    return text ++ ['\n'] ++ rest

/-- The text of a list of sections; none if a number is too large. -/
def write? (sections : List (String × Document)) : Option String :=
  (sections? sections).map String.ofList

end EtcdKit.Toml
