/-!
# Basic — scripts for a shell, with the files that they write

A script is a sequence of plain text and here-documents.  `Script.text` is what a reader copies into
a shell, and `Script.documents` lists the files that the script writes on its way.
-/
namespace EtcdKit

structure HereDocument where
  path : String
  body : String
  deriving DecidableEq, Repr

/-- The command that writes the file; the body ends with a line end. -/
def HereDocument.text (d : HereDocument) : String :=
  "cat > " ++ d.path ++ " <<EOF\n" ++ d.body ++ "EOF\n"

inductive ScriptPart where
  | plain (content : String)
  | document (content : HereDocument)
  deriving DecidableEq, Repr

def ScriptPart.text : ScriptPart → String
  | .plain content => content
  | .document content => content.text

def ScriptPart.document? : ScriptPart → Option HereDocument
  | .plain _ => none
  | .document content => some content

abbrev Script := List ScriptPart

namespace Script

def ofText (content : String) : Script := [.plain content]

def text (s : Script) : String := String.join (s.map ScriptPart.text)

def documents (s : Script) : List HereDocument := s.filterMap ScriptPart.document?

theorem text_ofText (content : String) : text (ofText content) = content := by
  simp [text, ofText, ScriptPart.text, String.join]

theorem text_append (s t : Script) : text (s ++ t) = text s ++ text t := by
  rw [text, List.map_append, String.join_append]
  rfl

theorem text_cons (part : ScriptPart) (s : Script) : text (part :: s) = part.text ++ text s :=
  String.join_cons

theorem documents_append (s t : Script) : documents (s ++ t) = documents s ++ documents t :=
  List.filterMap_append

/-- What stands between two segments of a command that goes over several lines. -/
def continuation : String := " \\\n    "

def command (segments : List String) : String := String.intercalate continuation segments

def lines (ls : List String) : String := String.join (ls.map (· ++ "\n"))

def value (name : String) : String := "$\x7b" ++ name ++ "\x7d"

end Script
end EtcdKit
