import EtcdKit.Error
/-!
# FileTree — the files below the working directory

Paths are resolved from the working directory, which holds nothing but the listed files.  Nothing
that a path reaches outside of it exists.
-/
namespace EtcdKit

/-- What a file holds; a directory holds files that are listed under their own paths. -/
inductive FileContent where
  | text (content : String)
  | bytes (content : List UInt8)
  | directory
  deriving DecidableEq, Repr

structure FileTree where
  files : List (List String × FileContent) := []
  deriving Repr

def pathParts (path : String) : List String := (path.toList.splitOn '/').map String.ofList

def namingParts (path : String) : List String :=
  (pathParts path).filter fun part => part != "" && part != "."

def fileName? (path : String) : Option String :=
  match (namingParts path).getLast? with
  | none => none
  | some ".." => none
  | some name => some name

/-- What follows the last dot of a name; a dot that only stands in front does not count. -/
def extensionOf? (name : String) : Option String :=
  let after := (name.toList.reverse.takeWhile (· != '.')).reverse
  if name.toList.length ≤ after.length + 1 then none else some (String.ofList after)

def pathExtension? (path : String) : Option String := (fileName? path).bind extensionOf?

namespace FileTree

def ofList (files : List (String × FileContent)) : FileTree :=
  ⟨files.map fun f => (namingParts f.1, f.2)⟩

/-- What stands at a place: the working directory, a listed file, or a directory above one. -/
def at? (t : FileTree) (place : List String) : Option FileContent :=
  if place.isEmpty then some .directory
  else
    match t.files.find? (fun f => f.1 == place) with
    | some f => some f.2
    | none =>
      if t.files.any (fun f => place.isPrefixOf f.1) then some .directory else none

inductive Fault where
  | missing
  | notDirectory
  | nameTooLong

/-- The bytes that a name has at most. -/
def nameLimit : Nat := 255

def pathLimit : Nat := 4095

def isTooLong (name : String) : Bool := nameLimit < name.utf8ByteSize

/-- Follows the parts of a path from a place; there is none left after leaving the working
directory. -/
def follow (t : FileTree) : Option (List String) → List String → Except Fault (Option (List String))
  | place, [] => .ok place
  | none, part :: parts =>
    if part = "" ∨ part = "." ∨ part = ".." then follow t none parts
    else .error (if isTooLong part then .nameTooLong else .missing)
  | some place, part :: parts =>
    match t.at? place with
    | none => .error .missing
    | some .directory =>
      if part = "" ∨ part = "." then follow t (some place) parts
      else if part = ".." then
        follow t (if place.isEmpty then none else some place.dropLast) parts
      else if isTooLong part then .error .nameTooLong
      else follow t (some (place ++ [part])) parts
    | some _ => .error .notDirectory

def startOf (path : String) : Option (List String) :=
  if path.toList.head? = some '/' then none else some []

def readText (t : FileTree) (path : String) : Except Error String :=
  if path.toList.contains '\x00' then .error (.file .zeroInName)
  else if pathLimit < path.utf8ByteSize then .error (.file .nameTooLong)
  else
    match t.follow (startOf path) (pathParts path) with
    | .error .missing => .error (.profileNotFound path)
    | .error .notDirectory => .error (.file .notDirectory)
    | .error .nameTooLong => .error (.file .nameTooLong)
    | .ok none => .error (.file .isDirectory)
    | .ok (some place) =>
      match t.at? place with
      | none => .error (.profileNotFound path)
      | some .directory => .error (.file .isDirectory)
      | some (.text content) => .ok content
      | some (.bytes content) =>
        match String.fromUTF8? ⟨content.toArray⟩ with
        | some text => .ok text
        | none => .error (.file .notText)

end FileTree
end EtcdKit
