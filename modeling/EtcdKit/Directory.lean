/-!
# Directory — how a configured directory becomes the front of a path

A directory is written with or without a final separator.  `strip` takes exactly one final
separator away, except from the root itself, and `divider` says what stands between a directory
and a file in it, so that `executable` never doubles the separator after a stripped directory.
-/
namespace EtcdKit.Directory

def root : String := "/"

def dropSeparator (dir : String) : String :=
  match dir.toList.reverse with
  | '/' :: front => String.ofList front.reverse
  | _ => dir

/-- A directory without one final separator; the root stays as it is. -/
def strip (dir : String) : String :=
  if dir = root then root else dropSeparator dir

/-- A directory that may be missing: a missing one is the empty text. -/
def strip? : Option String → String
  | none => ""
  | some dir => strip dir

/-- What stands between a directory and a file in it: nothing after the root. -/
def divider (dir : String) : String :=
  if dir = root then "" else "/"

def divider? : Option String → String
  | none => ""
  | some dir => divider dir

def executable (dir program : String) : String :=
  strip dir ++ divider (strip dir) ++ program

def isRoot (dir : String) : Bool := strip dir == root

end EtcdKit.Directory
