/-!
# Basic — web addresses and their written form

An address is kept in its parts, each in the spelling that is written: characters that need it are
already percent-encoded, names are in lower case, and a port that the scheme implies is left out.
-/
namespace EtcdKit

inductive Url.Host where
  | name (text : String)
  | ipv4 (address : Nat)
  /-- Eight numbers of sixteen bits. -/
  | ipv6 (pieces : List Nat)
  deriving DecidableEq, Repr

structure Url.Authority where
  username : String := ""
  password : String := ""
  host : Url.Host
  port : Option Nat := none
  deriving DecidableEq, Repr

/-- A path: a list of segments, or one text that does not start at a root. -/
inductive Url.Path where
  | rootless (text : String)
  | segments (parts : List String)
  deriving DecidableEq, Repr

structure Url where
  scheme : String
  authority : Option Url.Authority
  path : Url.Path
  query : Option String := none
  fragment : Option String := none
  deriving DecidableEq, Repr

namespace Url

def hexText (n : Nat) : String := String.ofList (Nat.toDigits 16 n)

def zeroRun (pieces : List Nat) : Nat := (pieces.takeWhile (· == 0)).length

/-- Start and length of the first longest run of zeros, going on from a best one so far. -/
def longestZeroRun (start : Nat) (best : Nat × Nat) : List Nat → Nat × Nat
  | [] => best
  | piece :: pieces =>
    let run := zeroRun (piece :: pieces)
    longestZeroRun (start + 1) (if best.2 < run then (start, run) else best) pieces

/-- The written form of eight numbers: the first longest run of two or more zeros becomes two
colons. -/
def ipv6Text (pieces : List Nat) : String :=
  let (start, run) := longestZeroRun 0 (0, 1) pieces
  let join := fun part : List Nat => String.intercalate ":" (part.map hexText)
  if 2 ≤ run then join (pieces.take start) ++ "::" ++ join (pieces.drop (start + run))
  else join pieces

def Host.text : Host → String
  | .name text => text
  | .ipv4 address =>
    String.intercalate "."
      [toString ((address >>> 24) % 256), toString ((address >>> 16) % 256),
        toString ((address >>> 8) % 256), toString (address % 256)]
  | .ipv6 pieces => "[" ++ ipv6Text pieces ++ "]"

def Authority.credentials (a : Authority) : String :=
  if a.username = "" ∧ a.password = "" then ""
  else a.username ++ (if a.password = "" then "" else ":" ++ a.password) ++ "@"

def Authority.text (a : Authority) : String :=
  "//" ++ a.credentials ++ a.host.text ++
    (match a.port with
     | none => ""
     | some port => ":" ++ toString port)

def Path.text : Path → String
  | .rootless text => text
  | .segments parts => String.join (parts.map ("/" ++ ·))

/-- What keeps a path that starts with two slashes from being taken for an authority. -/
def guardText (u : Url) : String :=
  match u.authority, u.path with
  | none, .segments ("" :: _ :: _) => "/."
  | _, _ => ""

def target (u : Url) : String :=
  u.path.text ++ (match u.query with | none => "" | some q => "?" ++ q)

def text (u : Url) : String :=
  u.scheme ++ ":" ++ (match u.authority with | none => "" | some a => a.text) ++ u.guardText ++
    u.target ++ (match u.fragment with | none => "" | some f => "#" ++ f)

/-- Relative addresses can be resolved against it: its path starts at a root. -/
def canBeBase (u : Url) : Bool :=
  match u.path with
  | .rootless _ => false
  | .segments _ => true

def isDriveName (segment : String) : Bool :=
  match segment.toList with
  | [letter, ':'] => letter.isAlpha
  | _ => false

def isDriveAlone (scheme : String) (parts : List String) : Bool :=
  match parts with
  | [part] => isDriveName part && scheme == "file"
  | _ => false

/-- The address of a neighbour: the last segment of the path is replaced, and query and fragment
are dropped.  What stands beside a drive alone stands on it.  A rootless address has no
neighbours. -/
def neighbour? (u : Url) (name : String) : Option Url :=
  match u.path with
  | .rootless _ => none
  | .segments parts =>
    let shared := if isDriveAlone u.scheme parts then parts else parts.dropLast
    some { u with path := .segments (shared ++ [name]), query := none, fragment := none }

end Url
end EtcdKit
