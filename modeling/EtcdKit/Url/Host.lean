import EtcdKit.Url.Basic
import EtcdKit.Url.Domain
import EtcdKit.Url.Percent
/-!
# Host — reading hosts

A host in brackets is an address of eight numbers.  Under the schemes of the web a host is a
registered name, unless its last label is a number: then all of it is an address of four bytes.
Under other schemes a host is any text without the characters that structure an address.
-/
namespace EtcdKit.Url

open EtcdKit.Text (hexValue? readNat)

/-- A number in an address of four bytes: base ten, eight behind a zero, sixteen behind `0x`. -/
def ipv4Number? (cs : List Char) : Option Nat :=
  let sized := fun (base : Nat) (digits : List Char) =>
    if digits.isEmpty then some 0 else readNat base digits
  match cs with
  | [] => none
  | '0' :: 'x' :: digits => sized 16 digits
  | '0' :: 'X' :: digits => sized 16 digits
  | '0' :: d :: digits => sized 8 (d :: digits)
  | digits => sized 10 digits

/-- The labels of a name, without one final empty label. -/
def addressLabels (name : List Char) : List (List Char) :=
  let labels := name.splitOn '.'
  if labels.getLast? = some [] then labels.dropLast else labels

def endsInNumber (name : List Char) : Bool :=
  match (addressLabels name).getLast? with
  | none => false
  | some last => (!last.isEmpty && last.all Char.isDigit) || (ipv4Number? last).isSome

/-- The address whose leading bytes stand in front of a number for the rest. -/
def ipv4Sum : List Nat → Nat → Option Nat
  | [], _ => none
  | [last], left => if last < Nat.pow 256 left then some last else none
  | byte :: rest, left =>
    if 255 < byte then none
    else (ipv4Sum rest (left - 1)).map fun n => byte * Nat.pow 256 (left - 1) + n

def ipv4Address? (name : List Char) : Option Nat := do
  let labels := addressLabels name
  if 4 < labels.length then none
  let numbers ← labels.mapM ipv4Number?
  ipv4Sum numbers 4

def dottedBytes? (cs : List Char) : Option (List Nat) := do
  let labels := cs.splitOn '.'
  if labels.length ≠ 4 then none
  let bytes ← labels.mapM fun label =>
    if label.all Char.isDigit && (label.length ≤ 1 || label.head? ≠ some '0') then readNat 10 label
    else none
  if bytes.all (· ≤ 255) then
    match bytes with
    | [a, b, c, d] => some [a * 256 + b, c * 256 + d]
    | _ => none
  else none

def ipv6Piece? (cs : List Char) : Option Nat :=
  if cs.length ≤ 4 then readNat 16 cs else none

/-- Numbers between colons; the last may be four bytes in dotted form. -/
def ipv6Pieces? : List (List Char) → Option (List Nat)
  | [] => some []
  | [last] => if last.contains '.' then dottedBytes? last else (ipv6Piece? last).map ([·])
  | piece :: rest => do
    let n ← ipv6Piece? piece
    let ns ← ipv6Pieces? rest
    return n :: ns

def ipv6Front? (pieces : List (List Char)) : Option (List Nat) := pieces.mapM ipv6Piece?

def splitDoubleColon : List Char → Option (List Char × List Char)
  | [] => none
  | ':' :: ':' :: rest => some ([], rest)
  | c :: rest => (splitDoubleColon rest).map fun (before, after) => (c :: before, after)

def colonParts (cs : List Char) : List (List Char) := if cs.isEmpty then [] else cs.splitOn ':'

/-- An address of eight numbers; two colons in a row stand for at least one zero. -/
def ipv6Address? (cs : List Char) : Option (List Nat) :=
  match splitDoubleColon cs with
  | none => do
    let pieces ← ipv6Pieces? (colonParts cs)
    if pieces.length = 8 then some pieces else none
  | some (before, after) => do
    let front ← ipv6Front? (colonParts before)
    let back ← ipv6Pieces? (colonParts after)
    let known := front.length + back.length
    if known ≤ 7 then some (front ++ List.replicate (8 - known) 0 ++ back) else none

def bracketHost? (cs : List Char) : Option Host :=
  match cs.reverse with
  | ']' :: inner => (ipv6Address? inner.reverse).map .ipv6
  | _ => none

def webHost? (cs : List Char) : Option Host :=
  match cs with
  | '[' :: inner => bracketHost? inner
  | _ => do
    let plain ← textOfBytes? (unescape cs)
    let name ← domainText? plain.toList
    if name = "" then none
    else if endsInNumber name.toList then (ipv4Address? name.toList).map .ipv4
    else some (.name name)

def isHostBreaker (c : Char) : Bool :=
  c == '\x00' || c == '\t' || c == '\n' || c == '\r' || " #/:<>?@[\\]^|".toList.contains c

def plainHost? (cs : List Char) : Option Host :=
  match cs with
  | '[' :: inner => bracketHost? inner
  | _ => if cs.any isHostBreaker then none else some (.name (escape isControl cs))

end EtcdKit.Url
