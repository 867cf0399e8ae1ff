import EtcdKit.Json.Value
import EtcdKit.Shape
import EtcdKit.Text.Digits
/-!
# Fields — the parts of a JSON value, by type

A record is an object that may hold other members too, or an array of the values of its fields in
order, with values missing at the end only.
-/
namespace EtcdKit.Json

def fields? (names : List String) : Json → Option (List (Option Json))
  | .object members => Shape.byName? names members
  | .array items => if items.length ≤ names.length then some (Shape.inOrder names items) else none
  | _ => none

def bool? : Json → Option Bool
  | .bool b => some b
  | _ => none

def natBelow? (bound : Nat) : Json → Option Nat
  | .integer n => if 0 ≤ n ∧ n < bound then some n.toNat else none
  | _ => none

def uint16? (value : Json) : Option UInt16 := (value.natBelow? UInt16.size).map UInt16.ofNat

def uint64? (value : Json) : Option UInt64 := (value.natBelow? UInt64.size).map UInt64.ofNat

def int64? : Json → Option Int64
  | .integer n =>
    if -(EtcdKit.Text.signedLimit : Int) ≤ n ∧ n < EtcdKit.Text.signedLimit then
      some (Int64.ofInt n)
    else none
  | _ => none

def list? {α : Type} (read : Json → Option α) : Json → Option (List α)
  | .array items => items.mapM read
  | _ => none

/-- The word of an enumeration: a string, or an object that gives the word nothing to carry. -/
def choice? : Json → Option String
  | .string s => some s
  | .object [(name, .null)] => some name
  | _ => none

end EtcdKit.Json
