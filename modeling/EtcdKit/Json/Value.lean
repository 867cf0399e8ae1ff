/-!
# Value — JSON values as they stand in a text

An object keeps its members in the order of the text, repeated names included.  A number is an
integer if it is written without fraction and exponent and fits 64 bits, signed or unsigned; every
other number keeps its text.
-/
namespace EtcdKit

inductive Json where
  | null
  | bool (value : Bool)
  | integer (value : Int)
  /-- A number with a fraction or an exponent, a negative zero, or more than 64 bits. -/
  | decimal (text : String)
  | string (value : String)
  | array (items : List Json)
  | object (members : List (String × Json))
  /-- A value of correct syntax that has no meaning: a string with half of a surrogate pair, an
  object with such a name, or a number beyond the range of double precision. -/
  | unreadable
  deriving Inhabited

namespace Json

def string? : Json → Option String
  | .string s => some s
  | _ => none

def lastMember? (name : String) : Json → Option Json
  | .object members => (members.reverse.find? (fun m => m.1 == name)).map Prod.snd
  | _ => none

mutual
/-- Every part of the value has a meaning, and arrays and objects nest at most that deep. -/
def meaningful : Nat → Json → Bool
  | _, .unreadable => false
  | 0, .array _ => false
  | 0, .object _ => false
  | depth + 1, .array items => meaningfulItems depth items
  | depth + 1, .object members => meaningfulMembers depth members
  | _, _ => true

def meaningfulItems : Nat → List Json → Bool
  | _, [] => true
  | depth, item :: items => meaningful depth item && meaningfulItems depth items

def meaningfulMembers : Nat → List (String × Json) → Bool
  | _, [] => true
  | depth, (_, item) :: members => meaningful depth item && meaningfulMembers depth members
end

/-- A member list in which each name stands once, with the value of its last occurrence. -/
def keepLast : List (String × Json) → List (String × Json)
  | [] => []
  | (name, value) :: members =>
    if members.any (fun m => m.1 == name) then keepLast members
    else (name, value) :: keepLast members

mutual
/-- The value in which every object holds each name once, with its last value. -/
def withoutRepeats : Json → Json
  | .array items => .array (itemsWithoutRepeats items)
  | .object members => .object (keepLast (membersWithoutRepeats members))
  | other => other

def itemsWithoutRepeats : List Json → List Json
  | [] => []
  | item :: items => withoutRepeats item :: itemsWithoutRepeats items

def membersWithoutRepeats : List (String × Json) → List (String × Json)
  | [] => []
  | (name, item) :: members => (name, withoutRepeats item) :: membersWithoutRepeats members
end

end Json
end EtcdKit
