import EtcdKit.Calendar
import EtcdKit.Text.Decimal
/-!
# Moment — dates and times of day in TOML text

A moment is a date, a time of day, or both; with a date, the time may have an offset.  No setting is
one, so only the text behind it is of interest.
-/
namespace EtcdKit.Toml

open EtcdKit.Text (natOfDigits)

/-- A number of that many digits between two bounds, and the text after it. -/
def fixedNumber? (width low high : Nat) (cs : List Char) : Option (Nat × List Char) :=
  let digits := cs.take width
  let n := natOfDigits digits
  if digits.length = width ∧ digits.all Char.isDigit ∧ low ≤ n ∧ n ≤ high then
    some (n, cs.drop width)
  else none

def behind? (mark : Char) : List Char → Option (List Char)
  | [] => none
  | c :: cs => if c = mark then some cs else none

def behindDate? (cs : List Char) : Option (List Char) := do
  let (year, cs) ← fixedNumber? 4 0 9999 cs
  let (month, cs) ← fixedNumber? 2 1 12 (← behind? '-' cs)
  let (_, cs) ← fixedNumber? 2 0 (Calendar.daysInMonth year month) (← behind? '-' cs)
  return cs

def behindFraction (cs : List Char) : List Char :=
  match cs with
  | '.' :: c :: rest => if c.isDigit then rest.dropWhile Char.isDigit else cs
  | cs => cs

def behindMinutes? (cs : List Char) : Option (List Char) := do
  let (_, cs) ← fixedNumber? 2 0 23 cs
  let (_, cs) ← fixedNumber? 2 0 59 (← behind? ':' cs)
  return cs

/-- The text after a time of day, in which a leap second may be counted. -/
def behindClock? (cs : List Char) : Option (List Char) := do
  let cs ← behindMinutes? cs
  let (_, cs) ← fixedNumber? 2 0 60 (← behind? ':' cs)
  return behindFraction cs

def behindOffset (cs : List Char) : List Char :=
  match cs with
  | [] => []
  | c :: rest =>
    if c = 'Z' ∨ c = 'z' then rest
    else if c = '+' ∨ c = '-' then (behindMinutes? rest).getD cs
    else cs

def behindDateClock (cs : List Char) : List Char :=
  match cs with
  | [] => []
  | c :: rest =>
    if c = 'T' ∨ c = 't' ∨ c = ' ' then ((behindClock? rest).map behindOffset).getD cs else cs

def behindMoment? (cs : List Char) : Option (List Char) :=
  match behindDate? cs with
  | some rest => some (behindDateClock rest)
  | none => behindClock? cs

end EtcdKit.Toml
