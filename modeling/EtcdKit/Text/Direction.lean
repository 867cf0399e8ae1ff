import EtcdKit.Text.Mark
/-!
# Direction — the way in which characters are written

The classes of the bidirectional algorithm of Unicode, for the characters that a name may hold.  A
character that no table names is a letter that is written from left to right.
-/
namespace EtcdKit.Text

inductive Direction where
  | left
  | right
  | arabic
  | europeanDigit
  | arabicDigit
  | separator
  | terminator
  | common
  | mark
  | boundary
  | neutral
  deriving DecidableEq, Repr

def rightChars : CodeSet := CodeSet.ofText
  "5BE 5C0 5C3 5C6 5D0-5F4 7C0-7EA 7F4-7F5 7FA 7FE-815 81A 824 828 830-858 85E 10800-1091B
   10920-10A00 10A10-10A35 10A40-10AE4 10AEB-10B35 10B40-10CFF 10D4A-10D4F 10D6F-10D8F
   10E80-10EA9 10EAD-10EB1 10F00-10F27 10F70-10F81 10F86-10FF6 1E800-1E8CF 1E922-1E943
   1E94B-1E95F"

def arabicChars : CodeSet := CodeSet.ofText
  "608 60B 60D 61B-64A 66D-66F 671-6D5 6E5-6E6 6EE-6EF 6FA-710 712-72F 74D-7A5 7B1 860-88F
   8A0-8C9 FBB2-FBC2 FE73 10D00-10D23 10EC2-10EC7 10F30-10F45 10F51-10F59 1EC71-1ED3D"

def europeanDigitChars : CodeSet := CodeSet.ofText
  "30-39 6F0-6F9 102E1-102FB"

def separatorChars : CodeSet := CodeSet.ofText
  "2B 2D 2212"

/-- Signs of currency and the like, which stand beside digits. -/
def terminatorChars : CodeSet := CodeSet.ofText
  "23-25 A2-A5 B0-B1 58F 609-60A 66A 9F2-9F3 9FB AF1 BF9 E3F 17DB 2030-2032 20A0-20C1 212E 2213
   A838-A839 11FDD-11FE0 1E2FF"

def arabicDigitChars : CodeSet := CodeSet.ofText
  "660-669 66B-66C 10D30-10D49 10E60-10E7E"

def commonChars : CodeSet := CodeSet.ofText
  "2C 2E-2F 3A 60C 2044"

def boundaryChars : CodeSet := CodeSet.ofText
  "0-8 E-1B 7F 200C-200D"

def neutralChars : CodeSet := CodeSet.ofText
  "21-22 26-2A 3B-40 5B-60 7B-7E A1 A6-AE B6-D7 F7 2B9-2BA 2C2-2CF 2D2-2ED 2EF-2FF 375 3F6
   58A-58E 606-607 60E-60F 6DE 6E9 7F6-7F9 BF3-BF8 BFA C78-C7E F3A-F3D 1390-1399 1400 169B-169C
   17F0-180A 1940-1945 19DE-19FF 2010-2027 2035-2043 2045-205E 2104-2129 213A-214D 218A-2211
   2214-2335 237B-2394 2396-26AB 26AD-27FF 2900-2BFF 2CE5-2CEA 2CF9-2CFF 2E00-3004 3008-3020
   3030 3037 303D-303F 30A0 30FB 31C0-31E5 4DC0-4DFF A490-A4C6 A60D-A60F A673 A67E-A67F
   A700-A721 A788 A828-A82B A874-A877 AB6A-AB6B FBC3-FDFF FE45-FE46 10101 10140-1018C
   10190-101A0 1091F 10B39-10B3F 10D6E 10ED0-10ED8 11052-11065 11660-1166C 11FD5-11FDC
   11FE1-11FF1 16FE2 1CC00-1CEF0 1D1E9-1D241 1D245 1D300-1D356 1EEF0-1F12F 1F16D-1F16F 1F1AD
   1F260-1FBFA"

/-- Marks that are written like letters from left to right. -/
def leftMarks : CodeSet := CodeSet.ofText
  "CBF CC6 11A07-11A08 11C3F"

def direction (c : Char) : Direction :=
  if rightChars.contains c then .right
  else if arabicChars.contains c then .arabic
  else if europeanDigitChars.contains c then .europeanDigit
  else if arabicDigitChars.contains c then .arabicDigit
  else if separatorChars.contains c then .separator
  else if terminatorChars.contains c then .terminator
  else if commonChars.contains c then .common
  else if boundaryChars.contains c then .boundary
  else if neutralChars.contains c then .neutral
  else if isCloseMark c && !leftMarks.contains c then .mark
  else .left

/-- Text with such a character is laid out in both directions. -/
def Direction.isBackward (d : Direction) : Bool := d == .right || d == .arabic || d == .arabicDigit

def Direction.isInner (d : Direction) : Bool :=
  d == .europeanDigit || d == .separator || d == .terminator || d == .common || d == .neutral ||
    d == .boundary || d == .mark

def trimMarks (ds : List Direction) : List Direction :=
  (ds.reverse.dropWhile (· == .mark)).reverse

def isForwardTail (ds : List Direction) : Bool :=
  match (trimMarks ds).reverse with
  | [] => true
  | last :: inner =>
    (last == .left || last == .europeanDigit) && inner.all fun d => d == .left || d.isInner

/-- A label that is read from right to left, behind its first character: the digits in it are all
of one kind. -/
def isBackwardTail (ds : List Direction) : Bool :=
  match (trimMarks ds).reverse with
  | [] => true
  | last :: inner =>
    (last.isBackward || last == .europeanDigit) &&
      inner.all (fun d => d.isBackward || d.isInner) &&
      !((last :: inner).contains .europeanDigit && (last :: inner).contains .arabicDigit)

/-- The rule for labels of a name that is laid out in both directions. -/
def isDirected (label : List Char) : Bool :=
  match label.map direction with
  | [] => true
  | .left :: rest => isForwardTail rest
  | .right :: rest => isBackwardTail rest
  | .arabic :: rest => isBackwardTail rest
  | _ => false

end EtcdKit.Text
