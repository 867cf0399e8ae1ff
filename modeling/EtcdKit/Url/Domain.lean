import EtcdKit.Text.Composition
import EtcdKit.Text.Direction
import EtcdKit.Text.Joining
import EtcdKit.Url.NameMapping
import EtcdKit.Url.Punycode
/-!
# Domain — registered names in their ASCII form

The characters of a name are brought into the form that is compared, letters are joined with their
marks, and every label with characters outside ASCII is written in Punycode behind a sign.  A label
does not start with a mark, holds the characters that join letters only where they are seen, and
does not mix directions.
-/
namespace EtcdKit.Url

open EtcdKit.Text (compose direction isDirected isMark joinersFit)

def isForbidden (c : Char) : Bool :=
  c.toNat ≤ 0x20 || c.toNat == 0x7F || "%#/:<>?@[\\]^|".toList.contains c

def isPlain (c : Char) : Bool := c.toNat < 0x80

def encodedSign : List Char := ['x', 'n', '-', '-']

/-- A text in the form that is compared: none if it holds what no name holds. -/
def comparable? (cs : List Char) : Option (List Char) :=
  (cs.mapM nameChar?).map fun images => compose images.flatten

/-- A label is at most this long, in characters. -/
def labelLimit : Nat := 1000

/-- A label in Punycode is at most this long, without the sign. -/
def codeLimit : Nat := 2000

def isSoundLabel (label : List Char) : Bool :=
  label.length ≤ labelLimit && !label.head?.any isMark && joinersFit [] label

structure Label where
  shown : List Char
  written : List Char

/-- The label that is given in Punycode: it has to be the written form of what it is read as. -/
def Label.ofCode? (label : List Char) : Option Label := do
  let code := label.drop encodedSign.length
  if codeLimit < code.length then none
  let shown ← Punycode.decode code
  if !shown.all isPlain && shown.all (fun c => nameChar? c == some [c]) && compose shown == shown &&
      !encodedSign.isPrefixOf shown && isSoundLabel shown && Punycode.encode shown == code then
    some ⟨shown, label⟩
  else none

def Label.of? (label : List Char) : Option Label :=
  if encodedSign.isPrefixOf label then Label.ofCode? label
  else if label.all isPlain then some ⟨label, label⟩
  else if isSoundLabel label then some ⟨label, encodedSign ++ Punycode.encode label⟩
  else none

/-- A name with characters that are written from right to left has sound directions in all its
labels. -/
def directionsFit (labels : List Label) : Bool :=
  let backward := labels.any fun label =>
    label.shown.any fun c => !isPlain c && (direction c).isBackward
  !backward || labels.all fun label => isDirected label.shown

def domainText? (name : List Char) : Option String := do
  let labels ← ((← comparable? name).splitOn '.').mapM Label.of?
  let text := ['.'].intercalate (labels.map Label.written)
  if text.any isForbidden || !directionsFit labels then none else some (String.ofList text)

end EtcdKit.Url
