import EtcdKit.Yaml.Token
/-!
# Node — documents from the tokens of a YAML file

A text holds one document or none.  Anchors are numbered as they are met, and an alias names a
number: it stands for the last node in the document whose anchor has it.  An alias within its own
anchor has no finite meaning and is refused, as are keys that are not words.
-/
namespace EtcdKit.Yaml

/-- A node whose aliases have not been followed. -/
inductive Tree where
  | word (value : Word)
  | alias (number : Nat)
  | list (items : List Tree)
  | record (entries : List (Tree × Tree))
  deriving Inhabited

def emptyWord (tag : Option (List UInt8)) : Tree := .word { text := "", tag }

def keyText? : Document → Option String
  | .word w => some w.text
  | _ => none

mutual
def Tree.toDocument? (known : Nat → Option Document) : Tree → Option Document
  | .word value => some (.word value)
  | .alias number => known number
  | .list items => (itemsToDocuments? known items).map .list
  | .record entries => (entriesToDocuments? known entries).map .record

def itemsToDocuments? (known : Nat → Option Document) : List Tree → Option (List Document)
  | [] => some []
  | item :: items =>
    match item.toDocument? known, itemsToDocuments? known items with
    | some d, some ds => some (d :: ds)
    | _, _ => none

def entriesToDocuments? (known : Nat → Option Document) :
    List (Tree × Tree) → Option (List (String × Document))
  | [] => some []
  | (key, value) :: entries =>
    match (key.toDocument? known).bind keyText?, value.toDocument? known,
        entriesToDocuments? known entries with
    | some name, some d, some ds => some ((name, d) :: ds)
    | _, _, _ => none
end

structure Anchors where
  names : List (String × Nat) := []
  /-- The numbers of the nodes with an anchor, the last node first. -/
  numbers : List Nat := []
  /-- The nodes that have been read, with their places among those with an anchor. -/
  trees : List (Nat × Tree) := []

/-- Notes the anchor at the beginning of a node.  Its number is the number of names that were known
before, so that a name given twice shares its second number with the next new name. -/
def Anchors.begin (name : String) (a : Anchors) : Anchors :=
  let number := a.names.length
  { a with
    names := (name, number) :: a.names.filter (fun known => known.1 != name)
    numbers := number :: a.numbers }

def Anchors.finish (place : Nat) (t : Tree) (a : Anchors) : Anchors :=
  { a with trees := (place, t) :: a.trees }

def Anchors.owners (a : Anchors) : List (Nat × Tree) :=
  (a.numbers.zip (List.range a.numbers.length).reverse).filterMap fun (number, place) =>
    (a.trees.lookup place).map fun t => (number, t)

/-- What the numbers stand for, if aliases are followed that many times. -/
def meanings (owners : List (Nat × Tree)) : Nat → List (Nat × Option Document)
  | 0 => []
  | steps + 1 =>
    let before := meanings owners steps
    owners.map fun (number, t) => (number, t.toDocument? fun n => (before.lookup n).join)

def Anchors.document? (a : Anchors) (t : Tree) : Option Document :=
  let known := meanings a.owners a.numbers.length
  t.toDocument? fun n => (known.lookup n).join

abbrev Handles := List (String × List UInt8)

def defaultHandles : Handles := [("!", octets "!"), ("!!", octets "tag:yaml.org,2002:")]

def fullTag? (handles : Handles) (handle : String) (suffix : List UInt8) : Option (List UInt8) :=
  if handle = "" then some suffix else (handles.lookup handle).map (· ++ suffix)

structure Properties where
  anchor : Option String := none
  tag : Option (List UInt8) := none

/-- The properties in front of a node, each at most once and in either order. -/
def properties? (handles : Handles) : List Token → Option (Properties × List Token)
  | .anchor name :: .tag handle suffix :: rest =>
    (fullTag? handles handle suffix).map fun tag => (⟨some name, some tag⟩, rest)
  | .tag handle suffix :: .anchor name :: rest =>
    (fullTag? handles handle suffix).map fun tag => (⟨some name, some tag⟩, rest)
  | .anchor name :: rest => some (⟨some name, none⟩, rest)
  | .tag handle suffix :: rest =>
    (fullTag? handles handle suffix).map fun tag => (⟨none, some tag⟩, rest)
  | rest => some ({}, rest)

/-- What has been read: something, what the anchors name after it, and the tokens left. -/
abbrev Read (α : Type) := Option (α × Anchors × List Token)

def endsItem : List Token → Bool
  | .blockEntry :: _ => true
  | .blockEnd :: _ => true
  | _ => false

def endsLooseItem : List Token → Bool
  | .blockEntry :: _ => true
  | .key :: _ => true
  | .value :: _ => true
  | .blockEnd :: _ => true
  | _ => false

def endsBlockPart : List Token → Bool
  | .key :: _ => true
  | .value :: _ => true
  | .blockEnd :: _ => true
  | _ => false

def endsFlowPart : List Token → Bool
  | .value :: _ => true
  | .flowEntry :: _ => true
  | .flowMappingEnd :: _ => true
  | _ => false

mutual
/-- A node.  Block collections are allowed where `block` holds, and where `loose` holds the items
of a sequence may stand at the indentation of the keys around it. -/
def node (handles : Handles) : Nat → Bool → Bool → Anchors → List Token → Read Tree
  | 0, _, _, _, _ => none
  | fuel + 1, block, loose, anchors, tokens =>
    match tokens with
    | .alias name :: rest =>
      (anchors.names.lookup name).map fun number => (.alias number, anchors, rest)
    | _ =>
      match properties? handles tokens with
      | none => none
      | some (p, rest) =>
        let opened := match p.anchor with
          | none => anchors
          | some name => anchors.begin name
        let content : Read Tree :=
          match rest with
          | .scalar text style :: rest =>
            some (.word { text, style, tag := p.tag }, opened, rest)
          | .flowSequenceStart :: rest =>
            (flowItems handles fuel true opened rest).map fun (items, a, r) => (.list items, a, r)
          | .flowMappingStart :: rest =>
            (flowEntries handles fuel true opened rest).map fun (es, a, r) => (.record es, a, r)
          | .blockEntry :: _ =>
            if loose then
              (looseItems handles fuel opened rest).map fun (items, a, r) => (.list items, a, r)
            else if p.anchor.isSome || p.tag.isSome then some (emptyWord p.tag, opened, rest)
            else none
          | .blockSequenceStart :: inner =>
            if block then
              (blockItems handles fuel opened inner).map fun (items, a, r) => (.list items, a, r)
            else none
          | .blockMappingStart :: inner =>
            if block then
              (blockEntries handles fuel opened inner).map fun (es, a, r) => (.record es, a, r)
            else none
          | _ =>
            if p.anchor.isSome || p.tag.isSome then some (emptyWord p.tag, opened, rest) else none
        content.map fun (t, a, r) =>
          (t, if p.anchor.isSome then a.finish anchors.numbers.length t else a, r)

def blockItems (handles : Handles) : Nat → Anchors → List Token → Read (List Tree)
  | 0, _, _ => none
  | fuel + 1, anchors, tokens =>
    match tokens with
    | .blockEnd :: rest => some ([], anchors, rest)
    | .blockEntry :: rest =>
      let item := if endsItem rest then some (emptyWord none, anchors, rest)
        else node handles fuel true false anchors rest
      match item with
      | none => none
      | some (item, anchors, rest) =>
        (blockItems handles fuel anchors rest).map fun (items, a, r) => (item :: items, a, r)
    | _ => none

/-- The items of a sequence at the indentation of the keys around it. -/
def looseItems (handles : Handles) : Nat → Anchors → List Token → Read (List Tree)
  | 0, _, _ => none
  | fuel + 1, anchors, tokens =>
    match tokens with
    | .blockEntry :: rest =>
      let item := if endsLooseItem rest then some (emptyWord none, anchors, rest)
        else node handles fuel true false anchors rest
      match item with
      | none => none
      | some (item, anchors, rest) =>
        (looseItems handles fuel anchors rest).map fun (items, a, r) => (item :: items, a, r)
    | _ => some ([], anchors, tokens)

def blockEntries (handles : Handles) :
    Nat → Anchors → List Token → Read (List (Tree × Tree))
  | 0, _, _ => none
  | fuel + 1, anchors, tokens =>
    let key : Read Tree :=
      match tokens with
      | .key :: rest =>
        if endsBlockPart rest then some (emptyWord none, anchors, rest)
        else node handles fuel true true anchors rest
      | _ => none
    match tokens with
    | .blockEnd :: rest => some ([], anchors, rest)
    | _ =>
      match key with
      | none => none
      | some (key, anchors, rest) =>
        let value : Read Tree :=
          match rest with
          | .value :: rest =>
            if endsBlockPart rest then some (emptyWord none, anchors, rest)
            else node handles fuel true true anchors rest
          | _ => some (emptyWord none, anchors, rest)
        match value with
        | some (value, anchors, rest) =>
          (blockEntries handles fuel anchors rest).map fun (es, a, r) => ((key, value) :: es, a, r)
        | none => none

/-- The items within brackets, up to the closing one; a comma stands before each but the first. -/
def flowItems (handles : Handles) : Nat → Bool → Anchors → List Token → Read (List Tree)
  | 0, _, _, _ => none
  | fuel + 1, first, anchors, tokens =>
    match tokens with
    | .flowSequenceEnd :: rest => some ([], anchors, rest)
    | _ =>
      let rest := if first then some tokens else
        match tokens with
        | .flowEntry :: rest => some rest
        | _ => none
      match rest with
      | none => none
      | some (.flowSequenceEnd :: rest) => some ([], anchors, rest)
      | some (.key :: _) => none
      | some rest =>
        match node handles fuel false false anchors rest with
        | none => none
        | some (item, anchors, rest) =>
          (flowItems handles fuel false anchors rest).map fun (items, a, r) => (item :: items, a, r)

def flowEntries (handles : Handles) :
    Nat → Bool → Anchors → List Token → Read (List (Tree × Tree))
  | 0, _, _, _ => none
  | fuel + 1, first, anchors, tokens =>
    match tokens with
    | .flowMappingEnd :: rest => some ([], anchors, rest)
    | _ =>
      let rest := if first then some tokens else
        match tokens with
        | .flowEntry :: rest => some rest
        | _ => none
      match rest with
      | none => none
      | some (.flowMappingEnd :: rest) => some ([], anchors, rest)
      | some rest =>
        let key : Read (Tree × Bool) :=
          match rest with
          | .key :: rest =>
            if endsFlowPart rest then some ((emptyWord none, true), anchors, rest)
            else (node handles fuel false false anchors rest).map fun (k, a, r) => ((k, true), a, r)
          | rest =>
            (node handles fuel false false anchors rest).map fun (k, a, r) => ((k, false), a, r)
        match key with
        | none => none
        | some ((key, marked), anchors, rest) =>
          let value : Read Tree :=
            match marked, rest with
            | true, .value :: rest =>
              match rest with
              | .flowEntry :: _ => some (emptyWord none, anchors, rest)
              | .flowMappingEnd :: _ => some (emptyWord none, anchors, rest)
              | _ => node handles fuel false false anchors rest
            | _, rest => some (emptyWord none, anchors, rest)
          match value with
          | some (value, anchors, rest) =>
            (flowEntries handles fuel false anchors rest).map fun (es, a, r) =>
              ((key, value) :: es, a, r)
          | none => none
end

/-- The directives in front of a document: at most one version, 1.1 or 1.2, and each handle of a
tag at most once. -/
def directives? : Bool → Handles → List Token → Option (Handles × List Token)
  | versioned, handles, .versionDirective major minor :: rest =>
    if versioned || major ≠ 1 || (minor ≠ 1 && minor ≠ 2) then none
    else directives? true handles rest
  | versioned, handles, .tagDirective handle front :: rest =>
    if handles.any (fun h => h.1 == handle) then none
    else directives? versioned ((handle, front) :: handles) rest
  | _, handles, rest => some (handles, rest)

def endsFile (tokens : List Token) : Bool := tokens.all (· == .documentEnd)

def isEmptyDocument : List Token → Bool
  | [] => true
  | .versionDirective _ _ :: _ => true
  | .tagDirective _ _ :: _ => true
  | .documentStart :: _ => true
  | .documentEnd :: _ => true
  | _ => false

def content? (handles : Handles) (tokens : List Token) : Option Document :=
  match node (handles ++ defaultHandles) (4 * tokens.length + 4) true false {} tokens with
  | some (t, anchors, rest) => if endsFile rest then anchors.document? t else none
  | none => none

def emptyDocument : Document := .word { text := "" }

/-- The document that a text holds; a text without any is an empty word. -/
def read? (text : String) : Option Document := do
  let tokens ← tokens? text
  match tokens with
  | [] => return emptyDocument
  | .versionDirective _ _ :: _ | .tagDirective _ _ :: _ | .documentStart :: _ =>
    match ← directives? false [] tokens with
    | (handles, .documentStart :: rest) =>
      if isEmptyDocument rest then if endsFile rest then return emptyDocument else none
      else content? handles rest
    | _ => none
  | tokens => content? [] tokens

end EtcdKit.Yaml
