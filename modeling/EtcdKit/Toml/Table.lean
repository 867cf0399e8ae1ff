import EtcdKit.Document
/-!
# Table — the tables of a TOML file while it is read

A table remembers how it came to be.  It is implied if only longer names mention it, and dotted if
a dotted key in a table made it.  Headers may open an implied table once; dotted keys may only add
to tables that dotted keys made.
-/
namespace EtcdKit.Toml

mutual
/-- What stands under a key: a finished value, a table, or a list of tables. -/
inductive Item where
  | value (document : Document)
  | table (table : Table)
  | tables (tables : List Table)

inductive Table where
  | mk (implied dotted : Bool) (entries : List (String × Item))
end

namespace Table

/-- Only longer names mention the table. -/
def implied : Table → Bool
  | mk implied _ _ => implied

/-- A dotted key made the table. -/
def dotted : Table → Bool
  | mk _ dotted _ => dotted

def entries : Table → List (String × Item)
  | mk _ _ entries => entries

def withEntries (t : Table) (entries : List (String × Item)) : Table := mk t.implied t.dotted entries

def root : Table := mk false false []

def opened : Table := mk false false []

def get? (t : Table) (key : String) : Option Item :=
  (t.entries.find? (fun e => e.1 == key)).map Prod.snd

/-- The entries with another item under a key, at its place or at the end. -/
def setEntry (key : String) (item : Item) : List (String × Item) → List (String × Item)
  | [] => [(key, item)]
  | (k, old) :: rest => if k = key then (key, item) :: rest else (k, old) :: setEntry key item rest

def set (t : Table) (key : String) (item : Item) : Table := t.withEntries (setEntry key item t.entries)

def unsnoc? {α : Type} : List α → Option (List α × α)
  | [] => none
  | [last] => some ([], last)
  | first :: rest => (unsnoc? rest).map fun (front, last) => (first :: front, last)

/-- Changes the table that a path names.  Missing tables on the way are made; a list of tables
stands for its last one.  On the way of a dotted key there may be no table of a header. -/
def update (viaDots : Bool) (change : Table → Option Table) : List String → Table → Option Table
  | [], t => change t
  | key :: path, t =>
    match t.get? key with
    | none =>
      (update viaDots change path (mk true viaDots [])).map fun inner => t.set key (.table inner)
    | some (.value _) => none
    | some (.table inner) =>
      if viaDots && !inner.implied then none
      else (update viaDots change path inner).map fun inner => t.set key (.table inner)
    | some (.tables all) =>
      match unsnoc? all with
      | none => none
      | some (front, last) =>
        (update viaDots change path last).map fun last => t.set key (.tables (front ++ [last]))

/-- Opens a table under a key: a new one, or one that is only implied and not dotted. -/
def openTable (key : String) (t : Table) : Option Table :=
  match t.get? key with
  | none => some (t.set key (.table opened))
  | some (.table inner) =>
    if inner.implied && !inner.dotted then some (t.set key (.table (mk false false inner.entries)))
    else none
  | _ => none

def pushTable (key : String) (t : Table) : Option Table :=
  match t.get? key with
  | none => some (t.set key (.tables [opened]))
  | some (.tables all) => some (t.set key (.tables (all ++ [opened])))
  | _ => none

/-- Puts a value under a key that is free; behind dots only into a table that dots made. -/
def insertValue (viaDots : Bool) (key : String) (value : Document) (t : Table) : Option Table :=
  if t.dotted != viaDots then none
  else match t.get? key with
    | none => some (t.set key (.value value))
    | some _ => none

def insertDotted (path : List String) (key : String) (value : Document) (t : Table) :
    Option Table :=
  update (!path.isEmpty) (insertValue (!path.isEmpty) key value) path t

mutual
def toDocument : Table → Document
  | mk _ _ entries => .record (entriesToDocument entries)

def entriesToDocument : List (String × Item) → List (String × Document)
  | [] => []
  | (key, item) :: entries => (key, itemToDocument item) :: entriesToDocument entries

def itemToDocument : Item → Document
  | .value document => document
  | .table table => toDocument table
  | .tables tables => .list (tablesToDocuments tables)

def tablesToDocuments : List Table → List Document
  | [] => []
  | table :: tables => toDocument table :: tablesToDocuments tables
end

end Table
end EtcdKit.Toml
