/-!
# Shape — records with a fixed list of fields

The values of a record come by name, in any order, or one after another, in the order of the fields
with some missing at the end.  Either way they are lined up with the fields.
-/
namespace EtcdKit.Shape

variable {α δ : Type}

def valuesNamed (name : String) (entries : List (String × δ)) : List δ :=
  (entries.filter (fun e => e.1 == name)).map Prod.snd

/-- The value of that name, missing or not; none if there are several. -/
def valueOf? (entries : List (String × δ)) (name : String) : Option (Option δ) :=
  match valuesNamed name entries with
  | [] => some none
  | [value] => some (some value)
  | _ => none

/-- The values of the fields, found by name; other entries do not matter. -/
def byName? (names : List String) (entries : List (String × δ)) : Option (List (Option δ)) :=
  names.mapM (valueOf? entries)

/-- The values of the fields in their order; values past the last field do not matter. -/
def inOrder (names : List String) (values : List δ) : List (Option δ) :=
  (values.take names.length).map some ++ List.replicate (names.length - values.length) none

/-- A field that may be missing, with the value it then has. -/
def orElse (default : α) (read : δ → Option α) : Option δ → Option α
  | none => some default
  | some value => read value

def required (read : δ → Option α) : Option δ → Option α
  | none => none
  | some value => read value

end EtcdKit.Shape
