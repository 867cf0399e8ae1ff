import EtcdKit.Profile.Encoding
import EtcdKit.Proofs.Profile.Fields
import EtcdKit.Proofs.Toml.Sections
/-!
# Shapes — a record that is written field by field has the shape of a section

What a record holds is told by its fields: it is a record of leaves if all its fields hold leaves
(`isRecord_entriesOf`), and its numbers can be written if those in its fields can
(`allFit_entriesOf`).
-/
namespace EtcdKit.Toml

open Shape (entriesOf)

/-- A field holds a leaf, if it has a value. -/
def LeafField (value : Option Document) : Prop := ∀ d ∈ value, IsLeaf d

/-- The number in a field can be written, if it has one. -/
def FieldFits (value : Option Document) : Prop := ∀ d ∈ value, AllFit (numbers d)

@[simp] theorem leafField_text (s : String) : LeafField (some (.text s)) :=
  fun _ h => by cases h; exact .text s

@[simp] theorem leafField_bool (b : Bool) : LeafField (some (.bool b)) :=
  fun _ h => by cases h; exact .bool b

@[simp] theorem leafField_ofNat (n : Nat) : LeafField (some (.ofNat n)) :=
  fun _ h => by cases h; exact .integer n

@[simp] theorem leafField_optionalText (s : Option String) : LeafField (s.map .text) :=
  fun _ h => by
    obtain ⟨s, -, rfl⟩ := Option.map_eq_some_iff.1 h
    exact .text s

@[simp] theorem fieldFits_text (s : String) : FieldFits (some (.text s)) :=
  fun _ h => by cases h; exact List.forall_mem_nil _

@[simp] theorem fieldFits_bool (b : Bool) : FieldFits (some (.bool b)) :=
  fun _ h => by cases h; exact List.forall_mem_nil _

@[simp] theorem fieldFits_ofNat (n : Nat) : FieldFits (some (.ofNat n)) ↔ (n : Int) ≤ maxInteger :=
  ⟨fun h => h _ rfl _ List.mem_cons_self, fun h _ hd m hm => by
    cases hd
    cases List.mem_singleton.1 hm
    exact h⟩

@[simp] theorem fieldFits_optionalText (s : Option String) : FieldFits (s.map .text) :=
  fun _ h => by
    obtain ⟨s, -, rfl⟩ := Option.map_eq_some_iff.1 h
    exact List.forall_mem_nil _

/-- The entries of leaf fields are leaves. -/
theorem isLeaf_of_mem_entriesOf : ∀ {names : List String} {values : List (Option Document)},
    (∀ value ∈ values, LeafField value) → ∀ e ∈ entriesOf names values, IsLeaf e.2
  | [], _, _, _, he => by cases he
  | _ :: _, [], _, _, he => by cases he
  | name :: names, some d :: values, h, e, he => by
    rw [entriesOf] at he
    rcases List.mem_cons.1 he with rfl | he
    · exact h (some d) List.mem_cons_self d rfl
    · exact isLeaf_of_mem_entriesOf (fun v hv => h v (List.mem_cons_of_mem _ hv)) e he
  | name :: names, none :: values, h, e, he =>
    isLeaf_of_mem_entriesOf (fun v hv => h v (List.mem_cons_of_mem _ hv)) e he

theorem bareKeys_entriesOf {names : List String} (h : BareKeys names)
    (values : List (Option Document)) : BareKeys ((entriesOf names values).map Prod.fst) :=
  fun key hk => h key ((Shape.keys_entriesOf_sublist names values).subset hk)

theorem nodup_entriesOf {names : List String} (h : names.Nodup)
    (values : List (Option Document)) : ((entriesOf names values).map Prod.fst).Nodup :=
  h.sublist (Shape.keys_entriesOf_sublist names values)

/-- **Leaf fields under bare keys are a record.** -/
theorem isRecord_entriesOf {names : List String} {values : List (Option Document)}
    (hbare : BareKeys names) (hnodup : names.Nodup) (hleaf : ∀ value ∈ values, LeafField value) :
    IsRecord (.record (entriesOf names values)) :=
  .mk (isLeaf_of_mem_entriesOf hleaf) (bareKeys_entriesOf hbare values)
    (nodup_entriesOf hnodup values)

/-- A record is a section without lists. -/
theorem IsRecord.isSection {d : Document} (h : IsRecord d) : IsSection d := by
  cases h with
  | @mk leaves leaf bare nodup =>
    rw [← List.append_nil leaves] at bare nodup ⊢
    exact .mk leaf (List.forall_mem_nil _) bare nodup

/-- **A document of leaf fields is a section.** -/
theorem isSection_of_fields {d : Document} {names : List String} {values : List (Option Document)}
    (hd : d = .record (entriesOf names values)) (hbare : BareKeys names) (hnodup : names.Nodup)
    (hleaf : ∀ value ∈ values, LeafField value) : IsSection d := by
  rw [hd]
  exact (isRecord_entriesOf hbare hnodup hleaf).isSection

/-- The numbers in a record are those in its fields. -/
theorem allFit_entriesOf : ∀ {names : List String} {values : List (Option Document)},
    values.length = names.length →
    (AllFit (numbersOfEntries (entriesOf names values)) ↔ ∀ value ∈ values, FieldFits value)
  | [], [], _ => by simp [entriesOf, numbersOfEntries, AllFit]
  | [], _ :: _, h => absurd h (Nat.succ_ne_zero _)
  | _ :: _, [], h => absurd h.symm (Nat.succ_ne_zero _)
  | name :: names, value :: values, h => by
    rw [List.forall_mem_cons, ← allFit_entriesOf (Nat.succ.inj h)]
    cases value with
    | none => simp [entriesOf, FieldFits]
    | some d => simp [entriesOf, numbersOfEntries, allFit_append, FieldFits]

/-- **The numbers in a document of fields can be written** if those in its fields can. -/
theorem allFit_of_fields {d : Document} {names : List String} {values : List (Option Document)}
    (hd : d = .record (entriesOf names values)) (hlen : values.length = names.length) :
    AllFit (numbers d) ↔ ∀ value ∈ values, FieldFits value := by
  rw [hd, numbers, allFit_entriesOf hlen]

end EtcdKit.Toml
