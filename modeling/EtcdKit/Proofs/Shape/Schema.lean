import Mathlib.Data.List.Nodup
import EtcdKit.Proofs.Profile.Fields
/-!
# Schema — what the entries of a record say about a value

A schema lists the fields of a record: the name of each, the kind of its values, where the value
stands in the result, and what it is if no entry has the name.  `Says` reads the schema as a relation
between entries and results, in which the order of the entries does not occur.  A reader that takes
its fields with `orElse` and `required` finds what the entries say (`orElse_lookup_iff`,
`required_lookup_iff`), as far as it reads the values of each kind.
-/
namespace EtcdKit.Shape

variable {α δ ρ : Type}

/-- A kind of values in a tree: what a value means, and which values are of the kind. -/
structure Kind (δ α : Type) where
  Means : δ → α → Prop
  Fits : δ → Prop := fun d => ∃ a, Means d a

/-- A field of a record, with the value of the result if it is absent; some fields must be there. -/
structure Field (δ ρ : Type) where
  name : String
  {α : Type}
  kind : Kind δ α
  get : ρ → α
  absent : Option α

/-- The name stands in front of one entry at most. -/
def Once (name : String) (entries : List (String × δ)) : Prop :=
  (entries.map Prod.fst).count name ≤ 1

/-- The entry of that name means the value; if there is none, the value is the absent one. -/
def Tells (name : String) (kind : Kind δ α) (absent : Option α) (entries : List (String × δ))
    (a : α) : Prop :=
  (∀ v, (name, v) ∈ entries → kind.Means v a) ∧ (name ∉ entries.map Prod.fst → absent = some a)

/-- The entries say what every field of the result is. -/
def Says (fields : List (Field δ ρ)) (entries : List (String × δ)) (r : ρ) : Prop :=
  ∀ f ∈ fields, Tells f.name f.kind f.absent entries (f.get r)

/-! ## Finding an entry by its name -/

section Entries

variable {name : String} {entries : List (String × δ)}

theorem once_of_nodup (h : (entries.map Prod.fst).Nodup) (name : String) : Once name entries :=
  List.nodup_iff_count_le_one.1 h name

theorem not_mem_of_lookup (h : entries.lookup name = none) : name ∉ entries.map Prod.fst := by
  intro hmem
  obtain ⟨e, he, rfl⟩ := List.mem_map.1 hmem
  exact bne_iff_ne.1 (List.lookup_eq_none_iff.1 h e he) rfl

theorem mem_of_lookup {v : δ} (h : entries.lookup name = some v) : (name, v) ∈ entries := by
  obtain ⟨front, back, rfl, -⟩ := List.lookup_eq_some_iff.1 h
  exact List.mem_append_right _ List.mem_cons_self

theorem lookup_of_mem (honce : Once name entries) {v : δ} (h : (name, v) ∈ entries) :
    entries.lookup name = some v := by
  obtain ⟨front, back, rfl⟩ := List.append_of_mem h
  refine List.lookup_eq_some_iff.2 ⟨front, back, rfl, ?_⟩
  intro e he
  rw [bne_iff_ne]
  rintro rfl
  have hfront : 0 < (front.map Prod.fst).count e.1 :=
    List.count_pos_iff.2 (List.mem_map.2 ⟨e, he, rfl⟩)
  rw [Once, List.map_append, List.map_cons, List.count_append, List.count_cons_self] at honce
  omega

theorem tells_of_mem {kind : Kind δ α} {absent : Option α} (honce : Once name entries) {v : δ}
    (h : (name, v) ∈ entries) (a : α) : Tells name kind absent entries a ↔ kind.Means v a := by
  refine ⟨fun htells => htells.1 v h, fun hmeans => ⟨?_, ?_⟩⟩
  · intro w hw
    have hsome := (lookup_of_mem honce hw).symm.trans (lookup_of_mem honce h)
    rwa [Option.some.inj hsome]
  · intro hnot
    exact absurd (List.mem_map.2 ⟨_, h, rfl⟩) hnot

theorem tells_of_not_mem {kind : Kind δ α} {absent : Option α} (h : name ∉ entries.map Prod.fst)
    (a : α) : Tells name kind absent entries a ↔ absent = some a :=
  ⟨fun htells => htells.2 h,
    fun habsent => ⟨fun _ hv => absurd (List.mem_map.2 ⟨_, hv, rfl⟩) h, fun _ => habsent⟩⟩

theorem valueOf?_eq_lookup : ∀ {entries : List (String × δ)}, Once name entries →
    valueOf? entries name = some (entries.lookup name)
  | [], _ => rfl
  | (key, v) :: entries, honce => by
    rw [Once, List.map_cons] at honce
    by_cases hkey : key = name
    · subst hkey
      have hrest : key ∉ entries.map Prod.fst := by
        rw [← List.count_eq_zero]
        rw [List.count_cons_self] at honce
        omega
      rw [valueOf?, valuesNamed, List.filter_cons_of_pos (by exact beq_self_eq_true key),
        List.map_cons, List.lookup_cons_self]
      have hnone := valuesNamed_of_not_mem hrest
      rw [valuesNamed] at hnone
      rw [hnone]
    · have hne : (key == name) = false := beq_eq_false_iff_ne.2 hkey
      have hlookup : ((key, v) :: entries).lookup name = entries.lookup name := by
        rw [List.lookup_cons, beq_eq_false_iff_ne.2 (Ne.symm hkey)]
      rw [List.count_cons_of_ne hkey] at honce
      rw [hlookup, ← valueOf?_eq_lookup honce, valueOf?, valuesNamed,
        List.filter_cons_of_neg (by rw [hne]; decide)]
      rfl

/-- **The values of a record are what stands under the names of its fields.** -/
theorem byName?_eq_lookups {names : List String} (honce : ∀ name ∈ names, Once name entries) :
    byName? names entries = some (names.map fun name => entries.lookup name) := by
  induction names with
  | nil => rfl
  | cons name names ih =>
    rw [byName?_cons, valueOf?_eq_lookup (honce name List.mem_cons_self),
      ih fun other hmem => honce other (List.mem_cons_of_mem name hmem)]
    rfl

theorem exists_of_forall₂ {α β : Type _} {R : α → β → Prop} {as : List α} {bs : List β} {a : α}
    (h : List.Forall₂ R as bs) (ha : a ∈ as) : ∃ b ∈ bs, R a b := by
  induction h with
  | nil => cases ha
  | cons hhead _ ih =>
    rcases List.mem_cons.1 ha with rfl | hrest
    · exact ⟨_, List.mem_cons_self, hhead⟩
    · obtain ⟨b, hb, hab⟩ := ih hrest
      exact ⟨b, List.mem_cons_of_mem _ hb, hab⟩

/-- Entries that stand in the order of the fields, one for each, say what their values mean. -/
theorem says_of_forall₂ {fields : List (Field δ ρ)} {r : ρ} (hnodup : (entries.map Prod.fst).Nodup)
    (h : List.Forall₂ (fun f e => e.1 = f.name ∧ f.kind.Means e.2 (f.get r)) fields entries) :
    Says fields entries r := by
  intro f hf
  obtain ⟨e, he, hname, hmeans⟩ := exists_of_forall₂ h hf
  rw [← hname]
  exact (tells_of_mem (once_of_nodup hnodup e.1) he _).2 hmeans

end Entries

/-! ## Reading a field -/

section Reading

variable {name : String} {entries : List (String × δ)} {kind : Kind δ α} {read : δ → Option α}
  {a : α}

/-- **A field with a default is read as the entries tell it.** -/
theorem orElse_lookup_iff (honce : Once name entries) (default : α)
    (hread : ∀ v, (name, v) ∈ entries → (read v = some a ↔ kind.Means v a)) :
    orElse default read (entries.lookup name) = some a ↔
      Tells name kind (some default) entries a := by
  cases hlookup : entries.lookup name with
  | none => exact (tells_of_not_mem (not_mem_of_lookup hlookup) a).symm
  | some v =>
    have hmem := mem_of_lookup hlookup
    exact (hread v hmem).trans (tells_of_mem honce hmem a).symm

/-- **A field that must be there is read as the entries tell it.** -/
theorem required_lookup_iff (honce : Once name entries)
    (hread : ∀ v, (name, v) ∈ entries → (read v = some a ↔ kind.Means v a)) :
    required read (entries.lookup name) = some a ↔ Tells name kind none entries a := by
  cases hlookup : entries.lookup name with
  | none =>
    refine ⟨nofun, fun htells => ?_⟩
    exact nomatch htells.2 (not_mem_of_lookup hlookup)
  | some v =>
    have hmem := mem_of_lookup hlookup
    exact (hread v hmem).trans (tells_of_mem honce hmem a).symm

/-- A field with a default is found where the entries tell it, if its kind is read. -/
theorem orElse_of_tells {default : α}
    (hread : ∀ v, kind.Means v a → read v = some a) (h : Tells name kind (some default) entries a) :
    orElse default read (entries.lookup name) = some a := by
  cases hlookup : entries.lookup name with
  | none => exact h.2 (not_mem_of_lookup hlookup)
  | some v => exact hread v (h.1 v (mem_of_lookup hlookup))

theorem required_of_tells (hread : ∀ v, kind.Means v a → read v = some a)
    (h : Tells name kind none entries a) : required read (entries.lookup name) = some a := by
  cases hlookup : entries.lookup name with
  | none => exact nomatch h.2 (not_mem_of_lookup hlookup)
  | some v => exact hread v (h.1 v (mem_of_lookup hlookup))

end Reading

end EtcdKit.Shape
