import EtcdKit.Profile.Decoding
import EtcdKit.Proofs.Shape.Schema
/-!
# Settings — the kinds of values in a profile document

The leaves of a settings document are texts, numbers and truth values (`Plain`), and its records hold
each key once (`IsMap`).  A word, whose type its format leaves open, is a text, and a number or a
truth value as well if it writes one.  A kind says what a document means, and which documents fit.
A reader reads a kind at a document if it finds just what the document means, and if what fits is
what has a meaning (`Reads`).  A record is read by its fields one after another (`Builds`).
-/
namespace EtcdKit

open Shape (Field Kind Says Tells byName?_eq_lookups once_of_nodup orElse_lookup_iff
  required_lookup_iff tells_of_mem tells_of_not_mem)

/-! ## Settings documents -/

/-- The word says something, and its tag names no other type. -/
structure Word.Speaks (w : Word) : Prop where
  said : w.isBlankBare = false
  notNull : w.tag ≠ some Word.nullTag
  unnamed : w.tag.bind Document.tagName? = none

namespace Document

/-- Every leaf is a text, a number or a truth value. -/
inductive Plain : Document → Prop
  | bool (b : Bool) : Plain (.bool b)
  | integer (n : Int) : Plain (.integer n)
  | text (s : String) : Plain (.text s)
  | word {w : Word} (speaks : w.Speaks) : Plain (.word w)
  | list {items : List Document} (each : ∀ item ∈ items, Plain item) : Plain (.list items)
  | record {entries : List (String × Document)} (each : ∀ e ∈ entries, Plain e.2) :
    Plain (.record entries)

/-- A record that holds each of its keys once. -/
def IsMap (d : Document) : Prop := ∃ entries, d = .record entries ∧ (entries.map Prod.fst).Nodup

/-- A record with that entry. -/
def Holds (d : Document) (key : String) (v : Document) : Prop :=
  ∃ entries, d = .record entries ∧ (key, v) ∈ entries

/-- The document, its sections and its nodes are maps, and its leaves are plain. -/
structure IsSettings (d : Document) : Prop where
  plain : d.Plain
  isMap : d.IsMap
  sections : ∀ key v, key ∈ Profile.keys → d.Holds key v → v.IsMap
  nodes : ∀ cluster items, d.Holds "cluster" cluster → cluster.Holds "nodes" (.list items) →
    ∀ item ∈ items, item.IsMap

attribute [simp] Plain.bool Plain.integer Plain.text

@[simp] theorem plain_list_iff {items : List Document} :
    Plain (.list items) ↔ ∀ item ∈ items, item.Plain := by
  refine ⟨fun h => ?_, .list⟩
  cases h with
  | list each => exact each

@[simp] theorem plain_record_iff {entries : List (String × Document)} :
    Plain (.record entries) ↔ ∀ e ∈ entries, e.2.Plain := by
  refine ⟨fun h => ?_, .record⟩
  cases h with
  | record each => exact each

theorem Plain.of_mem {entries : List (String × Document)} (h : Plain (.record entries))
    {key : String} {v : Document} (hv : (key, v) ∈ entries) : v.Plain :=
  plain_record_iff.1 h (key, v) hv

end Document

/-! ## The kinds -/

namespace Setting

open Document

/-- The document is a leaf with that text. -/
def HasText (d : Document) (s : String) : Prop := d = .text s ∨ ∃ w : Word, d = .word w ∧ w.text = s

/-- The document is a leaf that writes that number. -/
def HasNumber (d : Document) (n : Nat) : Prop :=
  d = .integer n ∨ ∃ w : Word, d = .word w ∧ w.nat? = some n

def text : Kind Document String where Means := HasText

def truth : Kind Document Bool where
  Means d b := d = .bool b ∨ ∃ w : Word, d = .word w ∧ w.bool? = some b

/-- Numbers below a bound. -/
def number {α : Type} (bound : Nat) (toNat : α → Nat) : Kind Document α where
  Means d a := HasNumber d (toNat a)
  Fits d := ∃ n < bound, HasNumber d n

def uint16 : Kind Document UInt16 := number UInt16.size UInt16.toNat

def uint32 : Kind Document UInt32 := number UInt32.size UInt32.toNat

def uint64 : Kind Document UInt64 := number UInt64.size UInt64.toNat

/-- Texts of absolute web addresses. -/
def address : Kind Document Url where Means d u := ∃ s, HasText d s ∧ Url.parse? s = some u

/-- Texts that stand for a directory. -/
def directory : Kind Document (Option String) where Means d p := ∃ s, HasText d s ∧ p = some s

/-- The two words of the state; one format writes such a word as a key that carries nothing, too. -/
def state (format : Format) : Kind Document BootstrapState where
  Means d s := HasText d s.text ∨
    format = .toml ∧ (d = .record [(s.text, .list [])] ∨ d = .record [(s.text, .record [])])

/-- Lists of one kind. -/
def listOf {α : Type} (kind : Kind Document α) : Kind Document (List α) where
  Means d as := ∃ items, d = .list items ∧ List.Forall₂ kind.Means items as
  Fits d := ∃ items, d = .list items ∧ ∀ item ∈ items, kind.Fits item

/-- Records with no key but those of the fields.  Of the rest of the result they say nothing. -/
def recordOf {ρ : Type} (fields : List (Field Document ρ)) (Rest : ρ → Prop) : Kind Document ρ where
  Means d r := ∃ entries, d = .record entries ∧
    (∀ key ∈ entries.map Prod.fst, key ∈ fields.map Field.name) ∧ Says fields entries r ∧ Rest r
  Fits d := ∃ entries, d = .record entries ∧
    (∀ key ∈ entries.map Prod.fst, key ∈ fields.map Field.name) ∧
    (∀ f ∈ fields, ∀ v, (f.name, v) ∈ entries → f.kind.Fits v) ∧
    ∀ f ∈ fields, f.absent = none → f.name ∈ entries.map Prod.fst

end Setting

/-! ## Leaves -/

namespace Setting

open Document

/-- The reader finds what the document means, and the document means something if it fits. -/
structure Reads {α : Type} (kind : Kind Document α) (read : Document → Option α) (d : Document) :
    Prop where
  means : ∀ a, read d = some a ↔ kind.Means d a
  fits : kind.Fits d ↔ ∃ a, kind.Means d a

theorem text?_iff (d : Document) (s : String) : d.text? = some s ↔ HasText d s := by
  cases d <;> simp [text?, HasText]

theorem reads_text (d : Document) : Reads text text? d :=
  ⟨text?_iff d, Iff.rfl⟩

theorem reads_truth (d : Document) : Reads truth bool? d := by
  refine ⟨?_, Iff.rfl⟩
  intro b
  cases d <;> simp [Document.bool?, truth]

theorem natBelow?_iff {bound : Nat} (d : Document) (n : Nat) :
    d.natBelow? bound = some n ↔ n < bound ∧ HasNumber d n := by
  cases d with
  | integer i =>
    simp only [natBelow?, HasNumber, Document.integer.injEq, reduceCtorEq, false_and, exists_false,
      or_false, Option.ite_none_right_eq_some, Option.some.injEq]
    omega
  | word w =>
    cases hw : w.nat? with
    | none => simp [natBelow?, HasNumber, hw]
    | some m =>
      have hread : (Document.word w).natBelow? bound = if m < bound then some m else none := by
        simp [natBelow?, hw]
      have hnumber : HasNumber (.word w) n ↔ m = n := by simp [HasNumber, hw]
      rw [hread, hnumber]
      grind
  | _ => simp [natBelow?, HasNumber]

theorem reads_number {α : Type} {bound : Nat} {toNat : α → Nat} {ofNat : Nat → α}
    (hlt : ∀ a, toNat a < bound) (hto : ∀ n < bound, toNat (ofNat n) = n)
    (hof : ∀ a, ofNat (toNat a) = a) (d : Document) :
    Reads (number bound toNat) (fun d => (d.natBelow? bound).map ofNat) d := by
  have hmeans : ∀ n < bound, HasNumber d n → (number bound toNat).Means d (ofNat n) := by
    intro n hn hnumber
    change HasNumber d (toNat (ofNat n))
    rwa [hto n hn]
  refine ⟨?_, ?_⟩
  · intro a
    rw [Option.map_eq_some_iff]
    constructor
    · rintro ⟨n, hn, rfl⟩
      obtain ⟨hbound, hnumber⟩ := (natBelow?_iff d n).1 hn
      exact hmeans n hbound hnumber
    · intro hnumber
      exact ⟨toNat a, (natBelow?_iff d _).2 ⟨hlt a, hnumber⟩, hof a⟩
  · constructor
    · rintro ⟨n, hn, hnumber⟩
      exact ⟨ofNat n, hmeans n hn hnumber⟩
    · rintro ⟨a, hnumber⟩
      exact ⟨toNat a, hlt a, hnumber⟩

theorem reads_uint16 (d : Document) : Reads uint16 uint16? d :=
  reads_number UInt16.toNat_lt (fun _ => UInt16.toNat_ofNat_of_lt') (fun _ => UInt16.ofNat_toNat) d

theorem reads_uint32 (d : Document) : Reads uint32 uint32? d :=
  reads_number UInt32.toNat_lt (fun _ => UInt32.toNat_ofNat_of_lt') (fun _ => UInt32.ofNat_toNat) d

theorem reads_uint64 (d : Document) : Reads uint64 uint64? d :=
  reads_number UInt64.toNat_lt (fun _ => UInt64.toNat_ofNat_of_lt') (fun _ => UInt64.ofNat_toNat) d

theorem reads_address (d : Document) : Reads address url? d := by
  refine ⟨?_, Iff.rfl⟩
  intro u
  simp only [url?, address, Option.bind_eq_some_iff, text?_iff]

theorem isMissing?_of_speaks {w : Word} (h : w.Speaks) : w.isMissing? = some false := by
  have hblank := h.said
  have hnull := h.notNull
  obtain ⟨_, style, tag⟩ := w
  cases style <;> cases tag <;> simp_all [Word.isMissing?, Word.isBlankBare]

theorem reads_directory {d : Document} (h : d.Plain) : Reads directory optionalText? d := by
  refine ⟨?_, Iff.rfl⟩
  intro p
  cases h with
  | word speaks => simp [optionalText?, directory, HasText, isMissing?_of_speaks speaks, eq_comm]
  | _ => simp [optionalText?, directory, HasText, eq_comm]

theorem ofText?_iff (word : String) (s : BootstrapState) :
    BootstrapState.ofText? word = some s ↔ word = s.text := by
  constructor
  · intro h
    unfold BootstrapState.ofText? at h
    split at h
    · obtain rfl := Option.some.inj h
      assumption
    · split at h
      · obtain rfl := Option.some.inj h
        assumption
      · cases h
  · rintro rfl
    exact BootstrapState.ofText?_text s

theorem isEmptyPayload_iff (format : Format) {payload : Document} (h : payload.Plain) :
    payload.isEmptyPayload format = true ↔
      format = .toml ∧ (payload = .list [] ∨ payload = .record []) := by
  cases h with
  | @list items _ => cases format <;> cases items <;> simp [isEmptyPayload]
  | @record entries _ => cases format <;> cases entries <;> simp [isEmptyPayload]
  | _ => cases format <;> simp [isEmptyPayload]

theorem choice?_record_iff (format : Format) (word : String) :
    ∀ {entries : List (String × Document)}, (∀ e ∈ entries, e.2.Plain) →
      ((Document.record entries).choice? format = some word ↔
        format = .toml ∧ (entries = [(word, .list [])] ∨ entries = [(word, .record [])]))
  | [], _ => by simp [choice?]
  | _ :: _ :: _, _ => by simp [choice?]
  | [(name, payload)], each => by
    have hempty := isEmptyPayload_iff format (each (name, payload) List.mem_cons_self)
    rw [choice?, Option.ite_none_right_eq_some, hempty]
    simp only [List.cons.injEq, Prod.mk.injEq, and_true, Option.some.injEq]
    constructor
    · rintro ⟨⟨hformat, hpayload⟩, rfl⟩
      exact ⟨hformat, hpayload.imp (fun h => ⟨rfl, h⟩) (fun h => ⟨rfl, h⟩)⟩
    · rintro ⟨hformat, ⟨hname, hpayload⟩ | ⟨hname, hpayload⟩⟩
      · exact ⟨⟨hformat, .inl hpayload⟩, hname⟩
      · exact ⟨⟨hformat, .inr hpayload⟩, hname⟩

theorem reads_state {format : Format} {d : Document} (h : d.Plain) :
    Reads (state format) (fun d => (d.choice? format).bind BootstrapState.ofText?) d := by
  refine ⟨?_, Iff.rfl⟩
  intro s
  simp only [Option.bind_eq_some_iff, ofText?_iff, exists_eq_right]
  cases h with
  | word speaks => simp [choice?, state, HasText, speaks.unnamed]
  | record each => simp [choice?_record_iff format s.text each, state, HasText]
  | _ => simp [choice?, state, HasText]

/-! ## Lists and records -/

section Lists

variable {α : Type} {kind : Kind Document α} {read : Document → Option α}

theorem mapM_iff_forall₂ {items : List Document} {as : List α}
    (each : ∀ item ∈ items, Reads kind read item) :
    items.mapM read = some as ↔ List.Forall₂ kind.Means items as := by
  induction items generalizing as with
  | nil => simp [eq_comm]
  | cons item items ih =>
    have hitem := (each item List.mem_cons_self).means
    have hitems := fun as => @ih as fun other hmem => each other (List.mem_cons_of_mem item hmem)
    rw [List.mapM_cons]
    change (read item).bind (fun a => (items.mapM read).bind fun rest => some (a :: rest)) = _ ↔ _
    simp only [Option.bind_eq_some_iff, hitem, hitems, Option.some.injEq, List.forall₂_cons_left_iff]
    grind

theorem forall_fits_iff {items : List Document} (each : ∀ item ∈ items, Reads kind read item) :
    (∀ item ∈ items, kind.Fits item) ↔ ∃ as, List.Forall₂ kind.Means items as := by
  induction items with
  | nil => simp
  | cons item items ih =>
    have hitem := (each item List.mem_cons_self).fits
    have hitems := ih fun other hmem => each other (List.mem_cons_of_mem item hmem)
    rw [List.forall_mem_cons, hitem, hitems]
    constructor
    · rintro ⟨⟨a, ha⟩, as, has⟩
      exact ⟨a :: as, .cons ha has⟩
    · rintro ⟨_, h⟩
      cases h with
      | cons ha has => exact ⟨⟨_, ha⟩, _, has⟩

theorem items?_iff {d : Document} (h : d.Plain) (items : List Document) :
    d.items? = some items ↔ d = .list items := by
  cases h with
  | word speaks =>
    have hblank := speaks.said
    simp only [items?, reduceCtorEq, iff_false]
    split
    · rename_i hbare
      simp [Word.isBlankBare, hbare.1, hbare.2] at hblank
    · nofun
  | _ => simp [items?]

theorem reads_listOf {d : Document} (hplain : d.Plain)
    (each : ∀ items, d = .list items → ∀ item ∈ items, Reads kind read item) :
    Reads (listOf kind) (fun d => d.items?.bind fun items => items.mapM read) d := by
  refine ⟨?_, ?_⟩
  · intro as
    simp only [Option.bind_eq_some_iff, items?_iff hplain, listOf]
    exact exists_congr fun items => and_congr_right fun h => mapM_iff_forall₂ (each items h)
  · simp only [listOf]
    rw [exists_comm]
    refine exists_congr fun items => ?_
    rw [exists_and_left]
    exact and_congr_right fun h => forall_fits_iff (each items h)

end Lists

section Records

variable {ρ : Type} {fields : List (Field Document ρ)} {Rest : ρ → Prop}
  {entries : List (String × Document)}

/-- The result is what the entries say of the fields, and it is found if the value of each field is;
the kinds of the fields know which of the entries' values have a meaning. -/
structure Builds (entries : List (String × Document)) (fields : List (Field Document ρ))
    (Rest : ρ → Prop) (result : Option ρ) : Prop where
  said : ∀ r, result = some r ↔ Says fields entries r ∧ Rest r
  found : (∀ f ∈ fields, ∃ a, Tells f.name f.kind f.absent entries a) → ∃ r, result = some r
  fits : ∀ f ∈ fields, ∀ v, (f.name, v) ∈ entries → (f.kind.Fits v ↔ ∃ a, f.kind.Means v a)

theorem Builds.done {r : ρ} (h : ∀ other, r = other ↔ Rest other) :
    Builds entries [] Rest (some r) := by
  refine ⟨?_, fun _ => ⟨r, rfl⟩, nofun⟩
  intro other
  rw [Option.some.injEq, h other]
  exact ⟨fun hrest => ⟨nofun, hrest⟩, And.right⟩

section Steps

variable {α : Type} {name : String} {kind : Kind Document α} {get : ρ → α} {absent : Option α}
  {read : Document → Option α} {next : α → Option ρ}

/-- The first field is read, and the others are built with its value in the result. -/
theorem Builds.step [hsome : Nonempty α] {value : Option α}
    (hvalue : ∀ a, value = some a ↔ Tells name kind absent entries a)
    (hfits : ∀ v, (name, v) ∈ entries → (kind.Fits v ↔ ∃ a, kind.Means v a))
    (hnext : ∀ a, Builds entries fields (fun r => Rest r ∧ a = get r) (next a)) :
    Builds entries (⟨name, kind, get, absent⟩ :: fields) Rest (value.bind next) := by
  refine ⟨?_, ?_, ?_⟩
  · intro r
    rw [Option.bind_eq_some_iff, Says, List.forall_mem_cons]
    constructor
    · rintro ⟨a, ha, hr⟩
      obtain ⟨hsaid, hrest, rfl⟩ := ((hnext a).said r).1 hr
      exact ⟨⟨(hvalue _).1 ha, hsaid⟩, hrest⟩
    · rintro ⟨⟨htells, hsaid⟩, hrest⟩
      exact ⟨get r, (hvalue _).2 htells, ((hnext _).said r).2 ⟨hsaid, hrest, rfl⟩⟩
  · intro htold
    rw [List.forall_mem_cons] at htold
    obtain ⟨⟨a, ha⟩, hothers⟩ := htold
    obtain ⟨r, hr⟩ := (hnext a).found hothers
    exact ⟨r, Option.bind_eq_some_iff.2 ⟨a, (hvalue a).2 ha, hr⟩⟩
  · rw [List.forall_mem_cons]
    obtain ⟨a⟩ := hsome
    exact ⟨hfits, (hnext a).fits⟩

variable (hnodup : (entries.map Prod.fst).Nodup)
  (hread : ∀ v, (name, v) ∈ entries → Reads kind read v)

include hnodup hread

theorem Builds.orElse {default : α}
    (hnext : ∀ a, Builds entries fields (fun r => Rest r ∧ a = get r) (next a)) :
    Builds entries (⟨name, kind, get, some default⟩ :: fields) Rest
      ((Shape.orElse default read (entries.lookup name)).bind next) := by
  have hsome : Nonempty α := ⟨default⟩
  refine .step ?_ (fun v hv => (hread v hv).fits) hnext
  intro a
  exact orElse_lookup_iff (once_of_nodup hnodup name) default fun v hv => (hread v hv).means a

theorem Builds.required [Nonempty α]
    (hnext : ∀ a, Builds entries fields (fun r => Rest r ∧ a = get r) (next a)) :
    Builds entries (⟨name, kind, get, none⟩ :: fields) Rest
      ((Shape.required read (entries.lookup name)).bind next) := by
  refine .step ?_ (fun v hv => (hread v hv).fits) hnext
  intro a
  exact required_lookup_iff (once_of_nodup hnodup name) fun v hv => (hread v hv).means a

end Steps

theorem recordOf_means_iff {r : ρ} : (recordOf fields Rest).Means (.record entries) r ↔
    (∀ key ∈ entries.map Prod.fst, key ∈ fields.map Field.name) ∧ Says fields entries r ∧
      Rest r := by
  simp [recordOf]

theorem fits_recordOf (hnodup : (entries.map Prod.fst).Nodup) {result : Option ρ}
    (hbuild : Builds entries fields Rest result) :
    (recordOf fields Rest).Fits (.record entries) ↔
      ∃ r, (recordOf fields Rest).Means (.record entries) r := by
  constructor
  · rintro ⟨_, heq, hknown, hfits, hneeded⟩
    obtain rfl := Document.record.inj heq
    -- a field is told by its entry, or else by its absent value, which it has as it is not needed
    have htold : ∀ f ∈ fields, ∃ a, Tells f.name f.kind f.absent entries a := by
      intro f hf
      by_cases hmem : f.name ∈ entries.map Prod.fst
      · obtain ⟨e, he, hname⟩ := List.mem_map.1 hmem
        have hentry : (f.name, e.2) ∈ entries := by rwa [← hname]
        obtain ⟨a, ha⟩ := (hbuild.fits f hf e.2 hentry).1 (hfits f hf e.2 hentry)
        exact ⟨a, (tells_of_mem (once_of_nodup hnodup f.name) hentry a).2 ha⟩
      · obtain ⟨a, ha⟩ : ∃ a, f.absent = some a :=
          Option.ne_none_iff_exists'.1 fun hnone => hmem (hneeded f hf hnone)
        exact ⟨a, (tells_of_not_mem hmem a).2 ha⟩
    obtain ⟨r, hr⟩ := hbuild.found htold
    exact ⟨r, entries, rfl, hknown, (hbuild.said r).1 hr⟩
  · rintro ⟨r, _, heq, hknown, hsaid, -⟩
    obtain rfl := Document.record.inj heq
    refine ⟨entries, rfl, hknown, ?_, ?_⟩
    · intro f hf v hv
      exact (hbuild.fits f hf v hv).2 ⟨f.get r, (hsaid f hf).1 v hv⟩
    · intro f hf hnone
      by_contra hmem
      have habsent := (hsaid f hf).2 hmem
      rw [hnone] at habsent
      cases habsent

theorem fields?_of_known {names : List String} (format : Format)
    (hnodup : (entries.map Prod.fst).Nodup) (hknown : ∀ key ∈ entries.map Prod.fst, key ∈ names) :
    (Document.record entries).fields? format names =
      some (names.map fun name => entries.lookup name) := by
  rw [fields?, if_pos, byName?_eq_lookups fun name _ => once_of_nodup hnodup name]
  simpa using hknown

theorem fields?_of_unknown {names : List String} (format : Format)
    (h : ¬ ∀ key ∈ entries.map Prod.fst, key ∈ names) :
    (Document.record entries).fields? format names = none := by
  rw [fields?, if_neg]
  simpa using h

/-- **A record is read** if its result is built from what the entries say. -/
theorem reads_recordOf {format : Format} (names : List String)
    {build : List (Option Document) → Option ρ} (hnames : fields.map Field.name = names)
    (hnodup : (entries.map Prod.fst).Nodup)
    (hbuild : Builds entries fields Rest (build (names.map fun name => entries.lookup name))) :
    Reads (recordOf fields Rest) (fun d => (d.fields? format names).bind build)
      (.record entries) := by
  refine ⟨?_, fits_recordOf hnodup hbuild⟩
  intro r
  rw [recordOf_means_iff, hnames]
  -- a record with an unknown key is not read, and has no meaning either
  by_cases hknown : ∀ key ∈ entries.map Prod.fst, key ∈ names
  · rw [fields?_of_known format hnodup hknown, Option.bind_some, hbuild.said r]
    exact (and_iff_right hknown).symm
  · rw [fields?_of_unknown format hknown]
    exact ⟨nofun, fun h => absurd h.1 hknown⟩

end Records

end Setting
end EtcdKit
