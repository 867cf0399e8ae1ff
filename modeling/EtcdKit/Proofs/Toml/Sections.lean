import EtcdKit.Proofs.Toml.Tables
import EtcdKit.Proofs.Toml.Lines
/-!
# Sections — a document of sections is read back from its text

A section holds leaves and, behind them, lists of records, all under bare keys that differ
(`IsSection`).  Sections of that shape are read back from their text (`read?_write?`), and they have
a text unless one of their numbers is too large (`isSome_sections?`).
-/
namespace EtcdKit.Toml

/-- Keys that all stand without quotes. -/
def BareKeys (keys : List String) : Prop := ∀ key ∈ keys, isBareKey key = true

instance (keys : List String) : Decidable (BareKeys keys) :=
  inferInstanceAs (Decidable (∀ key ∈ keys, isBareKey key = true))

/-- A record of leaves. -/
inductive IsRecord : Document → Prop where
  | mk {leaves : List (String × Document)} (leaf : ∀ e ∈ leaves, IsLeaf e.2)
      (bare : BareKeys (leaves.map Prod.fst)) (nodup : (leaves.map Prod.fst).Nodup) :
      IsRecord (.record leaves)

/-- A list of records that has any. -/
inductive IsRecords : Document → Prop where
  | mk {first : Document} {rest : List Document} (record : ∀ d ∈ first :: rest, IsRecord d) :
      IsRecords (.list (first :: rest))

/-- A section: leaves, and lists of records behind them. -/
inductive IsSection : Document → Prop where
  | mk {leaves lists : List (String × Document)} (leaf : ∀ e ∈ leaves, IsLeaf e.2)
      (list : ∀ e ∈ lists, IsRecords e.2)
      (bare : BareKeys ((leaves ++ lists).map Prod.fst))
      (nodup : ((leaves ++ lists).map Prod.fst).Nodup) : IsSection (.record (leaves ++ lists))

/-! ## The text of a section -/

/-- Two texts that are there together are each there. -/
theorem exists_of_bind_bind {α β γ : Type} {x : Option α} {y : Option β} {f : α → β → γ} {c : γ}
    (h : (x.bind fun a => y.bind fun b => some (f a b)) = some c) :
    ∃ a b, x = some a ∧ y = some b ∧ c = f a b := by
  obtain ⟨a, ha, h⟩ := Option.bind_eq_some_iff.1 h
  obtain ⟨b, hb, h⟩ := Option.bind_eq_some_iff.1 h
  exact ⟨a, b, ha, hb, (Option.some.inj h).symm⟩

/-- The lines of leaves are the line of the first and the lines of the others. -/
theorem lines?_cons {key : String} {d : Document} (hd : IsLeaf d)
    (entries : List (String × Document)) :
    lines? ((key, d) :: entries) =
      (line? key d).bind fun line => (lines? entries).bind fun rest => some (line ++ rest) := by
  cases hd with
  | bool b => rfl
  | integer n => rfl
  | text s => rfl
  | empty => rfl

/-- Lists of records have no lines of their own. -/
theorem lines?_lists : ∀ {lists : List (String × Document)}, (∀ e ∈ lists, IsRecords e.2) →
    lines? lists = some []
  | [], _ => rfl
  | (key, d) :: lists, h => by
    have ih := lines?_lists fun e he => h e (List.mem_cons_of_mem _ he)
    cases h (key, d) List.mem_cons_self with
    | mk _ => exact ih

theorem lines?_append {lists : List (String × Document)} (hlists : ∀ e ∈ lists, IsRecords e.2) :
    ∀ {leaves : List (String × Document)}, (∀ e ∈ leaves, IsLeaf e.2) →
      lines? (leaves ++ lists) = lines? leaves
  | [], _ => lines?_lists hlists
  | (key, d) :: leaves, h => by
    have hd : IsLeaf d := h (key, d) List.mem_cons_self
    rw [List.cons_append, lines?_cons hd, lines?_cons hd,
      lines?_append hlists fun e he => h e (List.mem_cons_of_mem _ he)]

/-- Leaves are no lists of records. -/
theorem tables?_append (name : String) (lists : List (String × Document)) :
    ∀ {leaves : List (String × Document)}, (∀ e ∈ leaves, IsLeaf e.2) →
      tables? name (leaves ++ lists) = tables? name lists
  | [], _ => rfl
  | (key, d) :: leaves, h => by
    have ih := tables?_append name lists fun e he => h e (List.mem_cons_of_mem _ he)
    rw [List.cons_append]
    cases (h (key, d) List.mem_cons_self : IsLeaf d) with
    | bool b => exact ih
    | integer n => exact ih
    | text s => exact ih
    | empty => exact ih

/-- A section without its header: the lines of its leaves, and its lists of records. -/
theorem section?_eq (name : String) {leaves lists : List (String × Document)}
    (hleaves : ∀ e ∈ leaves, IsLeaf e.2) (hlists : ∀ e ∈ lists, IsRecords e.2) :
    (section? name (.record (leaves ++ lists))) =
      (lines? leaves).bind fun body => (tables? name lists).bind fun tables =>
        some (['['] ++ name.toList ++ "]\n".toList ++ body ++ tables) := by
  rw [section?, lines?_append hlists hleaves, tables?_append name lists hleaves]
  rfl

/-! ## Numbers that are too large -/

mutual
/-- The numbers in a document, in the order of the file. -/
def numbers : Document → List Int
  | .integer n => [n]
  | .list items => numbersOfItems items
  | .record entries => numbersOfEntries entries
  | _ => []

/-- `numbers` for the items of a list. -/
def numbersOfItems : List Document → List Int
  | [] => []
  | item :: items => numbers item ++ numbersOfItems items

/-- `numbers` for the entries of a record. -/
def numbersOfEntries : List (String × Document) → List Int
  | [] => []
  | (_, value) :: entries => numbers value ++ numbersOfEntries entries
end

/-- Every number can be written. -/
def AllFit (ns : List Int) : Prop := ∀ n ∈ ns, n ≤ maxInteger

theorem allFit_append {ns ms : List Int} : AllFit (ns ++ ms) ↔ AllFit ns ∧ AllFit ms :=
  List.forall_mem_append

theorem numbersOfEntries_append : ∀ es fs : List (String × Document),
    numbersOfEntries (es ++ fs) = numbersOfEntries es ++ numbersOfEntries fs
  | [], fs => by rw [numbersOfEntries]; rfl
  | (_, value) :: es, fs => by
    rw [List.cons_append, numbersOfEntries, numbersOfEntries, numbersOfEntries_append es fs,
      List.append_assoc]

/-- Two texts together are there if both are. -/
theorem isSome_bind_bind {α β γ : Type} (x : Option α) (y : Option β) (f : α → β → γ) :
    (x.bind fun a => y.bind fun b => some (f a b)).isSome = true ↔
      x.isSome = true ∧ y.isSome = true := by
  cases x with
  | none => simp
  | some a => cases y <;> simp

theorem isSome_leaf? {d : Document} (hd : IsLeaf d) :
    (leaf? d).isSome = true ↔ AllFit (numbers d) := by
  cases hd with
  | bool b => cases b <;> simp [leaf?, numbers, AllFit]
  | integer n => simp [leaf?, numbers, AllFit]
  | text s => simp [leaf?, numbers, AllFit]
  | empty => simp [leaf?, numbers, numbersOfItems, AllFit]

theorem isSome_lines? : ∀ {leaves : List (String × Document)}, (∀ e ∈ leaves, IsLeaf e.2) →
    ((lines? leaves).isSome = true ↔ AllFit (numbersOfEntries leaves))
  | [], _ => by simp [lines?, numbersOfEntries, AllFit]
  | (key, d) :: leaves, h => by
    have hd : IsLeaf d := h (key, d) List.mem_cons_self
    rw [lines?_cons hd, isSome_bind_bind, line?, Option.isSome_map, isSome_leaf? hd,
      isSome_lines? fun e he => h e (List.mem_cons_of_mem _ he), numbersOfEntries, allFit_append]

theorem isSome_records? (header : List Char) : ∀ {items : List Document},
    (∀ d ∈ items, IsRecord d) →
    ((records? header items).isSome = true ↔ AllFit (numbersOfItems items))
  | [], _ => by simp [records?, numbersOfItems, AllFit]
  | item :: items, h => by
    have ih := isSome_records? header fun d hd => h d (List.mem_cons_of_mem _ hd)
    cases h item List.mem_cons_self with
    | mk hleaf _ _ =>
      rw [records?, numbersOfItems, numbers, allFit_append, ← isSome_lines? hleaf, ← ih]
      exact isSome_bind_bind _ _ _

theorem isSome_tables? (name : String) : ∀ {lists : List (String × Document)},
    (∀ e ∈ lists, IsRecords e.2) →
    ((tables? name lists).isSome = true ↔ AllFit (numbersOfEntries lists))
  | [], _ => by simp [tables?, numbersOfEntries, AllFit]
  | (key, d) :: lists, h => by
    have ih := isSome_tables? name fun e he => h e (List.mem_cons_of_mem _ he)
    cases (h (key, d) List.mem_cons_self : IsRecords d) with
    | mk hrecords =>
      rw [tables?, numbersOfEntries, numbers, allFit_append, ← ih,
        ← isSome_records? ("[[".toList ++ name.toList ++ ['.'] ++ key.toList ++ "]]\n".toList)
          hrecords]
      exact isSome_bind_bind _ _ _

theorem isSome_section? (name : String) {d : Document} (hd : IsSection d) :
    (section? name d).isSome = true ↔ AllFit (numbers d) := by
  cases hd with
  | mk hleaf hlist _ _ =>
    rw [section?_eq name hleaf hlist, numbers, numbersOfEntries_append, allFit_append,
      ← isSome_lines? hleaf, ← isSome_tables? name hlist]
    exact isSome_bind_bind _ _ _

/-- **Sections have a text** unless one of their numbers is too large. -/
theorem isSome_sections? : ∀ {sections : List (String × Document)},
    (∀ e ∈ sections, IsSection e.2) →
    ((sections? sections).isSome = true ↔ AllFit (numbersOfEntries sections))
  | [], _ => by simp [sections?, numbersOfEntries, AllFit]
  | [(name, d)], h => by
    rw [sections?, isSome_section? name (h (name, d) List.mem_cons_self), numbersOfEntries,
      numbersOfEntries, List.append_nil]
  | (name, d) :: next :: sections, h => by
    have ih := isSome_sections? fun e he => h e (List.mem_cons_of_mem _ he)
    rw [sections?, numbersOfEntries, allFit_append, ← ih,
      ← isSome_section? name (h (name, d) List.mem_cons_self)]
    · exact isSome_bind_bind _ _ _
    · exact fun e => List.cons_ne_nil _ _ e

/-! ## Reading it back -/

open Table (Reaches)

/-- The table with leaves behind its entries. -/
def Table.addLeaves (t : Table) : List (String × Document) → Table
  | [] => t
  | (key, d) :: leaves => (t.snoc key (.value d)).addLeaves leaves

namespace Table

theorem keys_addLeaves : ∀ (leaves : List (String × Document)) (t : Table),
    (t.addLeaves leaves).keys = t.keys ++ leaves.map Prod.fst
  | [], t => (List.append_nil _).symm
  | (key, d) :: leaves, t => by
    rw [addLeaves, keys_addLeaves leaves, keys_snoc, List.append_assoc]
    rfl

theorem entriesToDocument_append : ∀ es fs : List (String × Item),
    entriesToDocument (es ++ fs) = entriesToDocument es ++ entriesToDocument fs
  | [], fs => by rw [entriesToDocument]; rfl
  | (key, item) :: es, fs => by
    rw [List.cons_append, entriesToDocument, entriesToDocument, entriesToDocument_append es fs]
    rfl

theorem documents_snoc (t : Table) (key : String) (item : Item) :
    entriesToDocument (t.snoc key item).entries =
      entriesToDocument t.entries ++ [(key, itemToDocument item)] := by
  rw [entries_snoc, entriesToDocument_append, entriesToDocument, entriesToDocument]

theorem documents_addLeaves : ∀ (leaves : List (String × Document)) (t : Table),
    entriesToDocument (t.addLeaves leaves).entries = entriesToDocument t.entries ++ leaves
  | [], t => (List.append_nil _).symm
  | (key, d) :: leaves, t => by
    rw [addLeaves, documents_addLeaves leaves, documents_snoc, itemToDocument, List.append_assoc]
    rfl

theorem toDocument_eq (t : Table) : t.toDocument = .record (entriesToDocument t.entries) := by
  cases t
  rw [toDocument, entries]

end Table

variable {path : List String} {plug : Table → Table}

/-- **The lines of leaves** lead where the leaves stand behind the entries of the open table. -/
theorem leads_lines (hp : Reaches path plug) : ∀ {leaves : List (String × Document)} {t : Table}
    {text : List Char}, (∀ e ∈ leaves, IsLeaf e.2) → BareKeys (leaves.map Prod.fst) →
    (t.keys ++ leaves.map Prod.fst).Nodup → t.dotted = false → lines? leaves = some text →
    Leads ⟨plug t, path⟩ text ⟨plug (t.addLeaves leaves), path⟩
  | [], t, _, _, _, _, _, h => by
    cases h
    exact Leads.refl _
  | (key, d) :: leaves, t, _, hleaf, hbare, hnodup, hdotted, h => by
    have hd : IsLeaf d := hleaf (key, d) List.mem_cons_self
    rw [lines?_cons hd] at h
    obtain ⟨line, rest, hline, hrest, rfl⟩ := exists_of_bind_bind h
    have hfree : key ∉ t.keys := Table.not_mem_keys_of_nodup hnodup
    exact (leads_line (hbare key List.mem_cons_self) hd hline
        (Progress.insert?_eq hp hdotted hfree d)).trans
      (leads_lines hp (fun e he => hleaf e (List.mem_cons_of_mem _ he))
        (fun k hk => hbare k (List.mem_cons_of_mem _ hk)) (Table.nodup_keys_snoc hnodup _)
        hdotted hrest)

/-- **A list of records** leads where its records stand behind those of the list, each under the
header that adds it. -/
theorem leads_records (hp : Reaches path plug) {t : Table} {key : String} (hfree : key ∉ t.keys)
    {header : List Char}
    (hheader : ∀ p q : Progress, p.push? (path ++ [key]) = some q → Leads p header q) :
    ∀ {items : List Document} (all : List Table) (open_ : List String) {text : List Char},
      (∀ d ∈ items, IsRecord d) → records? header items = some text →
      ∃ added last, Table.tablesToDocuments added = items ∧
        Leads ⟨plug (t.withTables key all), open_⟩ text
          ⟨plug (t.withTables key (all ++ added)), last⟩
  | [], all, open_, _, _, h => by
    cases h
    refine ⟨[], open_, by rw [Table.tablesToDocuments], ?_⟩
    rw [List.append_nil]
    exact Leads.refl _
  | item :: items, all, open_, text, hitems, h => by
    cases hitems item List.mem_cons_self with
    | @mk leaves hleaf hbare hnodup =>
      rw [records?] at h
      obtain ⟨body, rest, hbody, hrest, rfl⟩ := exists_of_bind_bind h
      have hopen := (leads_blank _).trans
        (hheader _ _ (Progress.push?_eq hp hfree all open_))
      rw [Table.withTables_append] at hopen
      have hlines := leads_lines (t := Table.opened) (hp.tables hfree all) hleaf hbare hnodup rfl
        hbody
      obtain ⟨added, last, hadded, hmore⟩ := leads_records hp hfree hheader
        (all ++ [Table.opened.addLeaves leaves]) (path ++ [key])
        (fun d hd => hitems d (List.mem_cons_of_mem _ hd)) hrest
      rw [Table.withTables_append, List.append_assoc] at hmore
      refine ⟨Table.opened.addLeaves leaves :: added, last, ?_, (hopen.trans hlines).trans hmore⟩
      rw [Table.tablesToDocuments, hadded, Table.toDocument_eq, Table.documents_addLeaves]
      rfl

/-- **The lists of records of a section** lead where they stand behind its leaves. -/
theorem leads_tables {name : String} (hname : isBareKey name = true) (hp : Reaches [name] plug) :
    ∀ {lists : List (String × Document)} {t : Table} (open_ : List String) {text : List Char},
      (∀ e ∈ lists, IsRecords e.2) → BareKeys (lists.map Prod.fst) →
      (t.keys ++ lists.map Prod.fst).Nodup → tables? name lists = some text →
      ∃ t' last, Leads ⟨plug t, open_⟩ text ⟨plug t', last⟩ ∧
        Table.entriesToDocument t'.entries = Table.entriesToDocument t.entries ++ lists
  | [], t, open_, _, _, _, _, h => by
    cases h
    exact ⟨t, open_, Leads.refl _, (List.append_nil _).symm⟩
  | (key, d) :: lists, t, open_, text, hlists, hbare, hnodup, h => by
    have hkey : isBareKey key = true := hbare key List.mem_cons_self
    have hfree : key ∉ t.keys := Table.not_mem_keys_of_nodup hnodup
    cases (hlists (key, d) List.mem_cons_self : IsRecords d) with
    | @mk first rest hrecords =>
      rw [tables?] at h
      obtain ⟨body, more, hbody, hmore, rfl⟩ := exists_of_bind_bind h
      obtain ⟨added, open', hadded, hlead⟩ := leads_records hp hfree
        (fun p q hq => leads_listHeader hname hkey hq) [] open_ hrecords hbody
      have hsnoc : t.withTables key ([] ++ added) = t.snoc key (.tables added) := by
        cases added with
        | nil =>
          rw [Table.tablesToDocuments] at hadded
          cases hadded
        | cons _ _ => rfl
      obtain ⟨t', last, hrest, hdocs⟩ := leads_tables hname hp open'
        (fun e he => hlists e (List.mem_cons_of_mem _ he))
        (fun k hk => hbare k (List.mem_cons_of_mem _ hk)) (Table.nodup_keys_snoc hnodup _) hmore
      rw [hsnoc] at hlead
      refine ⟨t', last, hlead.trans hrest, ?_⟩
      rw [hdocs, Table.documents_snoc, Table.itemToDocument, hadded, List.append_assoc]
      rfl

/-- **A section** leads where it stands behind the sections that are there. -/
theorem leads_section {name : String} {d : Document} {root : Table} {text : List Char}
    (hname : isBareKey name = true) (hd : IsSection d) (hfree : name ∉ root.keys)
    (h : section? name d = some text) (open_ : List String) :
    ∃ t last, Leads ⟨root, open_⟩ text ⟨root.snoc name (.table t), last⟩ ∧ t.toDocument = d := by
  cases hd with
  | @mk leaves lists hleaf hlist hbare hnodup =>
    rw [section?_eq name hleaf hlist] at h
    obtain ⟨body, tables, hbody, htables, rfl⟩ := exists_of_bind_bind h
    have hp : Reaches [name] fun inner => root.snoc name (.table inner) :=
      Table.reaches_root.table hfree
    rw [List.map_append] at hbare hnodup
    have hlines := leads_lines (t := Table.opened) hp hleaf
      (fun k hk => hbare k (List.mem_append_left _ hk)) (List.nodup_append.1 hnodup).1 rfl hbody
    have hkeys : ((Table.opened.addLeaves leaves).keys ++ lists.map Prod.fst).Nodup := by
      rw [Table.keys_addLeaves]
      exact hnodup
    obtain ⟨t, last, hlists, hdocs⟩ := leads_tables hname hp [name] hlist
      (fun k hk => hbare k (List.mem_append_right _ hk)) hkeys htables
    refine ⟨t, last, ?_, ?_⟩
    · exact ((leads_header hname (Progress.open?_eq hfree open_)).trans hlines).trans hlists
    · rw [Table.toDocument_eq, hdocs, Table.documents_addLeaves]
      rfl

/-- **Sections** lead where they stand behind each other. -/
theorem leads_sections : ∀ {sections : List (String × Document)} {root : Table}
    (open_ : List String) {text : List Char}, BareKeys (sections.map Prod.fst) →
    (∀ e ∈ sections, IsSection e.2) → (root.keys ++ sections.map Prod.fst).Nodup →
    sections? sections = some text →
    ∃ q, Leads ⟨root, open_⟩ text q ∧
      Table.entriesToDocument q.root.entries = Table.entriesToDocument root.entries ++ sections
  | [], root, open_, _, _, _, _, h => by
    cases h
    exact ⟨⟨root, open_⟩, Leads.refl _, (List.append_nil _).symm⟩
  | [(name, d)], root, open_, _, hbare, hsection, hnodup, h => by
    have hfree : name ∉ root.keys := Table.not_mem_keys_of_nodup hnodup
    obtain ⟨t, last, hlead, ht⟩ := leads_section (hbare name List.mem_cons_self)
      (hsection (name, d) List.mem_cons_self) hfree h open_
    refine ⟨_, hlead, ?_⟩
    rw [Table.documents_snoc, Table.itemToDocument, ht]
  | (name, d) :: next :: sections, root, open_, _, hbare, hsection, hnodup, h => by
    have hfree : name ∉ root.keys := Table.not_mem_keys_of_nodup hnodup
    rw [sections?] at h
    · obtain ⟨text, rest, htext, hrest, rfl⟩ := exists_of_bind_bind h
      obtain ⟨t, last, hlead, ht⟩ := leads_section (hbare name List.mem_cons_self)
        (hsection (name, d) List.mem_cons_self) hfree htext open_
      obtain ⟨q, hq, hdocs⟩ := leads_sections last
        (fun k hk => hbare k (List.mem_cons_of_mem _ hk))
        (fun e he => hsection e (List.mem_cons_of_mem _ he)) (Table.nodup_keys_snoc hnodup _) hrest
      refine ⟨q, (hlead.trans (leads_blank _)).trans hq, ?_⟩
      rw [hdocs, Table.documents_snoc, Table.itemToDocument, ht, List.append_assoc]
      rfl
    · exact fun e => List.cons_ne_nil _ _ e

/-- A text of sections is empty or starts with a header. -/
theorem head_sections? {sections : List (String × Document)} {text : List Char}
    (h : sections? sections = some text) : text = [] ∨ ∃ rest, text = '[' :: rest := by
  have hhead : ∀ {name : String} {d : Document} {text : List Char}, section? name d = some text →
      ∃ rest, text = '[' :: rest := by
    intro name d text h
    unfold section? at h
    split at h
    · obtain ⟨body, tables, -, -, rfl⟩ := exists_of_bind_bind h
      exact ⟨_, rfl⟩
    · cases h
  unfold sections? at h
  split at h
  · cases h
    exact Or.inl rfl
  · exact Or.inr (hhead h)
  · obtain ⟨text, rest, htext, -, rfl⟩ := exists_of_bind_bind h
    obtain ⟨_, rfl⟩ := hhead htext
    exact Or.inr ⟨_, rfl⟩

/-- **Sections are read back from their text.** -/
theorem read?_write? {sections : List (String × Document)} {text : String}
    (hbare : BareKeys (sections.map Prod.fst)) (hsection : ∀ e ∈ sections, IsSection e.2)
    (hnodup : (sections.map Prod.fst).Nodup) (h : write? sections = some text) :
    read? text = some (.record sections) := by
  obtain ⟨cs, hcs, rfl⟩ := Option.map_eq_some_iff.1 h
  have hmark : dropMark cs = cs := by
    rcases head_sections? hcs with rfl | ⟨rest, rfl⟩
    · rfl
    · rfl
  have hkeys : (Table.root.keys ++ sections.map Prod.fst).Nodup := hnodup
  obtain ⟨q, hq, hdocs⟩ := leads_sections [] hbare hsection hkeys hcs
  rw [read?, String.toList_ofList, hmark, hq.readLines, Option.map_some, Table.toDocument_eq, hdocs]
  rfl

end EtcdKit.Toml
