import EtcdKit.Toml.Reader
/-!
# Tables — new entries go behind the entries that are there

An entry under a free key is put behind the entries of its table (`set_of_not_mem`), and a path to
the entry that was put last changes that entry only (`Reaches`).  A section and its lists of records
are written one after the other, so every header and every key of a file that was written is one of
these two.
-/
namespace EtcdKit.Toml

namespace Table

/-- The keys of a table, in the order of the file. -/
def keys (t : Table) : List String := t.entries.map Prod.fst

/-- The table with an entry behind its entries. -/
def snoc (t : Table) (key : String) (item : Item) : Table :=
  t.withEntries (t.entries ++ [(key, item)])

theorem entries_snoc (t : Table) (key : String) (item : Item) :
    (t.snoc key item).entries = t.entries ++ [(key, item)] := rfl

theorem keys_snoc (t : Table) (key : String) (item : Item) :
    (t.snoc key item).keys = t.keys ++ [key] := by
  rw [keys, entries_snoc, List.map_append]
  rfl

/-! ## One table -/

theorem setEntry_of_not_mem {key : String} (item : Item) : ∀ {entries : List (String × Item)},
    key ∉ entries.map Prod.fst → setEntry key item entries = entries ++ [(key, item)]
  | [], _ => rfl
  | (k, old) :: entries, h => by
    rw [List.map_cons, List.mem_cons, not_or] at h
    rw [setEntry, if_neg fun e => h.1 e.symm, setEntry_of_not_mem item h.2]
    rfl

theorem setEntry_last {key : String} (old item : Item) : ∀ {entries : List (String × Item)},
    key ∉ entries.map Prod.fst →
      setEntry key item (entries ++ [(key, old)]) = entries ++ [(key, item)]
  | [], _ => by rw [List.nil_append, setEntry, if_pos rfl]; rfl
  | (k, other) :: entries, h => by
    rw [List.map_cons, List.mem_cons, not_or] at h
    rw [List.cons_append, setEntry, if_neg fun e => h.1 e.symm, setEntry_last old item h.2]
    rfl

variable {t : Table} {key : String}

theorem find?_entries_of_not_mem (h : key ∉ t.keys) :
    t.entries.find? (fun e => e.1 == key) = none := by
  refine List.find?_eq_none.2 fun e he hk => h ?_
  exact List.mem_map.2 ⟨e, he, beq_iff_eq.1 hk⟩

theorem get?_of_not_mem (h : key ∉ t.keys) : t.get? key = none := by
  rw [get?, find?_entries_of_not_mem h]
  rfl

theorem get?_snoc (h : key ∉ t.keys) (item : Item) : (t.snoc key item).get? key = some item := by
  rw [get?, entries_snoc, List.find?_append, find?_entries_of_not_mem h, List.find?_cons_of_pos]
  · rfl
  · exact beq_self_eq_true key

theorem set_of_not_mem (h : key ∉ t.keys) (item : Item) : t.set key item = t.snoc key item := by
  rw [set, setEntry_of_not_mem item h]
  rfl

theorem set_snoc (h : key ∉ t.keys) (old item : Item) :
    (t.snoc key old).set key item = t.snoc key item := by
  rw [set, entries_snoc, setEntry_last old item h]
  rfl

/-- A key that differs from those of a table is free. -/
theorem not_mem_keys_of_nodup {others : List String} (h : (t.keys ++ key :: others).Nodup) :
    key ∉ t.keys := fun hm =>
  (List.nodup_append.1 h).2.2 key hm key List.mem_cons_self rfl

/-- Keys that differ from those of a table differ from those of the table with the first of them. -/
theorem nodup_keys_snoc {others : List String} (h : (t.keys ++ key :: others).Nodup)
    (item : Item) : ((t.snoc key item).keys ++ others).Nodup := by
  rw [keys_snoc, List.append_assoc]
  exact h

theorem unsnoc?_append {α : Type} (last : α) : ∀ front : List α,
    unsnoc? (front ++ [last]) = some (front, last)
  | [] => rfl
  | [first] => rfl
  | first :: second :: front => by
    have ih := unsnoc?_append last (second :: front)
    rw [List.cons_append] at ih
    rw [List.cons_append, List.cons_append, unsnoc?, ih]
    · rfl
    · exact fun e => List.cons_ne_nil _ _ e

/-! ## Paths -/

/-- A path in two parts changes what its second part names in what its first part names. -/
theorem update_append (viaDots : Bool) (change : Table → Option Table) (q : List String) :
    ∀ (p : List String) (t : Table),
      update viaDots change (p ++ q) t = update viaDots (update viaDots change q) p t
  | [], t => by rw [List.nil_append, update]
  | key :: p, t => by
    rw [List.cons_append, update, update]
    simp only [update_append viaDots change q p]

/-- A path leads to a place in a whole: a change of what stands there changes nothing else. -/
def Reaches (path : List String) (plug : Table → Table) : Prop :=
  ∀ change t, update false change path (plug t) = (change t).map plug

/-- The empty path leads to the root. -/
theorem reaches_root : Reaches [] id := fun change t => by
  rw [update, Option.map_id]
  rfl

/-- **A path leads on to the table that was put last.** -/
theorem Reaches.table {path : List String} {plug : Table → Table} (hp : Reaches path plug)
    (h : key ∉ t.keys) :
    Reaches (path ++ [key]) fun inner => plug (t.snoc key (.table inner)) := by
  intro change inner
  rw [update_append, hp, update, get?_snoc h]
  simp only [Bool.false_and, Bool.false_eq_true, if_false, update, set_snoc h, Option.map_map]
  rfl

/-- **A path leads on to the last table of the list that was put last.** -/
theorem Reaches.tables {path : List String} {plug : Table → Table} (hp : Reaches path plug)
    (h : key ∉ t.keys) (front : List Table) :
    Reaches (path ++ [key]) fun last => plug (t.snoc key (.tables (front ++ [last]))) := by
  intro change last
  rw [update_append, hp, update, get?_snoc h]
  simp only [unsnoc?_append, update, set_snoc h, Option.map_map]
  rfl

/-- The table with a list of tables behind its entries, if the list has any. -/
def withTables (t : Table) (key : String) : List Table → Table
  | [] => t
  | first :: rest => t.snoc key (.tables (first :: rest))

theorem withTables_append (t : Table) (key : String) (front : List Table) (last : Table) :
    t.withTables key (front ++ [last]) = t.snoc key (.tables (front ++ [last])) := by
  cases front with
  | nil => rfl
  | cons first rest => rfl

/-- A record goes behind the records of its list, the first one behind the entries of the table. -/
theorem pushTable_withTables (h : key ∉ t.keys) (all : List Table) :
    pushTable key (t.withTables key all) = some (t.withTables key (all ++ [opened])) := by
  cases all with
  | nil =>
    change pushTable key t = some (t.snoc key (.tables [opened]))
    rw [pushTable, get?_of_not_mem h]
    simp only [set_of_not_mem h]
  | cons first rest =>
    change pushTable key (t.snoc key (.tables (first :: rest))) = _
    rw [pushTable, get?_snoc h, withTables_append]
    simp only [set_snoc h]

end Table

/-! ## Progress -/

namespace Progress

open Table (Reaches)

variable {t : Table} {key : String} {path : List String} {plug : Table → Table}

/-- **A value goes behind the entries of the open table.** -/
theorem insert?_eq (hp : Reaches path plug) (hd : t.dotted = false) (h : key ∉ t.keys)
    (value : Document) :
    insert? ⟨plug t, path⟩ [key] value = some ⟨plug (t.snoc key (.value value)), path⟩ := by
  have hinsert : Table.insertDotted [] key value t = some (t.snoc key (.value value)) := by
    rw [Table.insertDotted, Table.update, Table.insertValue, Table.get?_of_not_mem h,
      Table.set_of_not_mem h, hd]
    rfl
  change ((plug t).update false (Table.insertDotted [] key value) path).map _ = _
  rw [hp, hinsert]
  rfl

/-- **A section is opened behind the sections that are there.** -/
theorem open?_eq (h : key ∉ t.keys) (p : List String) :
    open? ⟨t, p⟩ [key] = some ⟨t.snoc key (.table Table.opened), [key]⟩ := by
  change (Table.update false (Table.openTable key) [] t).map _ = _
  rw [Table.update, Table.openTable, Table.get?_of_not_mem h, Table.set_of_not_mem h]
  rfl

/-- **A record is added behind the records of its list.** -/
theorem push?_eq (hp : Reaches path plug) (h : key ∉ t.keys) (all : List Table) (p : List String) :
    push? ⟨plug (t.withTables key all), p⟩ (path ++ [key]) =
      some ⟨plug (t.withTables key (all ++ [Table.opened])), path ++ [key]⟩ := by
  rw [push?, List.getLast?_concat, List.dropLast_concat]
  simp only [hp _ _, Table.pushTable_withTables h, Option.map_some]

end Progress
end EtcdKit.Toml
