import EtcdKit.Proofs.FileTree.Reading
import EtcdKit.Proofs.Profile.Loading
/-!
# Files — the profile at a path

The extension of a path decides before the file is looked for, then what comes of reading the file, then
the format that the extension stands for (`Loads`).  A name or a path that is too long is a fault of its
own, whether or not something stands there.
-/
namespace EtcdKit
namespace Profile

def extensions : List String := ["toml", "yaml", "yml"]

/-- What comes of loading the profile at a path, or that of no path. -/
inductive Loads (t : FileTree) : Option String → Except Error Profile → Prop
  | sample : Loads t none (.ok Sample.profile)
  | unsupported {path} (h : ∀ extension ∈ extensions, ¬ HasExtension path extension) :
    Loads t (some path) (.error (.unsupportedFormat path))
  | unread {path extension e} (h : HasExtension path extension) (hsupported : extension ∈ extensions)
    (hread : t.Reads path (.error e)) : Loads t (some path) (.error e)
  | toml {path text} (h : HasExtension path "toml") (hread : t.Reads path (.ok text)) :
    Loads t (some path) (parseToml text)
  | yaml {path extension text} (h : HasExtension path extension)
    (hyaml : extension = "yaml" ∨ extension = "yml") (hread : t.Reads path (.ok text)) :
    Loads t (some path) (parseYaml text)

theorem readerFor?_eq_none {extension : Option String}
    (h : ∀ e ∈ extensions, extension ≠ some e) : readerFor? extension = none := by
  unfold readerFor?
  split
  · exact absurd rfl (h "toml" (by decide))
  · exact absurd rfl (h "yaml" (by decide))
  · exact absurd rfl (h "yml" (by decide))
  · rfl

theorem exists_readerFor? {extension : String} (h : extension ∈ extensions) :
    ∃ read, readerFor? (some extension) = some read := by
  simp only [extensions, List.mem_cons, List.not_mem_nil, or_false] at h
  rcases h with rfl | rfl | rfl <;> exact ⟨_, rfl⟩

theorem load_of_extension {readText : String → Except Error String} {path extension : String}
    {read : String → Except Error Profile} (h : HasExtension path extension)
    (hread : readerFor? (some extension) = some read) :
    load readText (some path) =
      match readText path with
      | .ok text => read text
      | .error e => .error e := by
  rw [← pathExtension?_eq_some_iff.2 h] at hread
  cases htext : readText path with
  | ok text => simp only [load, loadFile, hread, htext]
  | error e => simp only [load, loadFile, hread, htext]

section Relative

variable {t : FileTree} {path : Option String}
  (h : ∀ p, path = some p → '\x00' ∉ p.toList ∧ p.toList.head? ≠ some '/')
include h

theorem reads_iff {p : String} (hp : path = some p) {r : Except Error String} :
    t.readText p = r ↔ t.Reads p r :=
  FileTree.readText_eq_iff (h p hp).1 (h p hp).2

theorem Loads.load_eq {r : Except Error Profile} (hr : Loads t path r) : load t.readText path = r := by
  cases hr with
  | sample => rfl
  | unsupported hnone =>
    have hread := readerFor?_eq_none fun extension he hpath =>
      hnone extension he (pathExtension?_eq_some_iff.1 hpath)
    simp only [load, loadFile, hread]
  | unread hext hsupported hread =>
    obtain ⟨read, hreader⟩ := exists_readerFor? hsupported
    rw [load_of_extension hext hreader, (reads_iff h rfl).2 hread]
  | toml hext hread => rw [load_of_extension hext rfl, (reads_iff h rfl).2 hread]
  | yaml hext hyaml hread =>
    rcases hyaml with rfl | rfl
    all_goals rw [load_of_extension hext rfl, (reads_iff h rfl).2 hread]

theorem exists_loads : ∃ r, Loads t path r := by
  cases path with
  | none => exact ⟨_, .sample⟩
  | some p =>
    by_cases hsupported : ∃ extension ∈ extensions, HasExtension p extension
    · obtain ⟨extension, hsupported, hext⟩ := hsupported
      cases htext : t.readText p with
      | error e => exact ⟨_, .unread hext hsupported ((reads_iff h rfl).1 htext)⟩
      | ok text =>
        have hread := (reads_iff h rfl).1 htext
        rcases List.mem_cons.1 hsupported with rfl | hyaml
        · exact ⟨_, .toml hext hread⟩
        · exact ⟨_, .yaml hext (by simpa using hyaml) hread⟩
    · exact ⟨_, .unsupported fun extension he hext => hsupported ⟨extension, he, hext⟩⟩

/-- **The profile at a path.**  For a path from the working directory, exactly one of the cases of `Loads`
holds, and every profile that is loaded is valid: unless its cluster is too large, its members are as many
of its nodes as the size asks for, with different names. -/
theorem load_eq_iff_loads :
    (∀ r, load t.readText path = r ↔ Loads t path r) ∧
      ∀ p, load t.readText path = .ok p → p.validate = .ok () ∧
        (p.cluster.size.toNat ≤ 7 →
          p.cluster.members = p.cluster.nodes.take (max p.cluster.size.toNat 1) ∧
          p.cluster.members.length = max p.cluster.size.toNat 1 ∧
          (p.cluster.members.map (·.name)).Nodup) := by
  refine ⟨fun r => ⟨fun hr => ?_, Loads.load_eq h⟩, fun p hp => ?_⟩
  -- one of the cases holds, and each of them says what is loaded
  · obtain ⟨s, hs⟩ := exists_loads (t := t) h
    rw [hs.load_eq h] at hr
    rwa [hr] at hs
  · have hvalid := validate_of_load hp
    obtain ⟨hcluster, -⟩ := (validate_eq_ok_iff p).1 hvalid
    refine ⟨hvalid, fun hsize => ?_⟩
    obtain ⟨hmembers, henough⟩ := Cluster.members_eq_take hcluster hsize
    refine ⟨hmembers, ?_, Cluster.nodup_names_members hcluster⟩
    rw [hmembers, List.length_take, Nat.min_eq_left henough]

end Relative

def smallTree : FileTree := .ofList [("etc/a.toml", .text "")]

theorem load_file_as_directory :
    (∀ p, some "etc/./a.toml/" = some p → '\x00' ∉ p.toList ∧ p.toList.head? ≠ some '/') ∧
      Loads smallTree (some "etc/./a.toml/") (.error (.file .notDirectory)) := by
  have hpath : ∀ p, some "etc/./a.toml/" = some p →
      '\x00' ∉ p.toList ∧ p.toList.head? ≠ some '/' := by
    rintro p hp
    obtain rfl := Option.some.inj hp
    decide
  exact ⟨hpath, ((load_eq_iff_loads hpath).1 _).1 rfl⟩

def repeatedName (n : Nat) : String := String.ofList (List.replicate n 'a') ++ ".toml"

theorem utf8ByteSize_repeatedName (n : Nat) : (repeatedName n).utf8ByteSize = n + 5 := by
  have hfront : (String.ofList (List.replicate n 'a')).utf8ByteSize = n := by
    induction n with
    | zero => rfl
    | succ n ih =>
      rw [List.replicate_succ, String.ofList_cons, String.utf8ByteSize_append, ih,
        String.utf8ByteSize_singleton]
      exact Nat.add_comm 1 n
  unfold repeatedName
  rw [String.utf8ByteSize_append, hfront]
  rfl

theorem not_mem_repeatedName {c : Char} (h : c ∉ ['a', '.', 't', 'o', 'm', 'l']) (n : Nat) :
    c ∉ (repeatedName n).toList := by
  unfold repeatedName
  simp only [List.mem_cons, List.not_mem_nil, or_false, not_or] at h
  simp [h]

theorem pathParts_repeatedName (n : Nat) : pathParts (repeatedName n) = [repeatedName n] := by
  unfold pathParts
  rw [List.splitOn_eq_singleton (not_mem_repeatedName (by decide) n), List.map_singleton,
    String.ofList_toList]

theorem isName_repeatedName (n : Nat) : IsName (repeatedName n) := by
  have hlast : (repeatedName n).toList.getLast? = some 'l' := by
    unfold repeatedName
    rw [String.toList_append, List.getLast?_append]
    rfl
  have hne {word : String} (hword : word.toList.getLast? ≠ some 'l') : repeatedName n ≠ word :=
    fun h => hword (h ▸ hlast)
  exact ⟨hne (by decide), hne (by decide), hne (by decide)⟩

theorem hasExtension_repeatedName {n : Nat} (h : n ≠ 0) : HasExtension (repeatedName n) "toml" := by
  refine ⟨_, ⟨[], [], pathParts_repeatedName n, by simp, isName_repeatedName n⟩,
    String.ofList (List.replicate n 'a'), ?_, ?_, by decide⟩
  · intro hempty
    have hnil := congrArg String.toList hempty
    rw [String.toList_ofList] at hnil
    exact h (by simpa using hnil)
  · unfold repeatedName
    rw [String.append_assoc]
    rfl

/-- Nothing stands in an empty tree, and a name that is too long is a fault of its own there. -/
theorem load_absent_long_name :
    '\x00' ∉ (repeatedName 300).toList ∧ (repeatedName 300).toList.head? ≠ some '/' ∧
      HasExtension (repeatedName 300) "toml" ∧
      pathParts (repeatedName 300) = [repeatedName 300] ∧
      ({} : FileTree).at? [repeatedName 300] = none ∧
      load ({} : FileTree).readText (some (repeatedName 300)) = .error (.file .nameTooLong) ∧
      load ({} : FileTree).readText (some (repeatedName 300)) ≠
        .error (.profileNotFound (repeatedName 300)) := by
  have hzero := not_mem_repeatedName (c := '\x00') (by decide) 300
  have hrelative : (repeatedName 300).toList.head? ≠ some '/' := fun hhead =>
    not_mem_repeatedName (by decide) 300 (List.mem_of_head? hhead)
  have hextension : HasExtension (repeatedName 300) "toml" := hasExtension_repeatedName (by decide)
  have hbytes := utf8ByteSize_repeatedName 300
  have hread : ({} : FileTree).Reads (repeatedName 300) (.error (.file .nameTooLong)) := by
    have hlong : FileTree.Blocked {} (some []) (repeatedName 300) .nameTooLong := by
      refine .longName ?_ (isName_repeatedName 300) (by omega)
      rintro p hp
      obtain rfl := Option.some.inj hp
      rfl
    exact .stopped (by omega) (pathParts_repeatedName 300) (FileTree.passable_nil _ _) hlong
  have hload : load ({} : FileTree).readText (some (repeatedName 300)) =
      .error (.file .nameTooLong) := by
    refine Loads.load_eq ?_ (.unread hextension (by decide) hread)
    rintro p hp
    obtain rfl := Option.some.inj hp
    exact ⟨hzero, hrelative⟩
  refine ⟨hzero, hrelative, hextension, pathParts_repeatedName 300, rfl, hload, ?_⟩
  rw [hload]
  exact nofun

end Profile
end EtcdKit
