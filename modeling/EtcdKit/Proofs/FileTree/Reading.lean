import EtcdKit.FileTree
import Mathlib.Data.List.TakeWhile
/-!
# Reading — what a path leads to in a tree of files

The extension of a path is that of its last name (`pathExtension?_eq_some_iff`).

A path is followed part by part.  What keeps a part from being followed is known from the place in front
of it alone (`Blocked`), and the first part that is kept from it decides what comes of the path.  If there
is none (`passable_or_blocked`), then the text at the last place is read (`readText_eq_iff`).
-/
namespace EtcdKit

/-! ## Extensions -/

theorem exists_last_dot {name : String} (h : '.' ∈ name.toList) :
    ∃ stem extension, name = stem ++ "." ++ extension ∧ '.' ∉ extension.toList := by
  -- the last dot is the first one from the end
  obtain ⟨behind, front, hreverse, hbehind⟩ := List.eq_append_cons_of_mem (List.mem_reverse.2 h)
  refine ⟨String.ofList front.reverse, String.ofList behind.reverse, ?_, ?_⟩
  · have hname := congrArg List.reverse hreverse
    rw [List.reverse_reverse, List.reverse_append, List.reverse_cons] at hname
    apply String.toList_inj.1
    rw [hname]
    simp
  · rw [String.toList_ofList, List.mem_reverse]
    exact hbehind

theorem extensionOf?_append {extension : String} (h : '.' ∉ extension.toList) (stem : String) :
    extensionOf? (stem ++ "." ++ extension) = if stem = "" then none else some extension := by
  have hreverse : (stem ++ "." ++ extension).toList.reverse =
      extension.toList.reverse ++ '.' :: stem.toList.reverse := by simp
  have hafter : (stem ++ "." ++ extension).toList.reverse.takeWhile (· != '.') =
      extension.toList.reverse := by
    rw [hreverse, List.takeWhile_append_of_pos, List.takeWhile_cons]
    · simp
    · intro c hc
      rw [bne_iff_ne]
      rintro rfl
      exact h (List.mem_reverse.1 hc)
  have hlength : (stem ++ "." ++ extension).toList.length =
      stem.toList.length + 1 + extension.toList.length := by
    rw [String.toList_append, String.toList_append, List.length_append, List.length_append]
    rfl
  unfold extensionOf?
  simp only [hafter, List.reverse_reverse, String.ofList_toList, hlength]
  by_cases hstem : stem = ""
  · rw [if_pos hstem, if_pos]
    rw [hstem]
    simp only [String.toList_empty, List.length_nil]
    omega
  · have hpositive : 0 < stem.toList.length := by
      rw [List.length_pos_iff]
      exact fun hnil => hstem (String.toList_inj.1 hnil)
    rw [if_neg hstem, if_neg]
    omega

theorem extensionOf?_of_not_mem {name : String} (h : '.' ∉ name.toList) :
    extensionOf? name = none := by
  have hafter : name.toList.reverse.takeWhile (· != '.') = name.toList.reverse := by
    rw [List.takeWhile_eq_self_iff]
    intro c hc
    rw [bne_iff_ne]
    rintro rfl
    exact h (List.mem_reverse.1 hc)
  unfold extensionOf?
  simp only [hafter, List.reverse_reverse]
  rw [if_pos (Nat.le_add_right _ _)]

theorem extensionOf?_eq_some_iff {name extension : String} :
    extensionOf? name = some extension ↔
      ∃ stem, stem ≠ "" ∧ name = stem ++ "." ++ extension ∧ '.' ∉ extension.toList := by
  constructor
  · intro h
    by_cases hdot : '.' ∈ name.toList
    · obtain ⟨stem, behind, rfl, hbehind⟩ := exists_last_dot hdot
      rw [extensionOf?_append hbehind] at h
      split at h
      · cases h
      · rename_i hstem
        obtain rfl := Option.some.inj h
        exact ⟨stem, hstem, rfl, hbehind⟩
    · rw [extensionOf?_of_not_mem hdot] at h
      cases h
  · rintro ⟨stem, hstem, rfl, hbehind⟩
    rw [extensionOf?_append hbehind, if_neg hstem]

/-- A part of a path that names something. -/
def IsName (part : String) : Prop := part ≠ "" ∧ part ≠ "." ∧ part ≠ ".."

/-- The last part of a path that is neither empty nor a dot is a name. -/
def HasLastName (path name : String) : Prop :=
  ∃ front back, pathParts path = front ++ name :: back ∧ (∀ part ∈ back, part = "" ∨ part = ".") ∧
    IsName name

/-- The last name of a path holds a dot that is not its first character, and the extension stands behind
the last one. -/
def HasExtension (path extension : String) : Prop :=
  ∃ name, HasLastName path name ∧
    ∃ stem, stem ≠ "" ∧ name = stem ++ "." ++ extension ∧ '.' ∉ extension.toList

theorem getLast?_filter_eq_some_iff {α : Type} {kept : α → Bool} {l : List α} {a : α} :
    (l.filter kept).getLast? = some a ↔
      kept a = true ∧ ∃ front back, l = front ++ a :: back ∧ ∀ b ∈ back, kept b = false := by
  rw [List.getLast?_filter, List.find?_eq_some_iff_append]
  refine and_congr_right fun _ => ?_
  constructor
  · rintro ⟨back, front, hreverse, hback⟩
    refine ⟨front.reverse, back.reverse, ?_, fun b hb => ?_⟩
    · rw [← List.reverse_inj, hreverse]
      simp
    · exact Bool.not_eq_true' _ ▸ hback b (List.mem_reverse.1 hb)
  · rintro ⟨front, back, rfl, hback⟩
    refine ⟨back.reverse, front.reverse, by simp, fun b hb => ?_⟩
    rw [hback b (List.mem_reverse.1 hb)]
    rfl

theorem fileName?_eq_some_iff {path name : String} :
    fileName? path = some name ↔ HasLastName path name := by
  have hlast : (namingParts path).getLast? = some name ↔
      (name ≠ "" ∧ name ≠ ".") ∧ ∃ front back, pathParts path = front ++ name :: back ∧
        ∀ part ∈ back, part = "" ∨ part = "." := by
    unfold namingParts
    rw [getLast?_filter_eq_some_iff]
    simp [← or_iff_not_imp_left]
  have hname : fileName? path = some name ↔
      (namingParts path).getLast? = some name ∧ name ≠ ".." := by
    unfold fileName?
    split
    · rename_i hfound
      simp [hfound]
    · rename_i hfound
      rw [hfound, Option.some.injEq]
      exact ⟨(nomatch ·), fun h => absurd h.1.symm h.2⟩
    · rename_i last hother hfound
      rw [hfound, Option.some.injEq]
      exact ⟨fun h => ⟨h, fun hparent => hother (h.trans hparent)⟩, And.left⟩
  rw [hname, hlast]
  constructor
  · rintro ⟨⟨⟨hempty, hdot⟩, front, back, hparts, hback⟩, hparent⟩
    exact ⟨front, back, hparts, hback, hempty, hdot, hparent⟩
  · rintro ⟨front, back, hparts, hback, hempty, hdot, hparent⟩
    exact ⟨⟨⟨hempty, hdot⟩, front, back, hparts, hback⟩, hparent⟩

theorem pathExtension?_eq_some_iff {path extension : String} :
    pathExtension? path = some extension ↔ HasExtension path extension := by
  unfold pathExtension? HasExtension
  rw [Option.bind_eq_some_iff]
  simp only [fileName?_eq_some_iff, extensionOf?_eq_some_iff]

/-- Neither what stands behind the last name nor a dot in front of it makes a difference. -/
example : pathExtension? "a.d/b.c.yml/./" = some "yml" ∧ pathExtension? "a.d/.yml" = none := by decide

namespace FileTree

/-! ## Following a path -/

/-- Where a part leads from a place; outside of the working directory there is none. -/
def stepPlace : Option (List String) → String → Option (List String)
  | none, _ => none
  | some place, part =>
    if part = "" ∨ part = "." then some place
    else if part = ".." then if place = [] then none else some place.dropLast
    else some (place ++ [part])

/-- What keeps a part from being followed at a place. -/
inductive Blocked (t : FileTree) : Option (List String) → String → Fault → Prop
  | nothing {place part} (h : t.at? place = none) : Blocked t (some place) part .missing
  | file {place part content} (h : t.at? place = some content) (hfile : content ≠ .directory) :
    Blocked t (some place) part .notDirectory
  | longName {place part} (hplace : ∀ p, place = some p → t.at? p = some .directory)
    (hname : IsName part) (hlong : 255 < part.utf8ByteSize) : Blocked t place part .nameTooLong
  | outside {part} (hname : IsName part) (hshort : part.utf8ByteSize ≤ 255) :
    Blocked t none part .missing

section Walk

variable {t : FileTree} {place : Option (List String)} {part : String} {fault : Fault}

theorem follow_of_blocked (h : Blocked t place part fault) (parts : List String) :
    t.follow place (part :: parts) = .error fault := by
  cases h with
  | nothing h => rw [follow, h]
  | @file place part content h hfile =>
    rw [follow, h]
    cases content with
    | directory => exact absurd rfl hfile
    | text => rfl
    | bytes => rfl
  | longName hplace hname hlong =>
    obtain ⟨hempty, hdot, hparent⟩ := hname
    have hlong : isTooLong part = true := decide_eq_true hlong
    cases place with
    | none => simp [follow, hempty, hdot, hparent, hlong]
    | some p => simp [follow, hplace p rfl, hempty, hdot, hparent, hlong]
  | outside hname hshort =>
    obtain ⟨hempty, hdot, hparent⟩ := hname
    have hshort : isTooLong part = false := decide_eq_false (Nat.not_lt.2 hshort)
    simp [follow, hempty, hdot, hparent, hshort]

theorem follow_of_not_blocked (h : ∀ fault, ¬ Blocked t place part fault) (parts : List String) :
    t.follow place (part :: parts) = t.follow (stepPlace place part) parts := by
  cases place with
  | none =>
    by_cases hname : IsName part
    · by_cases hlong : 255 < part.utf8ByteSize
      · exact absurd (.longName (by simp) hname hlong) (h _)
      · exact absurd (.outside hname (Nat.not_lt.1 hlong)) (h _)
    · simp only [IsName, not_and_or, not_not] at hname
      rw [follow, if_pos hname]
      rfl
  | some p =>
    cases hp : t.at? p with
    | none => exact absurd (.nothing hp) (h _)
    | some content =>
      by_cases hdir : content = .directory
      -- in a directory, nothing but its length keeps a name from being followed
      · subst hdir
        have hlong : IsName part → isTooLong part = false := fun hname => by
          refine decide_eq_false fun hlong => h _ (.longName ?_ hname hlong)
          rintro q hq
          obtain rfl := Option.some.inj hq
          exact hp
        rw [follow, hp]
        unfold stepPlace
        by_cases hsame : part = "" ∨ part = "."
        · simp only [if_pos hsame]
        · by_cases hparent : part = ".."
          · simp only [if_neg hsame, if_pos hparent, List.isEmpty_iff]
          · obtain ⟨hempty, hdot⟩ := not_or.1 hsame
            have hname : IsName part := ⟨hempty, hdot, hparent⟩
            simp only [if_neg hsame, if_neg hparent, hlong hname, Bool.false_eq_true, if_false]
      · exact absurd (.file hp hdir) (h _)

/-! ## The first part that is not followed -/

/-- Where the parts of a path lead. -/
def placeAfter (place : Option (List String)) (parts : List String) : Option (List String) :=
  parts.foldl stepPlace place

/-- Nothing keeps any part from being followed. -/
def Passable (t : FileTree) (place : Option (List String)) (parts : List String) : Prop :=
  ∀ before part after, parts = before ++ part :: after →
    ∀ fault, ¬ Blocked t (placeAfter place before) part fault

theorem passable_nil (t : FileTree) (place : Option (List String)) : t.Passable place [] := by
  intro before part after hparts
  cases before <;> cases hparts

theorem passable_cons_iff {parts : List String} : t.Passable place (part :: parts) ↔
    (∀ fault, ¬ Blocked t place part fault) ∧ t.Passable (stepPlace place part) parts := by
  constructor
  · intro h
    refine ⟨h [] part parts rfl, fun before p after hparts => ?_⟩
    exact h (part :: before) p after (hparts ▸ rfl)
  · rintro ⟨hpart, hrest⟩ before p after hparts
    cases before with
    | nil =>
      obtain ⟨rfl, rfl⟩ := List.cons.inj hparts
      exact hpart
    | cons q before =>
      obtain ⟨rfl, rfl⟩ := List.cons.inj hparts
      exact hrest before p after rfl

/-- **Parts that pass lead to their place**, whatever stands behind them. -/
theorem follow_append : ∀ {parts : List String} {place : Option (List String)},
    t.Passable place parts → ∀ rest, t.follow place (parts ++ rest) =
      t.follow (placeAfter place parts) rest
  | [], _, _, _ => rfl
  | part :: parts, place, h, rest => by
    obtain ⟨hpart, hrest⟩ := passable_cons_iff.1 h
    rw [List.cons_append, follow_of_not_blocked hpart, follow_append hrest rest]
    rfl

/-- All parts pass, or there is a first one that does not. -/
theorem passable_or_blocked (t : FileTree) : ∀ (parts : List String)
    (place : Option (List String)), t.Passable place parts ∨ ∃ before part after fault,
      parts = before ++ part :: after ∧ t.Passable place before ∧
        Blocked t (placeAfter place before) part fault
  | [], place => .inl (t.passable_nil place)
  | part :: parts, place => by
    by_cases hpart : ∃ fault, Blocked t place part fault
    -- nothing stands before the first part, so a blocked one is the first
    · obtain ⟨fault, hfault⟩ := hpart
      exact .inr ⟨[], part, parts, fault, rfl, t.passable_nil place, hfault⟩
    · rw [not_exists] at hpart
      rcases passable_or_blocked t parts (stepPlace place part) with
        hrest | ⟨before, p, after, fault, rfl, hbefore, hfault⟩
      · exact .inl (passable_cons_iff.2 ⟨hpart, hrest⟩)
      · exact .inr ⟨part :: before, p, after, fault, rfl, passable_cons_iff.2 ⟨hpart, hbefore⟩, hfault⟩

end Walk

/-! ## The text at a path -/

/-- The error of a path that is not followed to its end. -/
def Fault.error (path : String) : Fault → Error
  | .missing => .profileNotFound path
  | .notDirectory => .file .notDirectory
  | .nameTooLong => .file .nameTooLong

/-- The path is followed to its end, which is this place. -/
structure Ends (t : FileTree) (path : String) (place : Option (List String)) : Prop where
  short : path.utf8ByteSize ≤ 4095
  passable : t.Passable (some []) (pathParts path)
  last : placeAfter (some []) (pathParts path) = place

/-- What comes of reading the file at a path from the working directory. -/
inductive Reads (t : FileTree) (path : String) : Except Error String → Prop
  | longPath (h : 4095 < path.utf8ByteSize) : Reads t path (.error (.file .nameTooLong))
  | stopped {before part after fault} (hshort : path.utf8ByteSize ≤ 4095)
    (hparts : pathParts path = before ++ part :: after) (hbefore : t.Passable (some []) before)
    (hpart : Blocked t (placeAfter (some []) before) part fault) :
    Reads t path (.error (fault.error path))
  | missing {place} (h : t.Ends path (some place)) (hplace : t.at? place = none) :
    Reads t path (.error (.profileNotFound path))
  | directory {place} (h : t.Ends path place)
    (hplace : ∀ p, place = some p → t.at? p = some .directory) :
    Reads t path (.error (.file .isDirectory))
  | text {place content} (h : t.Ends path (some place))
    (hplace : t.at? place = some (.text content)) : Reads t path (.ok content)
  | decoded {place bytes content} (h : t.Ends path (some place))
    (hplace : t.at? place = some (.bytes bytes)) (hbytes : content.toUTF8 = ⟨bytes.toArray⟩) :
    Reads t path (.ok content)
  | undecoded {place bytes} (h : t.Ends path (some place))
    (hplace : t.at? place = some (.bytes bytes))
    (hbytes : ∀ content : String, content.toUTF8 ≠ ⟨bytes.toArray⟩) :
    Reads t path (.error (.file .notText))

theorem fromUTF8?_eq_some_iff {bytes : ByteArray} {content : String} :
    String.fromUTF8? bytes = some content ↔ content.toUTF8 = bytes := by
  unfold String.fromUTF8?
  constructor
  · intro h
    split at h
    · obtain rfl := Option.some.inj h
      rfl
    · cases h
  · rintro rfl
    exact dif_pos content.isValidUTF8

theorem exists_reads (t : FileTree) (path : String) : ∃ r, t.Reads path r := by
  by_cases hlong : 4095 < path.utf8ByteSize
  · exact ⟨_, .longPath hlong⟩
  have hshort := Nat.not_lt.1 hlong
  rcases t.passable_or_blocked (pathParts path) (some []) with
    hpass | ⟨before, part, after, fault, hparts, hbefore, hpart⟩
  · have hends : t.Ends path _ := ⟨hshort, hpass, rfl⟩
    cases hplace : placeAfter (some []) (pathParts path) with
    | none =>
      rw [hplace] at hends
      exact ⟨_, .directory hends (by simp)⟩
    | some place =>
      rw [hplace] at hends
      cases hat : t.at? place with
      | none => exact ⟨_, .missing hends hat⟩
      | some content =>
        cases content with
        | directory => exact ⟨_, .directory hends (by simp [hat])⟩
        | text content => exact ⟨_, .text hends hat⟩
        | bytes bytes =>
          by_cases hbytes : ∃ content : String, content.toUTF8 = ⟨bytes.toArray⟩
          · obtain ⟨content, hcontent⟩ := hbytes
            exact ⟨_, .decoded hends hat hcontent⟩
          · exact ⟨_, .undecoded hends hat (not_exists.1 hbytes)⟩
  · exact ⟨_, .stopped hshort hparts hbefore hpart⟩

theorem Ends.follow_eq {t : FileTree} {path : String} {place : Option (List String)}
    (h : t.Ends path place) : t.follow (some []) (pathParts path) = .ok place := by
  have hfollow := follow_append h.passable []
  rwa [List.append_nil, h.last, follow] at hfollow

section Relative

variable {t : FileTree} {path : String} (hzero : '\x00' ∉ path.toList)
  (hrelative : path.toList.head? ≠ some '/')
include hzero hrelative

theorem Reads.readText_eq {r : Except Error String} (h : t.Reads path r) : t.readText path = r := by
  have hstart : startOf path = some [] := if_neg hrelative
  have hcontains : ¬ path.toList.contains '\x00' = true := by
    rw [List.contains_iff_mem]
    exact hzero
  have hlimit (hshort : path.utf8ByteSize ≤ 4095) : ¬ pathLimit < path.utf8ByteSize :=
    Nat.not_lt.2 hshort
  unfold readText
  rw [if_neg hcontains, hstart]
  cases h with
  | longPath hlong => exact if_pos hlong
  | @stopped before part after fault hshort hparts hbefore hpart =>
    rw [if_neg (hlimit hshort), hparts, follow_append hbefore, follow_of_blocked hpart]
    cases fault <;> rfl
  | missing hend hplace =>
    rw [if_neg (hlimit hend.short), hend.follow_eq]
    simp only [hplace]
  | @directory place hend hplace =>
    rw [if_neg (hlimit hend.short), hend.follow_eq]
    cases place with
    | none => rfl
    | some place => simp only [hplace place rfl]
  | text hend hplace =>
    rw [if_neg (hlimit hend.short), hend.follow_eq]
    simp only [hplace]
  | decoded hend hplace hbytes =>
    rw [if_neg (hlimit hend.short), hend.follow_eq]
    simp only [hplace, fromUTF8?_eq_some_iff.2 hbytes]
  | @undecoded place bytes hend hplace hbytes =>
    have hnone : String.fromUTF8? ⟨bytes.toArray⟩ = none := by
      rw [Option.eq_none_iff_forall_ne_some]
      exact fun content hcontent => hbytes content (fromUTF8?_eq_some_iff.1 hcontent)
    rw [if_neg (hlimit hend.short), hend.follow_eq]
    simp only [hplace, hnone]

/-- **What comes of reading a file**: exactly one of these cases holds. -/
theorem readText_eq_iff {r : Except Error String} : t.readText path = r ↔ t.Reads path r := by
  refine ⟨fun h => ?_, fun h => h.readText_eq hzero hrelative⟩
  obtain ⟨s, hs⟩ := t.exists_reads path
  rw [hs.readText_eq hzero hrelative] at h
  rwa [h] at hs

end Relative

end FileTree
end EtcdKit
