import EtcdKit.Proofs.Text.Splitting
import EtcdKit.Url.Parser
/-!
# Segments — no slash stands in a segment of an address

The text of a path puts a slash before every segment, so it tells the segments apart if no slash stands in
one.  Reading an address sees to that: a path is taken apart at its slashes, dot segments and drives bring
none in, and an escape is made of a percent sign and two digits (`slashless_of_parse`).
-/
namespace EtcdKit.Url

open EtcdKit.Text (hexDigitUpper)

def Slashless (parts : List String) : Prop := ∀ part ∈ parts, '/' ∉ part.toList

theorem Slashless.append {parts more : List String} (hparts : Slashless parts)
    (hmore : Slashless more) : Slashless (parts ++ more) :=
  List.forall_mem_append.2 ⟨hparts, hmore⟩

theorem slashless_nil : Slashless [] := fun _ h => absurd h List.not_mem_nil

theorem slashless_singleton {part : String} (h : '/' ∉ part.toList) : Slashless [part] :=
  List.forall_mem_singleton.2 h

/-! ## Escapes -/

theorem slash_not_mem_escapeByte : ∀ n < 256, '/' ∉ escapeByte n := by decide +kernel

theorem slash_not_mem_escapeChar (set : Char → Bool) {c : Char} (h : '/' ≠ c) :
    '/' ∉ escapeChar set c := by
  unfold escapeChar
  split
  · intro hmem
    obtain ⟨b, -, hb⟩ := List.mem_flatMap.1 hmem
    exact slash_not_mem_escapeByte _ b.toNat_lt hb
  · split
    · exact slash_not_mem_escapeByte _ (by omega)
    · exact fun hmem => h (List.mem_singleton.1 hmem)

theorem slash_not_mem_escape (set : Char → Bool) {cs : List Char} (h : '/' ∉ cs) :
    '/' ∉ (escape set cs).toList := by
  rw [escape, String.toList_ofList]
  intro hmem
  obtain ⟨c, hc, hescaped⟩ := List.mem_flatMap.1 hmem
  exact slash_not_mem_escapeChar set (fun e => h (e ▸ hc)) hescaped

theorem slash_not_mem_joinLines {cs : List Char} (h : '/' ∉ cs) : '/' ∉ joinLines cs :=
  fun hmem => h (List.mem_of_mem_filter hmem)

/-! ## Paths -/

theorem slash_ne_of_isAlpha {c : Char} (h : c.isAlpha = true) : '/' ≠ c := by
  rintro rfl
  exact absurd h (by decide)

/-- What a line break parts from a drive are characters of the segment, and so is the drive. -/
theorem slash_not_mem_behindBrokenDrive {segment drive behind : List Char} (h : '/' ∉ segment)
    (hdrive : behindBrokenDrive? segment = some (drive, behind)) : '/' ∉ drive ∧ '/' ∉ behind := by
  unfold behindBrokenDrive? at hdrive
  split at hdrive
  · rename_i letter rest hfront
    split at hdrive
    · rename_i text hmark
      have hrest : text <:+ segment := by
        have hletter : rest <:+ segment :=
          (List.suffix_cons letter rest).trans (hfront ▸ List.dropWhile_suffix _)
        have hcolon : text <:+ rest := (List.suffix_cons ':' text).trans (hmark ▸ List.dropWhile_suffix _)
        exact hcolon.trans hletter
      dsimp only at hdrive
      split at hdrive
      · rename_i hall
        cases hdrive
        simp only [Bool.and_eq_true] at hall
        refine ⟨?_, slash_not_mem_joinLines fun hmem => h (hrest.subset hmem)⟩
        have hletter := slash_ne_of_isAlpha hall.1.1
        simpa using hletter
      · cases hdrive
    · cases hdrive
  · cases hdrive

namespace Trail

theorem slashless_up {t : Trail} (h : Slashless t.closed) : Slashless t.up.closed := by
  unfold up
  split
  · exact h
  · exact fun part hpart => h part (List.dropLast_subset _ hpart)

theorem slashless_push (file : Bool) {t : Trail} (h : Slashless t.closed) {segment : List Char}
    (hsegment : '/' ∉ segment) : Slashless (t.push file segment).closed := by
  have htext := slash_not_mem_joinLines hsegment
  have hescaped := slash_not_mem_escape inPathSet htext
  unfold push
  dsimp only
  split
  · rename_i drive behind _ _ hdrive
    obtain ⟨hletter, hbehind⟩ := slash_not_mem_behindBrokenDrive hsegment hdrive
    refine (slashless_singleton ?_).append (slashless_singleton (slash_not_mem_escape _ hbehind))
    rwa [String.toList_ofList]
  · rename_i letter mark _ _ _
    split
    · rename_i hdrive
      have hletter : letter.isAlpha = true := (Bool.and_eq_true_iff.1 hdrive).1
      have hslash := slash_ne_of_isAlpha hletter
      exact slashless_singleton (by simpa using hslash)
    · exact slashless_singleton hescaped
  · exact h.append (slashless_singleton hescaped)

theorem slashless_close (file : Bool) {t : Trail} (h : Slashless t.closed) {segment : List Char}
    (hsegment : '/' ∉ segment) : Slashless (t.close file segment).closed := by
  unfold close
  dsimp only
  split
  · exact slashless_up h
  · split
    · exact h
    · exact slashless_push file h hsegment

theorem slashless_finish (file : Bool) {t : Trail} (h : Slashless t.closed) {segment : List Char}
    (hsegment : '/' ∉ segment) : Slashless (t.finish file segment).closed := by
  have hempty : Slashless [""] := slashless_singleton (by decide)
  unfold finish
  dsimp only
  split
  · exact (slashless_up h).append hempty
  · split
    · exact h.append hempty
    · exact slashless_push file h hsegment

theorem slashless_follow (file : Bool) : ∀ {segments : List (List Char)} {t : Trail},
    Slashless t.closed → (∀ segment ∈ segments, '/' ∉ segment) →
      Slashless (t.follow file segments).closed
  | [], t, h, _ => h
  | [last], t, h, hsegments => slashless_finish file h (hsegments last List.mem_cons_self)
  | segment :: next :: segments, t, h, hsegments => by
    obtain ⟨hfirst, hrest⟩ := List.forall_mem_cons.1 hsegments
    change Slashless ((t.close file segment).follow file (next :: segments)).closed
    exact slashless_follow file (slashless_close file h hfirst) hrest

theorem slashless_of (lenient file : Bool) (cs : List Char) :
    Slashless (Trail.of lenient file cs).closed := by
  refine slashless_follow file slashless_nil fun segment hsegment hmem => ?_
  have hslash := Text.not_of_mem_splitOnP (isSlash lenient) cs segment hsegment '/' hmem
  exact absurd hslash (by cases lenient <;> decide)

end Trail

theorem slashless_dropEmptyFront {parts : List String} (h : Slashless parts) :
    Slashless (dropEmptyFront parts) := by
  fun_induction dropEmptyFront parts with
  | case1 next rest ih => exact ih fun part hpart => h part (List.mem_cons_of_mem _ hpart)
  | case2 parts => exact h

/-! ## Addresses -/

/-- No slash stands in a segment of the path, if it starts at a root. -/
def Path.Slashless : Path → Prop
  | .rootless _ => True
  | .segments parts => Url.Slashless parts

theorem slashless_pathAfterAuthority (web : Bool) (cs : List Char) :
    (pathAfterAuthority web cs).Slashless := by
  unfold pathAfterAuthority
  split
  · split
    · exact slashless_singleton (by decide)
    · exact slashless_nil
  · exact Trail.slashless_of _ _ _

theorem slashless_withAuthority {scheme : String} {t : Tail} {cs : List Char} {u : Url}
    (h : withAuthority? scheme t cs = some u) : u.path.Slashless := by
  unfold withAuthority? at h
  obtain ⟨⟨authority, behind⟩, -, hu⟩ := Option.bind_eq_some_iff.1 h
  cases hu
  exact slashless_pathAfterAuthority _ _

theorem slashless_fileAt (t : Tail) (host : Host) (lenient : Bool) (cs : List Char) :
    (fileAt t host (Trail.of lenient true cs)).path.Slashless :=
  slashless_dropEmptyFront (Trail.slashless_of lenient true cs)

theorem slashless_file {t : Tail} {u : Url} (h : file? t = some u) : u.path.Slashless := by
  unfold file? at h
  dsimp only at h
  split at h
  · cases h
    exact slashless_fileAt _ _ _ _
  · split at h
    · cases h
      exact slashless_fileAt _ _ _ _
    · split at h
      · cases h
        exact slashless_fileAt _ _ _ _
      · obtain ⟨host, -, rfl⟩ := Option.map_eq_some_iff.1 h
        split <;> exact slashless_fileAt _ _ _ _

/-- **No slash stands in a segment of an address that was read.** -/
theorem slashless_of_parse {text : String} {u : Url} (h : parse? text = some u) :
    u.path.Slashless := by
  unfold parse? at h
  obtain ⟨⟨scheme, rest⟩, -, h⟩ := Option.bind_eq_some_iff.1 h
  dsimp only at h
  split at h
  · exact slashless_file h
  · split at h
    · exact slashless_withAuthority h
    · split at h
      · exact slashless_withAuthority h
      · cases h
        exact Trail.slashless_of _ _ _
      · cases h
        trivial

end EtcdKit.Url
