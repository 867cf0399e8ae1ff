import EtcdKit.Directory
/-!
# Stripping — a directory that is stripped again

One separator is taken from the end of a directory.  Another one is left behind only where two stood
there, and the root keeps its own, so a directory is stripped once for all unless it ends with two
separators and is more than these (`strip_strip_iff`).
-/
namespace EtcdKit.Directory

theorem toList_separator : "/".toList = ['/'] := rfl

theorem length_separator : "/".length = 1 := rfl

theorem dropSeparator_append (dir : String) : dropSeparator (dir ++ "/") = dir := by
  have hrev : (dir ++ "/").toList.reverse = '/' :: dir.toList.reverse := by simp
  unfold dropSeparator
  rw [hrev]
  simp

theorem dropSeparator_of_ne {dir : String} (h : ∀ x, dir ≠ x ++ "/") : dropSeparator dir = dir := by
  unfold dropSeparator
  split
  · rename_i front hrev
    refine absurd ?_ (h (String.ofList front.reverse))
    apply String.toList_inj.1
    rw [← List.reverse_reverse dir.toList, hrev]
    simp
  · rfl

theorem append_separator_inj {a b : String} : a ++ "/" = b ++ "/" ↔ a = b :=
  String.append_left_inj _

theorem strip_root : strip "/" = "/" := rfl

theorem strip_append_separator {dir : String} (h : dir ≠ "") : strip (dir ++ "/") = dir := by
  have hroot : dir ++ "/" ≠ root := by
    intro he
    exact h (append_separator_inj.1 (he.trans (by decide : root = "" ++ "/")))
  rw [strip, if_neg hroot, dropSeparator_append]

theorem strip_of_ne {dir : String} (h : ∀ x, dir ≠ x ++ "/") : strip dir = dir := by
  have hroot : dir ≠ root := fun he => h "" (he.trans (by decide))
  rw [strip, if_neg hroot, dropSeparator_of_ne h]

/-- A directory stays as it is unless a separator ends it that is not the root. -/
theorem strip_eq_self_iff {dir : String} : strip dir = dir ↔ ∀ x, x ≠ "" → dir ≠ x ++ "/" := by
  constructor
  · rintro hself x hx rfl
    rw [strip_append_separator hx] at hself
    have hlength := congrArg String.length hself
    rw [String.length_append, length_separator] at hlength
    omega
  · intro h
    by_cases hroot : dir = root
    · rw [hroot]
      exact strip_root
    · refine strip_of_ne fun x he => ?_
      by_cases hx : x = ""
      · rw [hx] at he
        exact hroot he
      · exact h x hx he

/-- Two separators end the directory, and something stands in front of them. -/
def Doubled (dir : String) : Prop := ∃ x, x ≠ "" ∧ dir = x ++ "//"

theorem doubled_append_separator_iff {dir : String} :
    Doubled (dir ++ "/") ↔ ∃ x, x ≠ "" ∧ dir = x ++ "/" := by
  have hpair : ∀ x : String, x ++ "//" = x ++ "/" ++ "/" := fun x => by
    rw [String.append_assoc]
    rfl
  unfold Doubled
  simp only [hpair, append_separator_inj]

/-- **Stripping again changes nothing**, except where a doubled separator ends the directory. -/
theorem strip_strip_iff (dir : String) : strip (strip dir) = strip dir ↔ ¬ Doubled dir := by
  by_cases hend : ∃ x, dir = x ++ "/"
  · obtain ⟨x, rfl⟩ := hend
    rw [doubled_append_separator_iff]
    by_cases hx : x = ""
    · rw [hx]
      simp [strip_root]
    -- one separator is gone, and the next one stays only as the root
    · rw [strip_append_separator hx, strip_eq_self_iff]
      simp only [not_exists, not_and, ne_eq]
  · have hplain : strip dir = dir := strip_of_ne fun x he => hend ⟨x, he⟩
    rw [hplain, hplain]
    refine ⟨fun _ => ?_, fun _ => rfl⟩
    rintro ⟨x, -, rfl⟩
    refine hend ⟨x ++ "/", ?_⟩
    rw [String.append_assoc]
    rfl

end EtcdKit.Directory
