import EtcdKit.Proofs.Cluster.Endpoints
import EtcdKit.Proofs.Directory.Stripping
import EtcdKit.Proofs.Script.QuietTexts
import EtcdKit.Target
/-!
# Executables — one path for a program where it is started and where it is installed

The daemon is started, and its members are asked for their health, by programs in the directory of the
cluster, which is stripped once there.  The scripts that install these programs strip it once more before
they show their versions.  The paths are the same unless a doubled separator ends the directory
(`executable_strip_iff`), and in a directory that doubles no separator the path of a program doubles none
(`not_doubles_executable`).
-/
namespace EtcdKit
namespace Directory

theorem strip_eq_of_doubled {dir : String} (h : Doubled dir) :
    ∃ x, x ≠ "" ∧ dir = x ++ "//" ∧ strip dir = x ++ "/" ∧ strip (strip dir) = x := by
  obtain ⟨x, hx, rfl⟩ := h
  have hpair : x ++ "//" = x ++ "/" ++ "/" := by
    rw [String.append_assoc]
    rfl
  have honce : strip (x ++ "//") = x ++ "/" := by
    rw [hpair]
    exact strip_append_separator (by simp)
  exact ⟨x, hx, rfl, honce, by rw [honce, strip_append_separator hx]⟩

/-- **A program has the same path in a directory that was stripped before**, except where a doubled
separator ends the directory. -/
theorem executable_strip_iff (dir program : String) :
    executable dir program = executable (strip dir) program ↔ ¬ Doubled dir := by
  constructor
  · intro hsame hdoubled
    obtain ⟨x, hx, -, honce, htwice⟩ := strip_eq_of_doubled hdoubled
    have hroot : x ++ "/" ≠ root := fun he => hx (append_separator_inj.1 (he.trans (by decide)))
    have hstarted : executable dir program = x ++ "/" ++ "/" ++ program := by
      rw [executable, honce, divider, if_neg hroot]
    have hshown : executable (strip dir) program = x ++ divider x ++ program := by
      rw [executable, htwice]
    -- a divider is at most one separator, and two of them stand in the other path
    have hdivider : (divider x).length ≤ 1 := by
      unfold divider
      split <;> decide
    have hlength := congrArg String.length (hstarted.symm.trans (hsame.trans hshown))
    simp only [String.length_append, length_separator] at hlength
    omega
  · intro hplain
    rw [executable, executable, (strip_strip_iff dir).2 hplain]

/-! ## The path of a program -/

/-- Two separators stand next to each other. -/
def Doubles (path : String) : Prop := "//".toList <:+: path.toList

instance (path : String) : Decidable (Doubles path) :=
  inferInstanceAs (Decidable ("//".toList <:+: path.toList))

/-- What stands before the separator of a program: the directory without a separator at its end. -/
def IsFront (front dir : String) : Prop :=
  dir = front ++ "/" ∨ dir = front ∧ ∀ x, dir ≠ x ++ "/"

theorem isFront_dropSeparator (dir : String) : IsFront (dropSeparator dir) dir := by
  by_cases hend : ∃ x, dir = x ++ "/"
  · obtain ⟨x, rfl⟩ := hend
    rw [dropSeparator_append]
    exact .inl rfl
  · have hplain : ∀ x, dir ≠ x ++ "/" := fun x he => hend ⟨x, he⟩
    rw [dropSeparator_of_ne hplain]
    exact .inr ⟨rfl, hplain⟩

theorem IsFront.eq_empty {front dir : String} (h : IsFront front dir) (hdir : dir = "/" ∨ dir = "") :
    front = "" := by
  rcases hdir with rfl | rfl
  · rcases h with h | ⟨-, h⟩
    · exact (append_separator_inj.1 (h.symm.trans (by decide : "/" = "" ++ "/")))
    · exact absurd (by decide) (h "")
  · rcases h with h | ⟨h, -⟩
    · exact absurd h.symm (by simp)
    · exact h.symm

/-- A program stands behind one separator. -/
theorem executable_eq {dir : String} (h : ¬ Doubles dir) (program : String) :
    executable dir program = dropSeparator dir ++ "/" ++ program := by
  by_cases hend : ∃ x, dir = x ++ "/"
  · obtain ⟨x, rfl⟩ := hend
    rw [dropSeparator_append]
    by_cases hx : x = ""
    · rw [hx]
      rfl
    · have hroot : x ≠ root := by
        rintro rfl
        exact h (by decide)
      rw [executable, strip_append_separator hx, divider, if_neg hroot]
  · have hplain : ∀ x, dir ≠ x ++ "/" := fun x he => hend ⟨x, he⟩
    have hroot : dir ≠ root := fun he => hplain "" (he.trans (by decide))
    rw [executable, strip_of_ne hplain, dropSeparator_of_ne hplain, divider, if_neg hroot]

theorem IsFront.not_doubles {front dir : String} (h : IsFront front dir) (hdir : ¬ Doubles dir) :
    ¬ Doubles front ∧ front.toList.getLast? ≠ some '/' := by
  rcases h with rfl | ⟨rfl, hplain⟩
  · unfold Doubles at hdir
    rw [String.toList_append, toList_separator] at hdir
    obtain ⟨hfront, -, hjoint⟩ := Text.not_pair_infix_append_iff.1 hdir
    exact ⟨hfront, fun hlast => hjoint ⟨hlast, rfl⟩⟩
  · refine ⟨hdir, fun hlast => ?_⟩
    obtain ⟨x, hx⟩ := List.getLast?_eq_some_iff.1 hlast
    refine hplain (String.ofList x) (String.toList_inj.1 ?_)
    rw [hx, String.toList_append, String.toList_ofList]
    rfl

/-- **The path of a program doubles no separator** if its directory doubles none. -/
theorem not_doubles_executable {dir program : String} (hdir : ¬ Doubles dir)
    (hprogram : '/' ∉ program.toList) : ¬ Doubles (executable dir program) := by
  obtain ⟨hfront, hlast⟩ := (isFront_dropSeparator dir).not_doubles hdir
  rw [executable_eq hdir]
  unfold Doubles
  rw [String.toList_append, String.toList_append, toList_separator]
  -- one separator stands between a front that does not end with one and a program that has none
  refine Text.not_pair_infix_append_iff.2
    ⟨Text.not_pair_infix_append_iff.2 ⟨hfront, by decide, fun h => hlast h.1⟩, ?_, ?_⟩
  · exact fun h => hprogram (h.subset List.mem_cons_self)
  · exact fun h => hprogram (List.mem_of_head? h.2)

end Directory

/-! ## Where the programs are named -/

open Script

theorem Install.exists_copyPrograms_eq (source dir : String) : ∃ front, Whole front ∧
    copyPrograms source dir = front ++ lines [Directory.executable dir "etcd" ++ " --version",
      Directory.executable dir "etcdctl" ++ " --version", ""] := by
  refine ⟨localHint "cp" source dir "" ++ lines ["sudo cp " ++ source ++ " " ++ dir, ""],
    (whole_localHint _ _ _ _).append (whole_lines _), ?_⟩
  rw [String.append_assoc, ← lines_append]
  rfl

/-- Every installation ends with the versions of the programs in the stripped directory. -/
theorem Target.exists_installText_eq (p : Profile) (origin : InstallSource) :
    ∃ front, Whole front ∧ installText p origin = front ++
      lines [Directory.executable (Directory.strip p.cluster.execDir) "etcd" ++ " --version",
        Directory.executable (Directory.strip p.cluster.execDir) "etcdctl" ++ " --version", ""] := by
  obtain ⟨before, source, hbefore, htext⟩ : ∃ before source, Whole before ∧
      installText p origin =
        before ++ Install.copyPrograms source (Directory.strip p.cluster.execDir) := by
    cases origin with
    | linux | mac => exact ⟨_, _, (whole_lines _).append (whole_lines _), rfl⟩
    | source => exact ⟨_, _, whole_lines _, rfl⟩
  obtain ⟨front, hfront, hcopy⟩ :=
    Install.exists_copyPrograms_eq source (Directory.strip p.cluster.execDir)
  refine ⟨before ++ front, hbefore.append hfront, ?_⟩
  rw [htext, hcopy, String.append_assoc]

/-- The paths by which a profile names the daemon and its client: where they are run, and where an
installation shows their versions. -/
structure NamesPrograms (p : Profile) (daemon client shownDaemon shownClient : String) : Prop where
  started : ∀ n s, Daemon.command p.cluster n s = daemon ++ " " ++ Daemon.flagsText p.cluster n s
  asked : ∀ n, Daemon.health p.cluster n false =
    command (("ETCDCTL_API=3 " ++ client) :: Daemon.healthArguments p.cluster n n.certsPath)
  /-- The check inside a container follows the one on the host. -/
  askedFirst : ∀ n, ∃ rest,
    Daemon.health p.cluster n true = Daemon.health p.cluster n false ++ rest
  shown : ∀ origin, ∃ front, Whole front ∧ Target.installText p origin =
    front ++ lines [shownDaemon ++ " --version", shownClient ++ " --version", ""]

theorem Profile.namesPrograms (p : Profile) :
    NamesPrograms p (Directory.executable p.cluster.execDir "etcd")
      (Directory.executable p.cluster.execDir "etcdctl")
      (Directory.executable (Directory.strip p.cluster.execDir) "etcd")
      (Directory.executable (Directory.strip p.cluster.execDir) "etcdctl") where
  started _ _ := rfl
  asked _ := rfl
  askedFirst n := by
    obtain ⟨hhost, hcontainer⟩ := Daemon.health_eq p.cluster n
    rw [hhost, hcontainer, String.append_assoc, String.append_assoc]
    exact ⟨_, rfl⟩
  shown := Target.exists_installText_eq p

/-- **The programs that run are those that were installed**, unless a doubled separator ends the directory
of the cluster: exactly then it is not stripped once for all, and a program has another path where it is
run than where an installation shows its version.  In a directory that doubles no separator the path of a
program doubles none, and the program stands in it behind the directory without a separator at its end. -/
theorem Directory.programs_agree_iff_not_doubled (dir : String) :
    (strip (strip dir) = strip dir ↔ ¬ Doubled dir) ∧
    (∀ p : Profile, p.cluster.execDir = dir →
      NamesPrograms p (executable dir "etcd") (executable dir "etcdctl")
        (executable (strip dir) "etcd") (executable (strip dir) "etcdctl")) ∧
    (∀ program, executable dir program = executable (strip dir) program ↔ ¬ Doubled dir) ∧
    ∀ program : String, ¬ Doubles dir → '/' ∉ program.toList →
      ¬ Doubles (executable dir program) ∧
      ∃ front, executable dir program = front ++ "/" ++ program ∧ IsFront front dir ∧
        (dir = "/" ∨ dir = "" → front = "") := by
  refine ⟨strip_strip_iff dir, ?_, executable_strip_iff dir, fun program hdir hprogram => ?_⟩
  · rintro p rfl
    exact p.namesPrograms
  · have hfront := isFront_dropSeparator dir
    exact ⟨not_doubles_executable hdir hprogram, dropSeparator dir, executable_eq hdir program, hfront,
      hfront.eq_empty⟩

/-- The sample profile with its programs in that directory. -/
def Sample.installedIn (dir : String) : Profile :=
  { profile with cluster := { cluster with execDir := dir } }

/-- Two separators in front of the directory's end do no harm to what is installed. -/
theorem Directory.nested_programs_agree :
    (Sample.installedIn "a//b/").cluster.execDir = "a//b/" ∧
      NamesPrograms (Sample.installedIn "a//b/") "a//b/etcd" "a//b/etcdctl" "a//b/etcd" "a//b/etcdctl" ∧
    (¬ Doubles "/a b/" ∧ '/' ∉ "etcdctl".toList) ∧
      ¬ Doubles (executable "/a b/" "etcdctl") ∧ executable "/a b/" "etcdctl" = "/a b/etcdctl" := by
  obtain ⟨-, hplaces, -, -⟩ := programs_agree_iff_not_doubled "a//b/"
  obtain ⟨-, -, -, hpath⟩ := programs_agree_iff_not_doubled "/a b/"
  have hdir : ¬ Doubles "/a b/" := by decide
  have hname : '/' ∉ "etcdctl".toList := by decide
  have hnamed := hplaces (Sample.installedIn "a//b/") rfl
  exact ⟨rfl, hnamed, ⟨hdir, hname⟩, (hpath "etcdctl" hdir hname).1, by decide⟩

end EtcdKit
