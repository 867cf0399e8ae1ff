import EtcdKit.Proofs.CommandLine.Targets
/-!
# Rendering — what the program prints if it is asked for a text

Every target of every profile has a command line that asks for it (`read_commandLine`).  Whatever is
asked for, the stages are gone through in order: the profile is loaded, the word for how the daemon is
run is looked at, and a node is looked up.  The first that fails is reported, and if none does the text
is printed (`render_prints_or_reports`).
-/
namespace EtcdKit
namespace CommandLine

open Arguments

/-! ## A command line for every target -/

/-- The options that ask for a target. -/
def optionsFor (t : Target) : List (OptionSpec × String) :=
  (t.nodeName?.map fun n => (nodeOption, n)).toList ++
    ((t.kind?.map fun k => (kindOption, k.text)).toList ++
      (t.switches.filter (·.2)).map fun s => ({ long := s.1 }, ""))

/-- Names the profile. -/
def profileOption : OptionSpec := { long := "profile", short := some 'p', kind := .valued .someText }

/-- A command line that asks for a target of the profile at a path. -/
def commandLine (path : Option String) (t : Target) : List String :=
  (path.map fun p => written profileOption p).toList ++
    renderSpec.name :: t.word :: (optionsFor t).map fun o => written o.1 o.2

/-- What is read of that command line. -/
def givenFor (path : Option String) (t : Target) : Given where
  commands := [programName, renderSpec.name, t.word]
  options := (path.map fun p => ("profile", p)).toList ++ (optionsFor t).map fun o => (o.1.long, o.2)

theorem names_nodup (t : Target) :
    (["profile", "node", "kind"] ++ t.switches.map Prod.fst).Nodup := by
  cases t <;> simp [Target.switches]

theorem takes_optionsFor (t : Target) : ∀ o ∈ optionsFor t,
    Takes (helpOption :: sharedOptions ++ (commandOf t.word).options) o.1 o.2 := by
  have hnode : ∀ n, t.nodeName? = some n →
      Takes (helpOption :: sharedOptions ++ (commandOf t.word).options) nodeOption n := by
    intro n hn
    cases t
    case certificate | certificateCopy | certificateFiles | dataDir | flags | command | health | unit
        | control =>
      exact ⟨rfl, by decide, by decide, .inl ⟨_, rfl, rfl⟩⟩
    all_goals cases hn
  have hkind : ∀ k : UnitKind, t.kind? = some k →
      Takes (helpOption :: sharedOptions ++ (commandOf t.word).options) kindOption k.text := by
    intro k hk
    cases t
    case unit | control | guide => exact ⟨rfl, by decide, by decide, .inl ⟨_, rfl, rfl⟩⟩
    all_goals cases hk
  have hswitches : ∀ s ∈ t.switches,
      Takes (helpOption :: sharedOptions ++ (commandOf t.word).options) { long := s.1 } "" := by
    cases t
    all_goals simp only [Target.switches, List.forall_mem_cons, List.not_mem_nil, false_implies,
      implies_true, and_true]
    case install | flags | command | endpoints | health | operated | operatedHealth | guide =>
      repeat' apply And.intro
      all_goals exact ⟨rfl, by decide, by decide, .inr ⟨rfl, rfl⟩⟩
  intro o ho
  simp only [optionsFor, List.mem_append, Option.mem_toList, Option.map_eq_some_iff,
    List.mem_map, List.mem_filter] at ho
  rcases ho with ⟨n, hn, rfl⟩ | ⟨k, hk, rfl⟩ | ⟨s, ⟨hs, -⟩, rfl⟩
  · exact hnode n hn
  · exact hkind k hk
  · exact hswitches s hs

/-- No option is given twice. -/
theorem givenFor_nodup (path : Option String) (t : Target) :
    ((givenFor path t).options.map Prod.fst).Nodup := by
  have hprofile : ((path.map fun p => ("profile", p)).toList.map Prod.fst).Sublist ["profile"] := by
    cases path <;> simp
  have hnode : ((t.nodeName?.map fun n => (nodeOption, n)).toList.map (·.1.long)).Sublist
      ["node"] := by
    cases t.nodeName? <;> simp [nodeOption]
  have hkind : ((t.kind?.map fun k => (kindOption, k.text)).toList.map (·.1.long)).Sublist
      ["kind"] := by
    cases t.kind? <;> simp [kindOption]
  have hswitches : ((t.switches.filter (·.2)).map Prod.fst).Sublist (t.switches.map Prod.fst) :=
    List.filter_sublist.map _
  refine (names_nodup t).sublist ?_
  simpa [givenFor, optionsFor, Function.comp_def] using
    hprofile.append (hnode.append (hkind.append hswitches))

theorem isComplete_optionsFor (t : Target) :
    isComplete (commandOf t.word) { options := (optionsFor t).map fun o => (o.1.long, o.2) } =
      true := by
  cases t
  case install origin => cases origin <;> rfl
  all_goals rfl

/-- The profile is read, and then the word of a command. -/
theorem readLevel_profile {path : Option String} (hpath : path ≠ some "") {word : String}
    {command : CommandSpec} (hword : word.toList.head? ≠ some '-')
    (hcommand : programSpec.command? word = some command) (rest : List String) :
    readLevel programSpec (helpOption :: sharedOptions ++ programSpec.options)
      ((path.map fun p => written profileOption p).toList ++ word :: rest) {} = .ok {
        given := { options := (path.map fun p => ("profile", p)).toList }
        below := some (command, rest) } := by
  cases path with
  | none => exact readLevel_command hword hcommand _
  | some p =>
    have htakes : Takes (helpOption :: sharedOptions ++ programSpec.options) profileOption p :=
      ⟨rfl, by decide, by decide, .inl ⟨_, rfl, by simpa [ValueRule.admits] using hpath⟩⟩
    exact (readLevel_written htakes rfl _).trans (readLevel_command hword hcommand _)

/-- **Every target has a command line** that asks for it, with any node and any profile. -/
theorem read_commandLine {path : Option String} (hpath : path ≠ some "") (t : Target) :
    Arguments.read sharedOptions programSpec (commandLine path t) = .ok (givenFor path t) := by
  have hword : t.word.toList.head? ≠ some '-' := by
    cases t <;> simp [Target.word]
  have hcommand : renderSpec.command? t.word = some (commandOf t.word) := by
    cases t <;> rfl
  have hname : (commandOf t.word).name = t.word := by
    cases t <;> rfl
  -- three levels are read: the program with the profile, the word that asks for a text, the target
  have hprofile : readLevel programSpec (helpOption :: sharedOptions ++ programSpec.options)
      (commandLine path t) {} = .ok {
        given := { options := (path.map fun p => ("profile", p)).toList }
        below := some (renderSpec, t.word :: (optionsFor t).map fun o => written o.1 o.2) } :=
    readLevel_profile hpath (by decide) rfl _
  have hrender : readLevel renderSpec (helpOption :: sharedOptions ++ renderSpec.options)
      (t.word :: (optionsFor t).map fun o => written o.1 o.2) {} = .ok {
        given := {}
        below := some (commandOf t.word, (optionsFor t).map fun o => written o.1 o.2) } :=
    readLevel_command hword hcommand _
  have hoptions : readLevel (commandOf t.word)
      (helpOption :: sharedOptions ++ (commandOf t.word).options)
      ((optionsFor t).map (fun o => written o.1 o.2) ++ []) {} =
        .ok { given := { options := (optionsFor t).map fun o => (o.1.long, o.2) } } := by
    have hlongs : ((optionsFor t).map (·.1.long)).Nodup := by
      simpa [givenFor, Function.comp_def] using givenFor_nodup none t
    exact readLevel_map_written (optionsFor t) {} (takes_optionsFor t) hlongs (fun _ _ => rfl) []
  rw [List.append_nil] at hoptions
  obtain ⟨depth, hdepth⟩ : ∃ depth, (commandLine path t).length + 1 = depth + 3 :=
    ⟨(commandLine path t).length - 2, by simp [commandLine]; omega⟩
  have hread := readCommand_inner hprofile
    (readCommand_inner hrender (readCommand_last hoptions (isComplete_optionsFor t) depth))
  rw [hname] at hread
  rw [Arguments.read, hdepth, hread]
  rfl

theorem mem_givenFor {path : Option String} {t : Target} {o : String × String} :
    o ∈ (givenFor path t).options ↔
      (∃ p, path = some p ∧ ("profile", p) = o) ∨ (∃ n, t.nodeName? = some n ∧ ("node", n) = o) ∨
        (∃ k, t.kind? = some k ∧ ("kind", k.text) = o) ∨
          ∃ s, (s ∈ t.switches ∧ s.2 = true) ∧ (s.1, "") = o := by
  simp only [givenFor, optionsFor, List.map_append, List.mem_append, List.mem_map, List.mem_filter,
    Option.mem_toList, Option.map_eq_some_iff]
  simp only [nodeOption, kindOption, exists_exists_and_eq_and]

/-- **The target of its command line** is the one that is asked for, of the profile that is named. -/
theorem asks_givenFor (path : Option String) (t : Target) :
    Asks t.word (givenFor path t) t ∧ (givenFor path t).value? "profile" = path := by
  have hnames := names_nodup t
  simp only [List.cons_append, List.nil_append, List.nodup_cons, List.mem_cons, List.mem_map,
    not_or, not_exists, not_and] at hnames
  obtain ⟨⟨-, -, hprofile⟩, ⟨-, hnode⟩, hkind, hswitches⟩ := hnames
  have hvalue : ∀ {name value}, (name, value) ∈ (givenFor path t).options →
      (givenFor path t).value? name = some value := fun h =>
    value?_eq_some_of_mem (givenFor_nodup path t) h
  have hnone : ∀ name, (∀ o ∈ (givenFor path t).options, o.1 ≠ name) →
      (givenFor path t).value? name = none := fun name h =>
    value?_eq_none (Bool.eq_false_iff.2 fun hhas => by
      obtain ⟨o, ho, hname⟩ := has_eq_true_iff.1 hhas
      exact h o ho hname)
  -- all names differ, so an option that is not given for its own sake is not given for another's
  have hapart : "profile" ≠ "node" ∧ "kind" ≠ "node" ∧ "kind" ≠ "profile" := by decide
  refine ⟨⟨rfl, ?_, fun k hk => ?_, fun s hs => ?_⟩, ?_⟩
  · cases hn : t.nodeName? with
    | some n => exact (hvalue (mem_givenFor.2 (.inr (.inl ⟨n, hn, rfl⟩)))).symm
    | none =>
      refine (hnone "node" fun o ho => ?_).symm
      rcases mem_givenFor.1 ho with ⟨p, -, rfl⟩ | ⟨n, hsome, -⟩ | ⟨k, -, rfl⟩ | ⟨s, ⟨hs, -⟩, rfl⟩
      · exact hapart.1
      · rw [hn] at hsome
        cases hsome
      · exact hapart.2.1
      · exact hnode s hs
  · rw [kindWord, hvalue (mem_givenFor.2 (.inr (.inr (.inl ⟨k, hk, rfl⟩))))]
    rfl
  · rw [Bool.eq_iff_iff, has_eq_true_iff]
    constructor
    · rintro ⟨o, ho, hname⟩
      rcases mem_givenFor.1 ho with ⟨p, -, rfl⟩ | ⟨n, -, rfl⟩ | ⟨k, -, rfl⟩ | ⟨u, ⟨hu, hset⟩, rfl⟩
      · exact absurd hname.symm (hprofile s hs)
      · exact absurd hname.symm (hnode s hs)
      · exact absurd hname.symm (hkind s hs)
      · rwa [← List.inj_on_of_nodup_map hswitches hu hs hname]
    · exact fun hset => ⟨_, mem_givenFor.2 (.inr (.inr (.inr ⟨s, ⟨hs, hset⟩, rfl⟩))), rfl⟩
  · cases path with
    | some p => exact hvalue (mem_givenFor.2 (.inl ⟨p, rfl, rfl⟩))
    | none =>
      refine hnone "profile" fun o ho => ?_
      rcases mem_givenFor.1 ho with ⟨p, hsome, -⟩ | ⟨n, -, rfl⟩ | ⟨k, -, rfl⟩ | ⟨s, ⟨hs, -⟩, rfl⟩
      · cases hsome
      · exact hapart.1.symm
      · exact hapart.2.2
      · exact hprofile s hs

/-! ## What the program prints and reports -/

/-- The first stage that fails, and its error: the profile is loaded, then the word for how the daemon
is run is looked at, then the node is looked up. -/
inductive FirstFailure (readText : String → Except Error String) (word : String) (g : Given) :
    Error → Prop
  | profile {e : Error} (failed : Profile.load readText (g.value? "profile") = .error e) :
    FirstFailure readText word g e
  | kind {p : Profile} (loaded : Profile.load readText (g.value? "profile") = .ok p)
    (known : word ∈ kindWords) (unknown : ∀ k : UnitKind, k.text ≠ kindWord g) :
    FirstFailure readText word g (.configuration (.unknownUnitKind (kindWord g)))
  | node {p : Profile} {t : Target} {e : Error}
    (loaded : Profile.load readText (g.value? "profile") = .ok p) (asks : Asks word g t)
    (needed : t.nodeName? ≠ none ∨ t.meansFirst = true)
    (missing : p.cluster.nodeOrFirst t.nodeName? = .error e) : FirstFailure readText word g e

/-- The text of the target that is asked for, from the profile that is named. -/
def Renders (readText : String → Except Error String) (word : String) (g : Given) (text : String) :
    Prop :=
  ∃ p t, Profile.load readText (g.value? "profile") = .ok p ∧ Asks word g t ∧ t.render p = .ok text

theorem render_eq_error_of_missing {p : Profile} {t : Target} {e : Error}
    (needed : t.nodeName? ≠ none ∨ t.meansFirst = true)
    (missing : p.cluster.nodeOrFirst t.nodeName? = .error e) : t.render p = .error e := by
  rw [Target.render_eq_error_iff]
  obtain ⟨s, hs, hname, hfirst⟩ | ⟨node, script, hs, hname, hfirst⟩ := Target.script_cases p t
  · simp [hname, hfirst] at needed
  · rw [hs, Target.forNode, ← hname, missing]
    rfl

theorem missing_of_render_eq_error {p : Profile} {t : Target} {e : Error}
    (h : t.render p = .error e) :
    (t.nodeName? ≠ none ∨ t.meansFirst = true) ∧ p.cluster.nodeOrFirst t.nodeName? = .error e := by
  rw [Target.render_eq_error_iff] at h
  obtain ⟨s, hs, -, -⟩ | ⟨node, script, hs, hname, hfirst⟩ := Target.script_cases p t
  · rw [hs] at h
    cases h
  · rw [hs, Target.forNode] at h
    rw [hname, hfirst]
    cases hnode : p.cluster.nodeOrFirst node with
    | ok n =>
      rw [hnode] at h
      cases h
    | error e' =>
      rw [hnode] at h
      cases h
      refine ⟨?_, rfl⟩
      cases node <;> simp

variable {readText : String → Except Error String} {word : String} {g : Given}
  {target : Except Error Target}

theorem Asks.target_eq {t : Target} (h : Asks word g t) (htarget : targetOf? word g = some target) :
    target = .ok t :=
  Option.some.inj (htarget.symm.trans (targetOf?_of_asks h))

theorem Renders.render_eq {text : String} (h : Renders readText word g text)
    (htarget : targetOf? word g = some target) :
    render readText (g.value? "profile") target = .ok (withLineEnd text) := by
  obtain ⟨p, t, hload, hasks, htext⟩ := h
  rw [hasks.target_eq htarget]
  simp only [render, hload, htext]
  rfl

theorem FirstFailure.render_eq {e : Error} (h : FirstFailure readText word g e)
    (htarget : targetOf? word g = some target) :
    render readText (g.value? "profile") target = .error e := by
  cases h with
  | profile failed => simp only [render, failed]
  | kind loaded known unknown =>
    have hkind := targetOf?_eq_error_iff.2 ⟨known, unknown, rfl⟩
    obtain rfl := Option.some.inj (htarget.symm.trans hkind)
    simp only [render, loaded]
  | node loaded asks needed missing =>
    rw [asks.target_eq htarget]
    simp only [render, loaded, render_eq_error_of_missing needed missing]
    rfl

/-- Either all stages are passed, or there is one that fails first. -/
theorem renders_or_fails (hasked : Asked word g) (htarget : targetOf? word g = some target) :
    (∃ text, Renders readText word g text) ∨ ∃ e, FirstFailure readText word g e := by
  cases hload : Profile.load readText (g.value? "profile") with
  | error e => exact .inr ⟨e, .profile hload⟩
  | ok p =>
    cases target with
    | error e =>
      obtain ⟨hknown, hunknown, rfl⟩ := targetOf?_eq_error_iff.1 htarget
      exact .inr ⟨_, .kind hload hknown hunknown⟩
    | ok t =>
      have hasks := asks_of_targetOf? hasked htarget
      cases htext : t.render p with
      | ok text => exact .inl ⟨text, p, t, hload, hasks, htext⟩
      | error e =>
        obtain ⟨hneeded, hmissing⟩ := missing_of_render_eq_error htext
        exact .inr ⟨e, .node hload hasks hneeded hmissing⟩

theorem run_of_read {stamp : Int → String} {setting : Setting} {arguments : List String}
    (hread : Arguments.read sharedOptions programSpec arguments = .ok g)
    (hcommands : g.commands = [programName, renderSpec.name, word])
    (htarget : targetOf? word g = some target) :
    run readText stamp setting arguments =
      printing setting (render readText (g.value? "profile") target) := by
  have htask : taskOf? g = some (.render target) := by
    unfold taskOf?
    rw [hcommands]
    change (targetOf? word g).map Task.render = _
    rw [htarget]
    rfl
  simp only [run, Invocation.ofArguments, hread, htask]

/-- **The command line of a target loads the profile and renders it**, and adds a line end. -/
theorem run_commandLine (readText : String → Except Error String) (stamp : Int → String)
    (setting : Setting) {path : Option String} (hpath : path ≠ some "") (t : Target) :
    run readText stamp setting (commandLine path t) = printing setting
      ((Profile.load readText path).bind fun p => (t.render p).map withLineEnd) := by
  obtain ⟨hasks, hprofile⟩ := asks_givenFor path t
  rw [run_of_read (read_commandLine hpath t) rfl (targetOf?_of_asks hasks), hprofile]
  unfold render
  cases Profile.load readText path <;> rfl

/-- **A command line that asks for a text prints it or reports the first failure**, whatever the files
hold.  It has a word of the grammar, and no options but those that every command has and its own, so
it asks for one target at most.  If the profile is loaded and the target is rendered from it, the
program ends with 0, reports nothing, and prints the text, with a line end if it has none.  Otherwise
one of the stages fails: the profile, then the word for how the daemon is run, then the node; the
program prints nothing, reports the error of the first that does, and ends with 1. -/
theorem render_prints_or_reports (readText : String → Except Error String) (stamp : Int → String)
    (setting : Setting) (arguments : List String) (g : Given)
    (hread : Arguments.read sharedOptions programSpec arguments = .ok g)
    (hrender : g.commands[1]? = some "render") :
    let outcome := run readText stamp setting arguments
    ∃ word, g.commands = ["etcdlabs", "render", word] ∧
      (∀ name, g.has name = true → name ∈ generalOptions ∨ name ∈ ownOptions word) ∧
      (∀ t u, Asks word g t → Asks word g u → t = u) ∧
      (∀ text, Renders readText word g text → outcome.code = 0 ∧ outcome.report = "" ∧
        (text.toList.getLast? = some '\n' → outcome.output = text) ∧
        (text.toList.getLast? ≠ some '\n' → outcome.output = text ++ "\n")) ∧
      (∀ e, FirstFailure readText word g e → outcome.code = 1 ∧ outcome.output = "" ∧
        outcome.report = "Error: " ++ e.message ++ "\n") ∧
      ((∃ text, Renders readText word g text) ∨ ∃ e, FirstFailure readText word g e) := by
  intro outcome
  obtain ⟨word, hasked⟩ := asked_of_follows (follows_read hread) hrender
  obtain ⟨target, htarget⟩ := targetOf?_isSome g word hasked.known
  have houtcome : outcome = printing setting (render readText (g.value? "profile") target) :=
    run_of_read hread hasked.commands htarget
  refine ⟨word, hasked.commands, fun name hhas => ?_, fun t u ht hu => ?_, ?_, ?_, ?_⟩
  · by_cases hgeneral : name ∈ generalOptions
    · exact .inl hgeneral
    by_cases hown : name ∈ ownOptions word
    · exact .inr hown
    rw [hasked.only name hgeneral hown] at hhas
    cases hhas
  · exact Except.ok.inj ((ht.target_eq htarget).symm.trans (hu.target_eq htarget))
  · intro text hrenders
    rw [houtcome, hrenders.render_eq htarget]
    refine ⟨rfl, rfl, fun hend => ?_, fun hend => ?_⟩
    · exact if_pos (by simpa [Block.endsLine] using hend)
    · exact if_neg (by simpa [Block.endsLine] using hend)
  · intro e hfailure
    rw [houtcome, hfailure.render_eq htarget]
    exact ⟨rfl, rfl, rfl⟩
  · exact renders_or_fails hasked htarget

/-- Neither is there such a way to run the daemon, nor is there such a node. -/
theorem unknown_kind_reported_before_node :
    let readText := fun path => Except.error (.profileNotFound path)
    let arguments := ["-v", "r", "u", "--kind", "nspawn", "-nzz"]
    let outcome := run readText (fun _ => "") {} arguments
    let g : Given :=
      { commands := ["etcdlabs", "render", "unit"],
        options := [("verbose", ""), ("kind", "nspawn"), ("node", "zz")] }
    Arguments.read sharedOptions programSpec arguments = .ok g ∧ g.commands[1]? = some "render" ∧
      "zz" ∉ Sample.profile.cluster.nodeNames ∧ outcome.code = 1 ∧ outcome.output = "" ∧
      outcome.report =
        "Error: Unknown unit kind 'nspawn': expected one of systemd, docker, rkt, coreos\n" := by
  intro readText arguments outcome g
  have hread : Arguments.read sharedOptions programSpec arguments = .ok g := by decide +kernel
  obtain ⟨word, hcommands, -, -, -, hfailure, -⟩ :=
    render_prints_or_reports readText (fun _ => "") {} arguments g hread rfl
  cases hcommands
  have hkind : ∀ k : UnitKind, k.text ≠ kindWord g := by
    intro k
    cases k <;> decide
  obtain ⟨hcode, houtput, hreport⟩ := hfailure _ (.kind rfl (by decide) hkind)
  exact ⟨hread, rfl, by decide, hcode, houtput, hreport⟩

end CommandLine
end EtcdKit
