import Mathlib.Data.List.Nodup
import Mathlib.Data.List.TakeDrop
import EtcdKit.Arguments.Reader
/-!
# Reading — what is read follows the grammar

The options that are given at a level are among those of its command, and the command below is one of
its commands (`follows_readLevel`), so what is read of the arguments of a program follows its grammar
(`follows_read`).  In turn, options that are written in one argument each are read one after another
(`readLevel_map_written`).
-/
namespace EtcdKit.Arguments

/-! ## What is given -/

theorem has_eq_true_iff {g : Given} {name : String} :
    g.has name = true ↔ ∃ o ∈ g.options, o.1 = name := by
  simp [Given.has]

theorem value?_eq_none {g : Given} {name : String} (h : g.has name = false) :
    g.value? name = none := by
  unfold Given.has at h
  unfold Given.value?
  rw [Option.map_eq_none_iff, List.find?_eq_none]
  intro o ho
  rw [List.any_eq_false] at h
  exact h o (List.mem_reverse.1 ho)

theorem value?_eq_some_of_mem {g : Given} (hnodup : (g.options.map Prod.fst).Nodup)
    {name value : String} (h : (name, value) ∈ g.options) : g.value? name = some value := by
  unfold Given.value?
  cases hfind : g.options.reverse.find? fun o => o.1 == name with
  | none =>
    have hnot := List.find?_eq_none.1 hfind _ (List.mem_reverse.2 h)
    simp at hnot
  | some o =>
    have hname : o.1 = name := by simpa using List.find?_some hfind
    have hmem : o ∈ g.options := List.mem_reverse.1 (List.mem_of_find?_eq_some hfind)
    have hsame : o = (name, value) := List.inj_on_of_nodup_map hnodup hmem h hname
    rw [hsame]
    rfl

/-- Only these options are given. -/
def Given.Within (g : Given) (options : List OptionSpec) : Prop :=
  ∀ o ∈ g.options, ∃ option ∈ options, option.long = o.1

theorem mem_of_within {g : Given} {options : List OptionSpec} (h : g.Within options) {name : String}
    (hname : g.has name = true) : name ∈ options.map (·.long) := by
  obtain ⟨o, ho, rfl⟩ := has_eq_true_iff.1 hname
  obtain ⟨option, hoption, hlong⟩ := h o ho
  exact List.mem_map.2 ⟨option, hoption, hlong⟩

theorem within_withOption {g added : Given} {options : List OptionSpec} {option : OptionSpec}
    {value : String} (hg : g.Within options) (hmem : option ∈ options)
    (h : g.withOption option value = .ok added) : added.Within options := by
  have hadded : added = { g with options := g.options ++ [(option.long, value)] } := by
    unfold Given.withOption at h
    grind
  subst hadded
  intro o ho
  rcases List.mem_append.1 ho with ho | ho
  · exact hg o ho
  · obtain rfl := List.mem_singleton.1 ho
    exact ⟨option, hmem, rfl⟩

theorem within_withOperands {g added : Given} {options : List OptionSpec} {spec : CommandSpec}
    {operands : List String} (hg : g.Within options) (h : g.withOperands spec operands = .ok added) :
    added.Within options := by
  unfold Given.withOperands at h
  split at h
  · obtain rfl := Except.ok.inj h
    exact hg
  · cases h

/-! ## What is read follows the grammar -/

/-- What was read of an argument is within the options, and so is one that awaits its value. -/
def Progress.Within (options : List OptionSpec) : Progress → Prop
  | .complete g => g.Within options
  | .awaiting option g => option ∈ options ∧ g.Within options

theorem within_readLong {options : List OptionSpec} {g : Given} {name : String}
    {value : Option String} {progress : Progress} (hg : g.Within options)
    (h : readLong options g name value = .ok progress) : progress.Within options := by
  unfold readLong at h
  split at h
  · cases h
  · rename_i option hfind
    have hmem := List.mem_of_find?_eq_some hfind
    have hcomplete : ∀ text, (g.withOption option text).map .complete = .ok progress →
        progress.Within options := by
      intro text htext
      cases hadded : g.withOption option text with
      | error r =>
        rw [hadded] at htext
        cases htext
      | ok added =>
        rw [hadded] at htext
        cases htext
        exact within_withOption hg hmem hadded
    split at h
    · cases h
      exact ⟨hmem, hg⟩
    · exact hcomplete _ h
    · cases h
    · exact hcomplete _ h

theorem within_readShorts {options : List OptionSpec} {progress : Progress} :
    ∀ {letters : List Char} {g : Given}, g.Within options →
      readShorts options g letters = .ok progress → progress.Within options := by
  intro letters
  induction letters with
  | nil =>
    intro g hg h
    cases h
    exact hg
  | cons letter letters ih =>
    intro g hg h
    unfold readShorts at h
    split at h
    · cases h
    · rename_i option hfind
      have hmem := List.mem_of_find?_eq_some hfind
      split at h
      · split at h
        · cases h
          exact ⟨hmem, hg⟩
        · rename_i text _
          cases hadded : g.withOption option text with
          | error r =>
            rw [hadded] at h
            cases h
          | ok added =>
            rw [hadded] at h
            cases h
            exact within_withOption hg hmem hadded
      · split at h
        · cases h
        · rename_i added hadded
          exact ih (within_withOption hg hmem hadded) h

/-- What was read of a level is within its options, and the command below is one of its commands. -/
structure Level.Follows (level : Level) (spec : CommandSpec) (options : List OptionSpec) : Prop where
  within : level.given.Within options
  below : ∀ command rest, level.below = some (command, rest) → command ∈ spec.commands

theorem follows_commandLevel? {spec : CommandSpec} {options : List OptionSpec} {g : Given}
    {late : Option Refusal} {argument : String} {rest : List String} {level : Level}
    (hg : g.Within options) (h : commandLevel? spec g late argument rest = some (.ok level)) :
    level.Follows spec options := by
  unfold commandLevel? at h
  split at h
  · rename_i command hfind
    cases h
    refine ⟨hg, fun _ _ hbelow => ?_⟩
    cases hbelow
    exact List.mem_of_find?_eq_some hfind
  · split at h <;> cases h

theorem follows_refusedLevel {spec : CommandSpec} {options : List OptionSpec} {g : Given}
    {refusal : Refusal} {rest : List String} {level : Level} (hg : g.Within options)
    (h : refusedLevel spec g refusal rest = .ok level) : level.Follows spec options := by
  unfold refusedLevel at h
  split at h
  · cases h
  · rename_i argument rest
    cases hlevel : commandLevel? spec g (some refusal) argument rest with
    | none =>
      rw [hlevel] at h
      cases h
    | some found =>
      rw [hlevel, Option.getD_some] at h
      exact follows_commandLevel? hg (h ▸ hlevel)

theorem follows_readLevel {spec : CommandSpec} {options : List OptionSpec} :
    ∀ (arguments : List String) (g : Given) (level : Level), g.Within options →
      readLevel spec options arguments g = .ok level → level.Follows spec options
  | [] => by
    intro g level hg h
    cases h
    exact ⟨hg, fun _ _ hbelow => by cases hbelow⟩
  | argument :: rest => by
    intro g level hg h
    rw [readLevel] at h
    dsimp only at h
    split at h
    case h_1 =>
      cases hadded : g.withOperands spec rest with
      | error r =>
        rw [hadded] at h
        cases h
      | ok added =>
        rw [hadded] at h
        cases h
        exact ⟨within_withOperands hg hadded, fun _ _ hbelow => by cases hbelow⟩
    case h_4 =>
      split at h
      · rename_i found hfound
        subst h
        exact follows_commandLevel? hg hfound
      · split at h
        · cases h
        · rename_i added hadded
          exact follows_readLevel rest _ _ (within_withOperands hg hadded) h
    -- options of both forms go on alike: with the rest, or with what stands behind the value there
    case' h_2 name value _ =>
      have hprogress : ∀ p, readLong options g name value = .ok p → p.Within options :=
        fun p hp => within_readLong hg hp
    case' h_3 letters _ =>
      have hprogress : ∀ p, readShorts options g letters = .ok p → p.Within options :=
        fun p hp => within_readShorts hg hp
    all_goals
      split at h
      · cases h
      · rename_i hread
        exact follows_readLevel rest _ _ (hprogress _ hread) h
      · rename_i hread
        obtain ⟨hmem, hown⟩ := hprogress _ hread
        split at h
        · cases h
        · split at h
          · split at h
            · exact follows_refusedLevel hown h
            · rename_i hadded
              exact follows_readLevel _ _ _ (within_withOption hown hmem hadded) h
          · cases h

/-- What was read of the arguments of a command follows its grammar, and that of the command below. -/
inductive Follows (shared : List OptionSpec) : CommandSpec → Given → Prop
  | last {spec : CommandSpec} {g : Given} (within : g.Within (helpOption :: shared ++ spec.options))
    (complete : isComplete spec g = true) : Follows shared spec { g with commands := [spec.name] }
  | inner {spec command : CommandSpec} {own below : Given}
    (within : own.Within (helpOption :: shared ++ spec.options)) (mem : command ∈ spec.commands)
    (follows : Follows shared command below) :
    Follows shared spec {
      commands := spec.name :: below.commands
      options := own.options ++ below.options
      operands := below.operands }

theorem follows_readCommand {shared : List OptionSpec} : ∀ (depth : Nat) {spec : CommandSpec}
    {arguments : List String} {g : Given},
    readCommand shared depth spec arguments = .ok g → Follows shared spec g
  | 0, _, _, _, h => by cases h
  | depth + 1, spec, arguments, g, h => by
    have hnone : Given.Within {} (helpOption :: shared ++ spec.options) := by simp [Given.Within]
    rw [readCommand] at h
    split at h
    · cases h
    · rename_i own late hlevel
      split at h
      · rename_i hcomplete
        cases h
        exact .last (follows_readLevel _ _ _ hnone hlevel).within hcomplete
      · cases h
    · rename_i own command rest late hlevel
      have hown := follows_readLevel _ _ _ hnone hlevel
      split at h
      · cases h
      · cases h
      · rename_i below hbelow
        cases h
        exact .inner hown.within (hown.below _ _ rfl) (follows_readCommand depth hbelow)

/-- **What is read of the arguments of a program follows its grammar.** -/
theorem follows_read {shared : List OptionSpec} {program : CommandSpec} {arguments : List String}
    {g : Given} (h : read shared program arguments = .ok g) : Follows shared program g :=
  follows_readCommand _ h

theorem commands_of_follows {shared : List OptionSpec} {spec : CommandSpec} {g : Given}
    (h : Follows shared spec g) : g.commands.head? = some spec.name := by
  cases h <;> rfl

/-! ## Options that are written in one argument -/

/-- An option with its value, in one argument. -/
def written (option : OptionSpec) (value : String) : String :=
  match option.kind with
  | .valued _ => "--" ++ option.long ++ "=" ++ value
  | _ => "--" ++ option.long

/-- The option is found among others by its name, and takes the value. -/
structure Takes (options : List OptionSpec) (option : OptionSpec) (value : String) : Prop where
  found : options.find? (fun o => o.long == option.long) = some option
  named : option.long ≠ ""
  uncut : '=' ∉ option.long.toList
  takes : (∃ rule, option.kind = .valued rule ∧ rule.admits value = true) ∨
    option.kind = .switch ∧ value = ""

theorem span_append {name : List Char} (h : '=' ∉ name) (rest : List Char) :
    (name ++ rest).span (· != '=') =
      (name ++ rest.takeWhile (· != '='), rest.dropWhile (· != '=')) := by
  have hname : ∀ c ∈ name, (c != '=') = true := fun c hc => by
    simpa using fun e : c = '=' => h (e ▸ hc)
  rw [List.span_eq_takeWhile_dropWhile, List.takeWhile_append_of_pos hname,
    List.dropWhile_append_of_pos hname]

theorem argument_of_valued {name : String} (h : '=' ∉ name.toList) (value : String) :
    Argument.of ("--" ++ name ++ "=" ++ value) = .long name (some value) := by
  have hchars : ("--" ++ name ++ "=" ++ value).toList =
      '-' :: '-' :: (name.toList ++ '=' :: value.toList) := by simp
  have hcut : cutAtEquals (name.toList ++ '=' :: value.toList) = (name, some value) := by
    rw [cutAtEquals, span_append h]
    simp
  rw [Argument.of, hchars]
  cases hrest : name.toList ++ '=' :: value.toList with
  | nil => simp at hrest
  | cons c cs =>
    rw [hrest] at hcut
    simp only [hcut]

theorem argument_of_switch {name : String} (h : '=' ∉ name.toList) (hne : name ≠ "") :
    Argument.of ("--" ++ name) = .long name none := by
  have hchars : ("--" ++ name).toList = '-' :: '-' :: name.toList := by simp
  have hcut : cutAtEquals name.toList = (name, none) := by
    have hspan := span_append h []
    rw [List.append_nil] at hspan
    rw [cutAtEquals, hspan]
    simp
  rw [Argument.of, hchars]
  cases hrest : name.toList with
  | nil => exact absurd (String.toList_eq_nil_iff.1 hrest) hne
  | cons c cs =>
    rw [hrest] at hcut
    simp only [hcut]

theorem argument_of_word {text : String} (h : text.toList.head? ≠ some '-') :
    Argument.of text = .word text := by
  unfold Argument.of
  split
  · rename_i hchars
    simp [hchars] at h
  · rename_i hchars
    simp [hchars] at h
  · rename_i hchars
    simp [hchars] at h
  · rfl

/-- **An option that is written in one argument** is added to those that were given before. -/
theorem readLevel_written {spec : CommandSpec} {options : List OptionSpec} {option : OptionSpec}
    {value : String} {g : Given} (h : Takes options option value)
    (hnew : g.has option.long = false) (rest : List String) :
    readLevel spec options (written option value :: rest) g =
      readLevel spec options rest { g with options := g.options ++ [(option.long, value)] } := by
  rw [readLevel]
  rcases h.takes with ⟨rule, hkind, hadmits⟩ | ⟨hkind, rfl⟩
  · have hadded : g.withOption option value =
        .ok { g with options := g.options ++ [(option.long, value)] } := by
      simp [Given.withOption, hkind, hnew, hadmits]
    simp only [written, hkind, argument_of_valued h.uncut, readLong, h.found, hadded]
    rfl
  · have hadded : g.withOption option "" =
        .ok { g with options := g.options ++ [(option.long, "")] } := by
      simp [Given.withOption, hkind, hnew]
    simp only [written, hkind, argument_of_switch h.uncut h.named, readLong, h.found, hadded]
    rfl

/-- **Options that are written one after another** are all given, with their values. -/
theorem readLevel_map_written {spec : CommandSpec} {options : List OptionSpec} :
    ∀ (os : List (OptionSpec × String)) (g : Given), (∀ o ∈ os, Takes options o.1 o.2) →
      (os.map (·.1.long)).Nodup → (∀ o ∈ os, g.has o.1.long = false) → ∀ rest,
      readLevel spec options (os.map (fun o => written o.1 o.2) ++ rest) g =
        readLevel spec options rest
          { g with options := g.options ++ os.map fun o => (o.1.long, o.2) }
  | [], g, _, _, _, rest => by simp
  | o :: os, g, htakes, hnodup, hnew, rest => by
    obtain ⟨hfirst, htakes⟩ := List.forall_mem_cons.1 htakes
    obtain ⟨hfresh, hnew⟩ := List.forall_mem_cons.1 hnew
    rw [List.map_cons, List.nodup_cons] at hnodup
    have hlater : ∀ u ∈ os, Given.has { g with options := g.options ++ [(o.1.long, o.2)] }
        u.1.long = false := by
      intro u hu
      have hne : o.1.long ≠ u.1.long := fun e => hnodup.1 (List.mem_map.2 ⟨u, hu, e.symm⟩)
      have hold := hnew u hu
      simp only [Given.has, List.any_append, List.any_cons, List.any_nil] at hold ⊢
      simp [hold, hne]
    rw [List.map_cons, List.cons_append, readLevel_written hfirst hfresh,
      readLevel_map_written os _ htakes hnodup.2 hlater rest]
    simp

/-- A word that names a command below ends the level. -/
theorem readLevel_command {spec command : CommandSpec} {options : List OptionSpec} {g : Given}
    {word : String} (hword : word.toList.head? ≠ some '-')
    (hcommand : spec.command? word = some command) (rest : List String) :
    readLevel spec options (word :: rest) g =
      .ok { given := g, below := some (command, rest) } := by
  rw [readLevel]
  simp only [argument_of_word hword, commandLevel?, hcommand]

/-! ## Operands -/

/-- **Words are operands** of a command without commands below it, as many as it takes. -/
theorem readLevel_words {spec : CommandSpec} {options : List OptionSpec}
    (hlast : spec.commands = []) : ∀ (words : List String) (g : Given),
    (∀ word ∈ words, word.toList.head? ≠ some '-') →
      g.operands.length + words.length ≤ spec.operands.length →
      readLevel spec options words g = .ok { given := { g with operands := g.operands ++ words } }
  | [], g, _, _ => by simp [readLevel]
  | word :: words, g, hplain, hroom => by
    obtain ⟨hword, hplain⟩ := List.forall_mem_cons.1 hplain
    rw [List.length_cons] at hroom
    have hnone : commandLevel? spec g none word words = none := by
      simp [commandLevel?, CommandSpec.command?, hlast]
    have hadded : g.withOperands spec [word] = .ok { g with operands := g.operands ++ [word] } := by
      rw [Given.withOperands, List.length_singleton, if_pos (by omega)]
    have hroom' : (g.operands ++ [word]).length + words.length ≤ spec.operands.length := by
      rw [List.length_append, List.length_singleton]
      omega
    have hrest : readLevel spec options words { g with operands := g.operands ++ [word] } = _ :=
      readLevel_words hlast words _ hplain hroom'
    rw [List.append_assoc, List.singleton_append] at hrest
    rw [readLevel]
    simp only [argument_of_word hword, hnone, hadded]
    exact hrest

/-- Behind two dashes all arguments are operands, whatever they look like. -/
theorem readLevel_guarded {spec : CommandSpec} {options : List OptionSpec} {g : Given}
    {operands : List String}
    (hroom : g.operands.length + operands.length ≤ spec.operands.length) :
    readLevel spec options ("--" :: operands) g =
      .ok { given := { g with operands := g.operands ++ operands } } := by
  have hdashes : Argument.of "--" = .terminator := by decide
  have hadded : g.withOperands spec operands =
      .ok { g with operands := g.operands ++ operands } := by
    rw [Given.withOperands, if_pos hroom]
  rw [readLevel]
  simp only [hdashes, hadded]
  rfl

/-- The arguments of a command are those of its level, if it is the last one and they are complete. -/
theorem readCommand_last {shared : List OptionSpec} {spec : CommandSpec} {arguments : List String}
    {g : Given}
    (hlevel : readLevel spec (helpOption :: shared ++ spec.options) arguments {} =
      .ok { given := g })
    (hcomplete : isComplete spec g = true) (depth : Nat) :
    readCommand shared (depth + 1) spec arguments = .ok { g with commands := [spec.name] } := by
  rw [readCommand, hlevel]
  simp only [hcomplete, if_true]

/-- The arguments of a command are those of its level, and those of the command below. -/
theorem readCommand_inner {shared : List OptionSpec} {spec command : CommandSpec}
    {arguments rest : List String} {own below : Given} {depth : Nat}
    (hlevel : readLevel spec (helpOption :: shared ++ spec.options) arguments {} =
      .ok { given := own, below := some (command, rest) })
    (hbelow : readCommand shared depth command rest = .ok below) :
    readCommand shared (depth + 1) spec arguments = .ok {
      commands := spec.name :: below.commands
      options := own.options ++ below.options
      operands := below.operands } := by
  rw [readCommand, hlevel]
  simp only [hbelow]

end EtcdKit.Arguments
