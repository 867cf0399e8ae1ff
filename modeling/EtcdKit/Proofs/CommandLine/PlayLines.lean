import EtcdKit.Proofs.CommandLine.Rendering
import EtcdKit.Proofs.Text.Numerals
/-!
# PlayLines — command lines that talk to the playground

Whatever can be asked of the playground has command lines that ask for it, with operands of any text, and
each of them is read as the command that carries the wish out (`ofArguments_of_expresses`).  The words of a
command line have nothing else done (`exists_wish_of_playCommandOf?`).
-/
namespace EtcdKit
namespace CommandLine

open Arguments Playground

/-- What can be asked of the playground on the command line. -/
inductive Wish where
  | connect
  | disconnect
  | status
  /-- With the seconds between two polls, if they are named. -/
  | watch (interval : Option UInt64)
  | write (key value : String)
  | get (key : String) (byPrefix : Bool)
  | delete (key : String) (byPrefix : Bool)
  | stress
  | stopNode (target : String)
  | restartNode (target : String)
  | shell

namespace Wish

def word : Wish → String
  | connect => "connect"
  | disconnect => "disconnect"
  | status => "status"
  | watch _ => "watch"
  | write _ _ => "write"
  | get _ _ => "get"
  | delete _ _ => "delete"
  | stress => "stress"
  | stopNode _ => "stop-node"
  | restartNode _ => "restart-node"
  | shell => "shell"

def switches : Wish → List String
  | watch (some interval) => ["--interval=" ++ toString interval.toNat]
  | get _ true => ["--prefix"]
  | delete _ true => ["--prefix"]
  | _ => []

def operands : Wish → List String
  | write key value => [key, value]
  | get key _ => [key]
  | delete key _ => [key]
  | stopNode target => [target]
  | restartNode target => [target]
  | _ => []

/-- What is done for a wish; without an interval the status is followed second by second. -/
def command : Wish → Command
  | connect => .connect
  | disconnect => .disconnect
  | status => .status
  | watch interval => .watch ((interval.map UInt64.toNat).getD 1)
  | write key value => .submit { action := .write, keyValue := { key, value } }
  | get key byPrefix => .submit { action := .get, byPrefix, keyValue := { key } }
  | delete key byPrefix => .submit { action := .delete, byPrefix, keyValue := { key } }
  | stress => .submit { action := .stress }
  | stopNode target => .member .stopNode target
  | restartNode target => .member .restartNode target
  | shell => .shell

end Wish

/-- Arguments express a wish, for the profile at a path if one is named.  Operands that look like options
stand behind two dashes. -/
inductive Expresses (path : Option String) (wish : Wish) : List String → Prop where
  | plain (undashed : ∀ o ∈ wish.operands, o.toList.head? ≠ some '-') :
      Expresses path wish ((path.map fun p => "--profile=" ++ p).toList ++
        "play" :: wish.word :: (wish.switches ++ wish.operands))
  | guarded : Expresses path wish ((path.map fun p => "--profile=" ++ p).toList ++
        "play" :: wish.word :: (wish.switches ++ "--" :: wish.operands))

/-- The command that the word of a wish names. -/
def specOf (wish : Wish) : CommandSpec :=
  (playSpec.commands.find? fun c => c.name == wish.word).getD { name := wish.word }

/-- The switches of a wish, as options with their values. -/
def optionsOf : Wish → List (OptionSpec × String)
  | .watch (some interval) =>
    [({ long := "interval", kind := .valued .number }, toString interval.toNat)]
  | .get _ true => [(prefixOption, "")]
  | .delete _ true => [(prefixOption, "")]
  | _ => []

theorem switches_eq (wish : Wish) : wish.switches = (optionsOf wish).map fun o => written o.1 o.2 := by
  cases wish with
  | watch interval => cases interval <;> rfl
  | get key byPrefix => cases byPrefix <;> rfl
  | delete key byPrefix => cases byPrefix <;> rfl
  | _ => rfl

/-- **A number is read as a value**, if it has at most 64 bits. -/
theorem number?_toString (n : UInt64) : number? (toString n.toNat) = some n.toNat := by
  have hdigits : (toString n.toNat).toList = Nat.toDigits 10 n.toNat := Nat.toList_repr
  unfold number?
  split
  · rename_i hplus
    have hmem : '+' ∈ Nat.toDigits 10 n.toNat := by
      rw [← hdigits, hplus]
      exact List.mem_cons_self
    exact absurd (Text.isDigit_of_mem_toDigits _ hmem) (by decide)
  · simp only [Text.readNat_toString, if_pos n.toNat_lt_size]

theorem takes_optionsOf (wish : Wish) : ∀ o ∈ optionsOf wish,
    Takes (helpOption :: sharedOptions ++ (specOf wish).options) o.1 o.2 := by
  cases wish with
  | watch interval =>
    cases interval with
    | none => exact List.forall_mem_nil _
    | some n =>
      have hnamed : "interval" ≠ "" ∧ '=' ∉ "interval".toList := by decide
      refine List.forall_mem_singleton.2 ⟨rfl, hnamed.1, hnamed.2, .inl ⟨_, rfl, ?_⟩⟩
      rw [ValueRule.admits, number?_toString]
      rfl
  | get key byPrefix | delete key byPrefix =>
    cases byPrefix with
    | false => exact List.forall_mem_nil _
    | true => exact List.forall_mem_singleton.2 ⟨rfl, by decide, by decide, .inr ⟨rfl, rfl⟩⟩
  | _ => exact List.forall_mem_nil _

/-- What is read of arguments that express a wish. -/
def givenOf (path : Option String) (wish : Wish) : Given where
  commands := [programName, playSpec.name, wish.word]
  options := (path.map fun p => ("profile", p)).toList ++ (optionsOf wish).map fun o => (o.1.long, o.2)
  operands := wish.operands

theorem length_operands (wish : Wish) : wish.operands.length = (specOf wish).operands.length := by
  cases wish <;> rfl

/-- The operands of a wish are read behind its switches, plain or guarded. -/
theorem Expresses.operands {path : Option String} {wish : Wish} {arguments : List String}
    (h : Expresses path wish arguments) : ∃ tail,
      arguments = (path.map fun p => written profileOption p).toList ++
        "play" :: wish.word :: ((optionsOf wish).map (fun o => written o.1 o.2) ++ tail) ∧
      ∀ options g, g.operands = [] → readLevel (specOf wish) options tail g =
        .ok { given := { g with operands := wish.operands } } := by
  have hlast : (specOf wish).commands = [] := by
    cases wish <;> rfl
  have hroom : ∀ g : Given, g.operands = [] →
      g.operands.length + wish.operands.length ≤ (specOf wish).operands.length := fun g hg =>
    Nat.le_of_eq (by rw [hg, length_operands, List.length_nil, Nat.zero_add])
  cases h with
  | plain undashed =>
    refine ⟨wish.operands, by rw [switches_eq]; rfl, fun options g hg => ?_⟩
    rw [readLevel_words hlast _ g undashed (hroom g hg), hg, List.nil_append]
  | guarded =>
    refine ⟨"--" :: wish.operands, by rw [switches_eq]; rfl, fun options g hg => ?_⟩
    rw [readLevel_guarded (hroom g hg), hg, List.nil_append]

theorem read_of_expresses {path : Option String} (hpath : path ≠ some "") {wish : Wish}
    {arguments : List String} (h : Expresses path wish arguments) :
    Arguments.read sharedOptions programSpec arguments = .ok (givenOf path wish) := by
  have hword : wish.word.toList.head? ≠ some '-' := by
    cases wish <;> simp [Wish.word]
  have hcommand : playSpec.command? wish.word = some (specOf wish) := by
    cases wish <;> rfl
  have hname : (specOf wish).name = wish.word := by
    cases wish <;> rfl
  have hlongs : ((optionsOf wish).map (·.1.long)).Nodup := by
    cases wish with
    | watch interval => cases interval <;> simp [optionsOf]
    | get key byPrefix | delete key byPrefix => cases byPrefix <;> simp [optionsOf]
    | _ => exact List.nodup_nil
  have hcomplete : isComplete (specOf wish) {
      options := (optionsOf wish).map fun o => (o.1.long, o.2)
      operands := wish.operands } = true := by
    cases wish <;> rfl
  obtain ⟨tail, rfl, htail⟩ := h.operands
  -- three levels are read: the program with the profile, the word for the playground, the wish
  have hplay : readLevel playSpec (helpOption :: sharedOptions ++ playSpec.options)
      (wish.word :: ((optionsOf wish).map (fun o => written o.1 o.2) ++ tail)) {} = .ok {
        given := {}
        below := some (specOf wish, (optionsOf wish).map (fun o => written o.1 o.2) ++ tail) } :=
    readLevel_command hword hcommand _
  have hwish : readLevel (specOf wish) (helpOption :: sharedOptions ++ (specOf wish).options)
      ((optionsOf wish).map (fun o => written o.1 o.2) ++ tail) {} = .ok { given := {
        options := (optionsOf wish).map fun o => (o.1.long, o.2)
        operands := wish.operands } } := by
    rw [readLevel_map_written (optionsOf wish) {} (takes_optionsOf wish) hlongs (fun _ _ => rfl)]
    exact htail _ _ rfl
  have hprogram : readLevel programSpec (helpOption :: sharedOptions ++ programSpec.options)
      ((path.map fun p => written profileOption p).toList ++
        "play" :: wish.word :: ((optionsOf wish).map (fun o => written o.1 o.2) ++ tail)) {} = .ok {
        given := { options := (path.map fun p => ("profile", p)).toList }
        below := some (playSpec,
          wish.word :: ((optionsOf wish).map (fun o => written o.1 o.2) ++ tail)) } :=
    readLevel_profile hpath (by decide) rfl _
  generalize harguments : (path.map fun p => written profileOption p).toList ++
    "play" :: wish.word :: ((optionsOf wish).map (fun o => written o.1 o.2) ++ tail) = arguments
    at hprogram ⊢
  obtain ⟨depth, hdepth⟩ : ∃ depth, arguments.length + 1 = depth + 3 :=
    ⟨arguments.length - 2, by simp [← harguments]; omega⟩
  have hread := readCommand_inner hprogram
    (readCommand_inner hplay (readCommand_last hwish hcomplete depth))
  rw [hname] at hread
  rw [Arguments.read, hdepth, hread]
  rfl

/-- **Arguments that express a wish** are read as the command that carries it out. -/
theorem ofArguments_of_expresses {path : Option String} (hpath : path ≠ some "") {wish : Wish}
    {arguments : List String} (h : Expresses path wish arguments) :
    Invocation.ofArguments arguments = .ok ⟨path, .play wish.command⟩ := by
  have hprofile : (givenOf path wish).value? "profile" = path := by
    cases wish with
    | watch interval => cases path <;> cases interval <;> rfl
    | get key byPrefix | delete key byPrefix => cases path <;> cases byPrefix <;> rfl
    | _ => cases path <;> rfl
  have htask : taskOf? (givenOf path wish) = some (.play wish.command) := by
    change (playCommandOf? wish.word (givenOf path wish)).map Task.play = _
    cases wish with
    | watch interval =>
      cases interval with
      | none => cases path <;> rfl
      | some n =>
        have hinterval : (givenOf path (.watch (some n))).value? "interval" =
            some (toString n.toNat) := by
          cases path <;> rfl
        change some (Task.play (.watch _)) = _
        rw [hinterval, Option.bind_some, number?_toString]
        rfl
    | get key byPrefix | delete key byPrefix => cases path <;> cases byPrefix <;> rfl
    | _ => rfl
  simp only [Invocation.ofArguments, read_of_expresses hpath h, htask, hprofile]

theorem lt_of_number? {text : String} {n : Nat} (h : number? text = some n) : n < UInt64.size := by
  unfold number? at h
  dsimp only at h
  split at h
  · split at h
    · rename_i hlt
      cases h
      exact hlt
    · cases h
  · cases h

/-- **Nothing else is done** for the words of a command line than what can be wished for. -/
theorem exists_wish_of_playCommandOf? {word : String} {g : Given} {command : Command}
    (h : playCommandOf? word g = some command) : ∃ wish : Wish, wish.command = command := by
  unfold playCommandOf? at h
  split at h
  case h_1 => cases h; exact ⟨.connect, rfl⟩
  case h_2 => cases h; exact ⟨.disconnect, rfl⟩
  case h_3 => cases h; exact ⟨.status, rfl⟩
  case h_4 =>
    cases h
    cases hinterval : (g.value? "interval").bind number? with
    | none => exact ⟨.watch none, rfl⟩
    | some n =>
      obtain ⟨text, -, hnumber⟩ := Option.bind_eq_some_iff.1 hinterval
      have hn : (UInt64.ofNat n).toNat = n := UInt64.toNat_ofNat_of_lt (lt_of_number? hnumber)
      exact ⟨.watch (some (UInt64.ofNat n)), congrArg Command.watch hn⟩
  case h_5 key value _ => cases h; exact ⟨.write key value, rfl⟩
  case h_6 key _ => cases h; exact ⟨.get key (g.has "prefix"), rfl⟩
  case h_7 key _ => cases h; exact ⟨.delete key (g.has "prefix"), rfl⟩
  case h_8 => cases h; exact ⟨.stress, rfl⟩
  case h_9 target _ => cases h; exact ⟨.stopNode target, rfl⟩
  case h_10 target _ => cases h; exact ⟨.restartNode target, rfl⟩
  case h_11 => cases h; exact ⟨.shell, rfl⟩
  case h_12 => cases h

end CommandLine
end EtcdKit
