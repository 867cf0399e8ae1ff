import EtcdKit.Arguments.Grammar
import EtcdKit.Text.Digits
/-!
# Reader — arguments by their grammar

An argument that starts with a dash and goes on is an option, and `--` makes all that follow it
operands.  The value of an option stands in the same argument or in the next one, which must then
not look like an option.
-/
namespace EtcdKit.Arguments

inductive Argument where
  | terminator
  | long (name : String) (value : Option String)
  | shorts (letters : List Char)
  | word (text : String)
  deriving DecidableEq, Repr

def cutAtEquals (cs : List Char) : String × Option String :=
  match cs.span (· != '=') with
  | (name, []) => (String.ofList name, none)
  | (name, _ :: value) => (String.ofList name, some (String.ofList value))

def Argument.of (argument : String) : Argument :=
  match argument.toList with
  | ['-', '-'] => .terminator
  | '-' :: '-' :: rest => let (name, value) := cutAtEquals rest; .long name value
  | '-' :: letter :: letters => .shorts (letter :: letters)
  | _ => .word argument

def Argument.mayBeValue : Argument → Bool
  | .word _ => true
  | _ => false

/-- The number of a text with an optional plus sign, if it has at most 64 bits. -/
def number? (s : String) : Option Nat :=
  let digits := match s.toList with
    | '+' :: rest => rest
    | cs => cs
  match Text.readNat 10 digits with
  | some n => if n < UInt64.size then some n else none
  | none => none

def ValueRule.admits (rule : ValueRule) (value : String) : Bool :=
  match rule with
  | .anyText => true
  | .someText => value != ""
  | .number => (number? value).isSome

def Given.withOption (g : Given) (option : OptionSpec) (value : String) : Except Refusal Given :=
  let added := { g with options := g.options ++ [(option.long, value)] }
  match option.kind with
  | .repeatable => .ok added
  | .switch => if g.has option.long then .error .usage else .ok added
  | .valued rule =>
    if g.has option.long || !rule.admits value then .error .usage else .ok added
  | .help => .error .help
  | .version => .error .version

/-- The arguments after one that was read; the value of its last option may be still to come. -/
inductive Progress where
  | complete (given : Given)
  | awaiting (option : OptionSpec) (given : Given)

def readLong (options : List OptionSpec) (g : Given) (name : String) (value : Option String) :
    Except Refusal Progress :=
  match options.find? (fun o => o.long == name) with
  | none => .error .usage
  | some option =>
    match option.kind, value with
    | .valued _, none => .ok (.awaiting option g)
    | .valued _, some value => (g.withOption option value).map .complete
    | _, some _ => .error .usage
    | _, none => (g.withOption option "").map .complete

/-- The value that follows the letter of an option in the same argument. -/
def attachedValue : List Char → Option String
  | [] => none
  | '=' :: value => some (String.ofList value)
  | value => some (String.ofList value)

def readShorts (options : List OptionSpec) (g : Given) : List Char → Except Refusal Progress
  | [] => .ok (.complete g)
  | letter :: letters =>
    match options.find? (fun o => o.short == some letter) with
    | none => .error .usage
    | some option =>
      match option.kind with
      | .valued _ =>
        match attachedValue letters with
        | none => .ok (.awaiting option g)
        | some value => (g.withOption option value).map .complete
      | _ =>
        match g.withOption option "" with
        | .error r => .error r
        | .ok g => readShorts options g letters

/-- The arguments with more operands, as many as the command takes at most. -/
def Given.withOperands (g : Given) (spec : CommandSpec) (operands : List String) :
    Except Refusal Given :=
  if g.operands.length + operands.length ≤ spec.operands.length then
    .ok { g with operands := g.operands ++ operands }
  else .error .usage

/-- Why a request for help on the named commands is refused: it is granted if there are such. -/
def helpOn (spec : CommandSpec) : List String → Refusal
  | [] => .help
  | word :: words =>
    match spec.command? word with
    | some command => helpOn command words
    | none => if word = "help" ∧ !spec.commands.isEmpty ∧ words.isEmpty then .help else .usage

structure Level where
  given : Given
  below : Option (CommandSpec × List String) := none
  /-- A refusal that the command below may forestall. -/
  late : Option Refusal := none

/-- What an argument that names a command below comes to, with the arguments after it. -/
def commandLevel? (spec : CommandSpec) (g : Given) (late : Option Refusal) (argument : String)
    (rest : List String) : Option (Except Refusal Level) :=
  match spec.command? argument with
  | some command => some (.ok { given := g, below := some (command, rest), late })
  | none =>
    if argument = "help" ∧ !spec.commands.isEmpty then some (.error (helpOn spec rest)) else none

/-- A refused value of an option, which is not looked at before the argument after it: a command
below or a request for help comes first. -/
def refusedLevel (spec : CommandSpec) (g : Given) (refusal : Refusal) :
    List String → Except Refusal Level
  | [] => .error refusal
  | argument :: rest =>
    (commandLevel? spec g (some refusal) argument rest).getD (.error refusal)

def readLevel (spec : CommandSpec) (options : List OptionSpec) :
    List String → Given → Except Refusal Level
  | [], g => .ok { given := g }
  | argument :: rest, g =>
    let onward (progress : Except Refusal Progress) : Except Refusal Level :=
      match progress with
      | .error r => .error r
      | .ok (.complete g) => readLevel spec options rest g
      | .ok (.awaiting option g) =>
        match rest with
        | [] => .error .usage
        | value :: rest =>
          if (Argument.of value).mayBeValue then
            match g.withOption option value with
            | .error r => refusedLevel spec g r rest
            | .ok g => readLevel spec options rest g
          else .error .usage
    match Argument.of argument with
    | .terminator => (g.withOperands spec rest).map fun g => { given := g }
    | .long name value => onward (readLong options g name value)
    | .shorts letters => onward (readShorts options g letters)
    | .word text =>
      match commandLevel? spec g none text rest with
      | some level => level
      | none =>
        match g.withOperands spec [text] with
        | .error r => .error r
        | .ok g => readLevel spec options rest g

def helpOption : OptionSpec := { long := "help", short := some 'h', kind := .help }

def isComplete (spec : CommandSpec) (g : Given) : Bool :=
  spec.commands.isEmpty && g.operands.length == spec.operands.length &&
    spec.conflicts.all fun pair => !(g.has pair.1 && g.has pair.2)

/-- Reads the arguments of a command and of the commands below it, which lie at most that deep;
the shared options belong to every command. -/
def readCommand (shared : List OptionSpec) : Nat → CommandSpec → List String →
    Except Refusal Given
  | 0, _, _ => .error .usage
  | depth + 1, spec, arguments =>
    match readLevel spec (helpOption :: shared ++ spec.options) arguments {} with
    | .error r => .error r
    | .ok ⟨g, none, _⟩ =>
      if isComplete spec g then .ok { g with commands := [spec.name] } else .error .usage
    | .ok ⟨g, some (command, rest), late⟩ =>
      match readCommand shared depth command rest, late with
      | .error r, _ => .error r
      | .ok _, some r => .error r
      | .ok below, none =>
        .ok {
          commands := spec.name :: below.commands
          options := g.options ++ below.options
          operands := below.operands }

def read (shared : List OptionSpec) (program : CommandSpec) (arguments : List String) :
    Except Refusal Given :=
  readCommand shared (arguments.length + 1) program arguments

end EtcdKit.Arguments
