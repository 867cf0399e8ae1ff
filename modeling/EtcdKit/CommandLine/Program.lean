import EtcdKit.CommandLine.Play
import EtcdKit.CommandLine.Render
/-!
# Program — the whole command line

The program renders a target, prints the sample profile, or talks to the playground.  It ends with
an exit code, what it printed, and the error that it reports.
-/
namespace EtcdKit.CommandLine

open Arguments

def programName : String := "etcdlabs"

def programVersion : String := "0.3.0"

def sharedOptions : List OptionSpec :=
  [{ long := "profile", short := some 'p', kind := .valued .someText },
    { long := "verbose", short := some 'v', kind := .repeatable }]

def defaultsSpec : CommandSpec := { name := "defaults", aliases := ["d"] }

def programSpec : CommandSpec where
  name := programName
  options := [{ long := "version", short := some 'V', kind := .version }]
  commands := [renderSpec, defaultsSpec, playSpec]

inductive Task where
  | render (target : Except Error Target)
  | defaults
  | play (command : Playground.Command)

def taskOf? (g : Given) : Option Task :=
  match g.commands with
  | [_, "defaults"] => some .defaults
  | [_, "render", name] => (targetOf? name g).map .render
  | [_, "play", name] => (playCommandOf? name g).map .play
  | _ => none

structure Invocation where
  profile : Option String
  task : Task

def Invocation.ofArguments (arguments : List String) : Except Refusal Invocation :=
  match read sharedOptions programSpec arguments with
  | .error r => .error r
  | .ok g =>
    match taskOf? g with
    | some task => .ok ⟨g.value? "profile", task⟩
    | none => .error .usage

def taskSpec : CommandSpec where
  name := programName
  commands := [{ renderSpec with aliases := [] }, { playSpec with aliases := [] }]

/-- The task of arguments without options that may stand anywhere. -/
def Task.ofArguments (arguments : List String) : Except Refusal Task :=
  match read [] taskSpec arguments with
  | .error r => .error r
  | .ok g => (taskOf? g).elim (.error .usage) .ok

structure Outcome where
  code : Nat
  output : String := ""
  error : Option Error := none
  server : Http.Server := {}
  terminal : Playground.Terminal := {}

def Outcome.report (o : Outcome) : String :=
  match o.error with
  | some e => "Error: " ++ e.message ++ "\n"
  | none => ""

def versionText : String := programName ++ " " ++ programVersion ++ "\n"

/-- What the program shows when it is asked for help: the commands and the commands below them. -/
def helpText : String :=
  "Usage: " ++ programName ++ " [--profile PATH] [--verbose] COMMAND\n" ++
  String.join (programSpec.commands.map fun command =>
    "  " ++ command.name ++
      String.join (command.commands.map fun below => "\n    " ++ below.name) ++ "\n")

def refused : Refusal → Outcome
  | .usage => { code := 2 }
  | .help => { code := 0, output := helpText }
  | .version => { code := 0, output := versionText }

def printing (setting : Setting) : Except Error String → Outcome
  | .ok text => { code := 0, output := text, server := setting.server, terminal := setting.terminal }
  | .error e =>
    { code := 1, error := some e, server := setting.server, terminal := setting.terminal }

def playing (stamp : Int → String) (o : PlayOutcome) : Outcome where
  code := match o.result with
    | .ok code => code
    | .error _ => 1
  output := printedText stamp o.printed
  error := match o.result with
    | .ok _ => none
    | .error e => some e
  server := o.server
  terminal := o.terminal

/-- The program from its arguments to its end; `readText` gives the text of a file, and `stamp`
writes a moment. -/
def run (readText : String → Except Error String) (stamp : Int → String) (setting : Setting)
    (arguments : List String) : Outcome :=
  match Invocation.ofArguments arguments with
  | .error r => { refused r with server := setting.server, terminal := setting.terminal }
  | .ok ⟨profile, .render target⟩ => printing setting (render readText profile target)
  | .ok ⟨_, .defaults⟩ => printing setting Sample.profile.toToml
  | .ok ⟨profile, .play command⟩ => playing stamp (play readText profile setting command)

end EtcdKit.CommandLine
