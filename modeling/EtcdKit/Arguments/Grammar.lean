/-!
# Grammar — what the arguments of a program may be

A command has options, operands and further commands.  An option has a long name and perhaps a
letter.  Arguments that follow the grammar are gathered in `Given`.
-/
namespace EtcdKit.Arguments

inductive ValueRule where
  | anyText
  | someText
  /-- A number of at most 64 bits. -/
  | number
  deriving DecidableEq, Repr

inductive OptionKind where
  /-- Takes a value, and is given at most once. -/
  | valued (rule : ValueRule)
  /-- Takes no value, and is given at most once. -/
  | switch
  /-- Takes no value, and is given any number of times. -/
  | repeatable
  | help
  | version
  deriving DecidableEq, Repr

structure OptionSpec where
  long : String
  short : Option Char := none
  kind : OptionKind := .switch
  deriving DecidableEq, Repr

structure CommandSpec where
  name : String
  aliases : List String := []
  options : List OptionSpec := []
  /-- Pairs of options that exclude each other. -/
  conflicts : List (String × String) := []
  /-- The names of the operands, all of which must be given. -/
  operands : List String := []
  /-- The commands below it, one of which must be given if there are any. -/
  commands : List CommandSpec := []

def CommandSpec.answersTo (spec : CommandSpec) (word : String) : Bool :=
  spec.name == word || spec.aliases.contains word

def CommandSpec.command? (spec : CommandSpec) (word : String) : Option CommandSpec :=
  spec.commands.find? fun c => c.answersTo word

structure Given where
  commands : List String := []
  /-- The options with their values, in order; a switch has the empty text. -/
  options : List (String × String) := []
  operands : List String := []
  deriving DecidableEq, Repr

namespace Given

def has (g : Given) (long : String) : Bool := g.options.any fun o => o.1 == long

/-- The value of an option; the one given last counts. -/
def value? (g : Given) (long : String) : Option String :=
  (g.options.reverse.find? fun o => o.1 == long).map Prod.snd

end Given

inductive Refusal where
  | usage
  | help
  | version
  deriving DecidableEq, Repr

end EtcdKit.Arguments
