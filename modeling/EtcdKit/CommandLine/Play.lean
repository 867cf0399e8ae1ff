import EtcdKit.Arguments.Reader
import EtcdKit.Playground.Command
import EtcdKit.Profile.Loading
/-!
# Play — the playground on the command line
-/
namespace EtcdKit.CommandLine

open Arguments Playground

/-- Takes a key as the front of many keys. -/
def prefixOption : OptionSpec := { long := "prefix" }

def playSpec : CommandSpec where
  name := "play"
  aliases := ["p"]
  commands := [
    { name := "connect", aliases := ["c"] },
    { name := "disconnect" },
    { name := "status", aliases := ["s"] },
    { name := "watch", aliases := ["w"],
      options := [{ long := "interval", kind := .valued .number }] },
    { name := "write", operands := ["key", "value"] },
    { name := "get", options := [prefixOption], operands := ["key"] },
    { name := "delete", options := [prefixOption], operands := ["key"] },
    { name := "stress" },
    { name := "stop-node", operands := ["node"] },
    { name := "restart-node", operands := ["node"] },
    { name := "shell" }]

/-- Seconds between two polls, if nothing else is said. -/
def pollInterval : Nat := 1

def playCommandOf? (name : String) (g : Given) : Option Playground.Command :=
  let byPrefix := g.has "prefix"
  match name, g.operands with
  | "connect", [] => some .connect
  | "disconnect", [] => some .disconnect
  | "status", [] => some .status
  | "watch", [] => some (.watch (((g.value? "interval").bind number?).getD pollInterval))
  | "write", [key, value] => some (.submit { action := .write, keyValue := ⟨key, value⟩ })
  | "get", [key] => some (.submit { action := .get, byPrefix, keyValue := ⟨key, ""⟩ })
  | "delete", [key] => some (.submit { action := .delete, byPrefix, keyValue := ⟨key, ""⟩ })
  | "stress", [] => some (.submit { action := .stress })
  | "stop-node", [target] => some (.member .stopNode target)
  | "restart-node", [target] => some (.member .restartNode target)
  | "shell", [] => some .shell
  | _, _ => none

/-- The playground and the user as a command finds them. -/
structure Setting where
  server : Http.Server := {}
  terminal : Terminal := {}
  /-- How the waits between two polls end. -/
  waits : List Wait := [.signalled]
  clock : Clock := fun _ => 0

structure PlayOutcome where
  result : Except Error Nat
  printed : List Printed := []
  server : Http.Server
  terminal : Terminal

def play (readText : String → Except Error String) (path : Option String) (setting : Setting)
    (command : Playground.Command) : PlayOutcome :=
  match Profile.load readText path with
  | .error e => { result := .error e, server := setting.server, terminal := setting.terminal }
  | .ok p =>
    let stage : Stage := {
      client := { endpoint := p.playground.endpoint, server := setting.server }
      terminal := setting.terminal
      waits := setting.waits
      clock := setting.clock }
    let (result, stage) := stage.run command
    { result, printed := stage.printed, server := stage.client.server, terminal := stage.terminal }

/-- What was printed, with moments written by `stamp`. -/
def printedText (stamp : Int → String) (printed : List Printed) : String :=
  String.join (printed.map (Printed.text stamp))

end EtcdKit.CommandLine
