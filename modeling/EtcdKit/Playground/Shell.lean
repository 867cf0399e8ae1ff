import EtcdKit.Playground.Questions
import EtcdKit.Playground.Stage
/-!
# Shell — an interactive session

The shell connects, and then goes through rounds: it fetches the status, asks what to do, and does it.
It disconnects when the user leaves; it ends without a further call when a question fails.
-/
namespace EtcdKit.Playground

inductive Choice where
  | status
  | act (action : Action)
  | quit
  deriving DecidableEq, Repr

namespace Choice

def all : List Choice := [.status] ++ Action.all.map .act ++ [.quit]

def text : Choice → String
  | .status => "status"
  | .act action => action.text
  | .quit => "quit"

def menu : List String := all.map text

end Choice

inductive RoundEnd where
  | goOn
  | leave
  | failed (error : Error)

namespace Stage

def act (st : Stage) (action : Action) : RoundEnd × Stage :=
  match Asking.request st.session.status action st.terminal with
  | (.failed e, terminal) => (.failed e, { st with terminal })
  | (.cancelled, terminal) => (.goOn, { st with terminal })
  | (.given request, terminal) => (.goOn, (({ st with terminal }).submit request).2.printLog)

def carryOut (st : Stage) : Choice → RoundEnd × Stage
  | .quit => (.leave, st)
  | .status => (.goOn, st.printStatus.printLog)
  | .act action => st.act action

def shellRound (st : Stage) : RoundEnd × Stage :=
  let st := st.refresh
  match Asking.select "Action" Choice.menu "Failed to select action: " st.terminal with
  | (.failed e, terminal) => (.failed e, { st with terminal })
  | (.cancelled, terminal) => (.leave, { st with terminal })
  | (.given index, terminal) => ({ st with terminal }).carryOut (Choice.all.getD index .quit)

/-- Rounds until one ends the shell, at most the given number. -/
def shellRounds : Nat → Stage → RoundEnd × Stage
  | 0, st => (.leave, st)
  | bound + 1, st =>
    match st.shellRound with
    | (.goOn, st) => shellRounds bound st
    | ended => ended

/-- The shell from its first call to its last.

A round that goes on has taken a reply, and a round without replies fails, so that the bound on the
rounds is never reached. -/
def shell (st : Stage) : Except Error Unit × Stage :=
  match st.connect with
  | (.error e, st) => (.error e, st)
  | (.ok (), st) =>
    let st := st.printLog
    match st.shellRounds (st.terminal.replies.length + 1) with
    | (.failed e, st) => (.error e, st)
    | (_, st) =>
      match st.disconnect with
      | (.error e, st) => (.error e, st)
      | (.ok (), st) => (.ok (), st.printLog)

end Stage
end EtcdKit.Playground
