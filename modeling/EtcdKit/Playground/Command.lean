import EtcdKit.Playground.Shell
/-!
# Command — what a user can have done with the playground
-/
namespace EtcdKit.Playground

inductive Command where
  | connect
  | disconnect
  | status
  /-- Follows the status, with that many seconds between two polls. -/
  | watch (interval : Nat)
  | submit (request : Request)
  /-- Stops or restarts a member, given by its name or its endpoint. -/
  | member (action : Action) (target : String)
  | shell
  deriving DecidableEq, Repr

namespace Stage

/-- The end of a command that made one call: its log is printed if the call succeeded. -/
def afterCall : Except Error Unit × Stage → Except Error Nat × Stage
  | (.ok (), st) => (.ok 0, st.printLog)
  | (.error e, st) => (.error e, st)

/-- Sends a request, prints the log, and ends with 0 or 1 as the request succeeded or not. -/
def submitOnce (st : Stage) (r : Request) : Except Error Nat × Stage :=
  let (succeeded, st) := st.submit r
  (.ok (if succeeded then 0 else 1), st.printLog)

def showStatus (st : Stage) : Except Error Nat × Stage :=
  let st := st.refresh
  match st.session.lastError with
  | some message => (.error (.backend message none), st)
  | none => (.ok 0, st.printStatus.printLog)

def run (st : Stage) : Command → Except Error Nat × Stage
  | .connect => afterCall st.connect
  | .disconnect => afterCall st.disconnect
  | .status => st.showStatus
  | .watch _ => (.ok 0, st.watch)
  | .submit request => st.refresh.submitOnce request
  | .member action target =>
    let st := st.refresh
    st.submitOnce { action, endpoints := [st.session.status.endpointOf target] }
  | .shell =>
    match st.shell with
    | (.ok (), st) => (.ok 0, st)
    | (.error e, st) => (.error e, st)

end Stage
end EtcdKit.Playground
