import EtcdKit.Playground.Backend
import EtcdKit.Playground.Client
import EtcdKit.Playground.Terminal
/-!
# Stage — a session between a playground and a user

A stage holds the session with the client that calls the playground and the terminal that asks the
user, and it collects what is printed.  The lines of the log are printed once each, in order.
-/
namespace EtcdKit.Playground

inductive Printed where
  | log (line : LogLine)
  | other (text : String)
  deriving DecidableEq, Repr

namespace Printed

def logLine? : Printed → Option LogLine
  | .log line => some line
  | .other _ => none

def text (stamp : Int → String) : Printed → String
  | .log line => line.textWithStamp (stamp line.moment) ++ "\n"
  | .other content => content ++ "\n"

end Printed

structure Stage where
  client : Client
  terminal : Terminal := {}
  waits : List Wait := []
  clock : Clock := fun _ => 0
  session : Session := {}
  /-- How many lines of the log have been printed. -/
  logged : Nat := 0
  printed : List Printed := []

namespace Stage

/-- The playground of a stage, as it answers a session. -/
def backend : Backend Stage where
  connect st := let (answer, client) := st.client.connect; (answer, { st with client })
  disconnect st := let (answer, client) := st.client.disconnect; (answer, { st with client })
  status st := let (answer, client) := st.client.status; (answer, { st with client })
  submit r st := let (answer, client) := st.client.submit r; (answer, { st with client })

def after {α : Type} (out : Outcome α Stage) : Stage := { out.world with session := out.session }

def connect (st : Stage) : Except Error Unit × Stage :=
  let out := st.session.connect backend st.clock st
  (out.result.map fun _ => (), after out)

def disconnect (st : Stage) : Except Error Unit × Stage :=
  let out := st.session.disconnect backend st.clock st
  (out.result, after out)

def refresh (st : Stage) : Stage := after (st.session.refresh backend st.clock st)

def succeeded (response : Option Response) : Bool := response.any Response.success

def submit (st : Stage) (r : Request) : Bool × Stage :=
  let out := st.session.submit backend st.clock r st
  (succeeded out.result, after out)

/-- Prints the lines of the log that have not been printed. -/
def printLog (st : Stage) : Stage :=
  { st with
    printed := st.printed ++ (st.session.log.since st.logged).map .log
    logged := st.session.log.size }

def printLine (st : Stage) (text : String) : Stage :=
  { st with printed := st.printed ++ [.other text] }

def memberLine (m : MemberStatus) : String :=
  (if m.isLeader then "*" else " ") ++ Text.padRight 6 m.name ++ " " ++ Text.padRight 10 m.state ++
    " " ++ Text.padRight 18 m.endpoint ++ " " ++ Text.padLeft 8 m.sizeText ++ "  hash=" ++
    toString m.hash.toInt

def statusLines (s : ServerStatus) : List String :=
  ("uptime: " ++ s.uptime ++ "  users: " ++ toString s.userCount.toNat) :: s.members.map memberLine

def printStatus (st : Stage) : Stage :=
  { st with printed := st.printed ++ (statusLines st.session.status).map .other }

def showRound (session : Session) (st : Stage) : Stage :=
  ({ st with session }).printStatus.printLog

/-- Follows the status until the session ends or a wait is cut short. -/
def watch (st : Stage) : Stage :=
  let result := st.session.poll backend.status showRound st.clock st st.waits
  let ended := ({ result.world with session := result.session }).printLog
  if result.stop = some .inactive then
    ended.printLine "Playground session has expired; reconnect to continue"
  else ended

end Stage
end EtcdKit.Playground
