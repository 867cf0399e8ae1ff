import EtcdKit.Error
import EtcdKit.Playground.LogBook
import EtcdKit.Playground.Request
import EtcdKit.Playground.Status
/-!
# Session — what a client knows about the playground

A session changes with what the playground answers to each call: the functions below take the answer
of one call and give the session after it.  An answer that is an error is noted in the log; a failed
status or request is also kept as the last error.  Every line of the log is written at the moment that
the clock shows then.
-/
namespace EtcdKit.Playground

structure Session where
  status : ServerStatus := .initial
  connection : Option Connection := none
  /-- The message of the last status or request, if it failed. -/
  lastError : Option String := none
  log : LogBook := {}
  deriving DecidableEq, Repr

namespace Session

def note (s : Session) (clock : Clock) (level : LogLevel) (message : String) : Session :=
  { s with log := s.log.write clock level message }

def recordFailure (s : Session) (clock : Clock) (message : String) : Session :=
  { s.note clock .error message with lastError := some message }

def deletedNote : String := "previous session was deleted; starting a new one"

def connected (s : Session) (clock : Clock) : Except Error Connection → Session
  | .error e => s.note clock .error ("connect failed: " ++ e.message)
  | .ok c =>
    let warned := if c.deleted then s.note clock .warn deletedNote else s
    { warned.note clock .info ("connected as '" ++ c.user ++ "'") with connection := some c }

def disconnected (s : Session) (clock : Clock) : Except Error Unit → Session
  | .error e => s.note clock .error ("disconnect failed: " ++ e.message)
  | .ok () => { s.note clock .info "disconnected" with connection := none }

/-- The leader that a new status announces: one that did not lead before. -/
def newLeader? (s : Session) (status : ServerStatus) : Option String :=
  match status.leaderName? with
  | some name => if s.status.leaderName? = some name then none else some name
  | none => none

def refreshed (s : Session) (clock : Clock) : Except Error ServerStatus → Session
  | .error e => s.recordFailure clock ("server status failed: " ++ e.message)
  | .ok status =>
    let announced := match s.newLeader? status with
      | some name => s.note clock .info (name ++ " is the leader")
      | none => s
    { announced with status := status, lastError := none }

/-- The session goes on after an attempt to fetch the status: a failure does not end it. -/
def goesOn : Except Error ServerStatus → Bool
  | .error _ => true
  | .ok status => status.active

/-- The request that is sent: one without endpoints goes to those of the last status. -/
def addressed (s : Session) (r : Request) : Request :=
  if r.endpoints.isEmpty then { r with endpoints := s.status.endpoints } else r

def requesting (s : Session) (clock : Clock) (r : Request) : Session :=
  s.note clock .info ("request: " ++ r.describe)

def answered (s : Session) (clock : Clock) (r : Request) : Except Error Response → Session
  | .error e => s.recordFailure clock (r.action.text ++ " failed: " ++ e.message)
  | .ok response =>
    let level := if response.success then LogLevel.info else LogLevel.error
    { s with log := s.log.writeAll clock level response.logLines, lastError := none }

/-- The session after a request, with the answer to the request that was sent for it. -/
def submitted (s : Session) (clock : Clock) (r : Request) (answer : Except Error Response) : Session :=
  (s.requesting clock (s.addressed r)).answered clock (s.addressed r) answer

def expired (s : Session) (clock : Clock) : Session :=
  s.note clock .warn "playground session is no longer active"

end Session
end EtcdKit.Playground
