import EtcdKit.Playground.Poll
/-!
# Backend — what answers the calls of a session

A backend answers calls, and may change with each of them.  An operation of a session makes its
calls, and leaves its result, the session and the backend behind.
-/
namespace EtcdKit.Playground

/-- What answers the calls of a session; `σ` is what it knows from one call to the next. -/
structure Backend (σ : Type) where
  connect : σ → Except Error Connection × σ
  disconnect : σ → Except Error Unit × σ
  status : σ → Except Error ServerStatus × σ
  submit : Request → σ → Except Error Response × σ

structure Outcome (α σ : Type) where
  result : α
  session : Session
  world : σ

namespace Session

variable {σ : Type}

/-- Opens the session; an error of the backend is passed on. -/
def connect (s : Session) (b : Backend σ) (clock : Clock) (world : σ) :
    Outcome (Except Error Connection) σ :=
  let (answer, world) := b.connect world
  ⟨answer, s.connected clock answer, world⟩

def disconnect (s : Session) (b : Backend σ) (clock : Clock) (world : σ) :
    Outcome (Except Error Unit) σ :=
  let (answer, world) := b.disconnect world
  ⟨answer, s.disconnected clock answer, world⟩

/-- Fetches the status, and tells whether the session goes on. -/
def refresh (s : Session) (b : Backend σ) (clock : Clock) (world : σ) : Outcome Bool σ :=
  let (answer, world) := b.status world
  ⟨goesOn answer, s.refreshed clock answer, world⟩

/-- Sends a request; there is no response if it could not be delivered. -/
def submit (s : Session) (b : Backend σ) (clock : Clock) (r : Request) (world : σ) :
    Outcome (Option Response) σ :=
  let (answer, world) := b.submit (s.addressed r) world
  ⟨answer.toOption, s.submitted clock r answer, world⟩

end Session
end EtcdKit.Playground
