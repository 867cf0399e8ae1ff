import EtcdKit.Playground.Session
/-!
# Poll — following the status of a session until it ends

Every round fetches the status, shows the session, and waits.  Polling ends when the playground says
that the session is not active, which is noticed before the wait, or when the wait is cut short.
-/
namespace EtcdKit.Playground

inductive Wait where
  | elapsed
  | signalled
  /-- Nobody is left who could ask to stop. -/
  | abandoned
  deriving DecidableEq, Repr

inductive PollEnd where
  | cancelled
  | inactive
  deriving DecidableEq, Repr

/-- What polling leaves behind, beside the world that answers it. -/
structure PollResult (σ : Type) where
  session : Session
  world : σ
  /-- Why polling ended; none if the waits ran out before it did. -/
  stop : Option PollEnd

namespace Session

variable {σ : Type}

/-- Follows the status of a session, one round for each wait.

`fetch` asks the world for the status, and `tick` shows the world the session of a round. -/
def poll (fetch : σ → Except Error ServerStatus × σ) (tick : Session → σ → σ) (clock : Clock)
    (s : Session) (world : σ) : List Wait → PollResult σ
  | [] => ⟨s, world, none⟩
  | wait :: waits =>
    let (answer, world) := fetch world
    let shown := s.refreshed clock answer
    let world := tick shown world
    if goesOn answer then
      match wait with
      | .elapsed => poll fetch tick clock shown world waits
      | _ => ⟨shown, world, some .cancelled⟩
    else ⟨shown.expired clock, world, some .inactive⟩

variable (fetch : σ → Except Error ServerStatus × σ) (tick : Session → σ → σ) (clock : Clock)
  (s : Session) (world : σ) (waits : List Wait)

/-- A round that the playground ends: the session is shown, and its end is noted after that. -/
theorem poll_inactive (wait : Wait) (h : goesOn (fetch world).1 = false) :
    s.poll fetch tick clock world (wait :: waits) =
      ⟨(s.refreshed clock (fetch world).1).expired clock,
        tick (s.refreshed clock (fetch world).1) (fetch world).2, some .inactive⟩ := by
  simp [poll, h]

theorem poll_cancelled {wait : Wait} (hw : wait ≠ .elapsed) (h : goesOn (fetch world).1 = true) :
    s.poll fetch tick clock world (wait :: waits) =
      ⟨s.refreshed clock (fetch world).1,
        tick (s.refreshed clock (fetch world).1) (fetch world).2, some .cancelled⟩ := by
  cases wait with
  | elapsed => exact absurd rfl hw
  | signalled => simp [poll, h]
  | abandoned => simp [poll, h]

theorem poll_elapsed (h : goesOn (fetch world).1 = true) :
    s.poll fetch tick clock world (.elapsed :: waits) =
      (s.refreshed clock (fetch world).1).poll fetch tick clock
        (tick (s.refreshed clock (fetch world).1) (fetch world).2) waits := by
  simp [poll, h]

end Session
end EtcdKit.Playground
