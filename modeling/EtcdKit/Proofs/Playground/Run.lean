import EtcdKit.Playground.Backend
/-!
# Run — what happens to a session, step after step

A run is a list of steps, each an operation and the clock that its lines are written by, over any
backend.  Every answer that the
backend gives, and the end that polling notes, is an event; the session after a run is the one that
its events replay (`session_run`).
-/
namespace EtcdKit.Playground

/-- What can change a session: the answer to a call, or the end of it as polling notes it. -/
inductive Change where
  | connected (answer : Except Error Connection)
  | disconnected (answer : Except Error Unit)
  | refreshed (answer : Except Error ServerStatus)
  | submitted (request : Request) (answer : Except Error Response)
  | expired

/-- A change, and the clock that its lines are written by. -/
structure Event where
  clock : Clock
  change : Change

namespace Session

/-- The session after an event. -/
def after (s : Session) (e : Event) : Session :=
  match e.change with
  | .connected answer => s.connected e.clock answer
  | .disconnected answer => s.disconnected e.clock answer
  | .refreshed answer => s.refreshed e.clock answer
  | .submitted request answer => s.submitted e.clock request answer
  | .expired => s.expired e.clock

/-- The session after a list of events. -/
def replay (s : Session) (es : List Event) : Session := es.foldl after s

theorem replay_append (s : Session) (es fs : List Event) :
    s.replay (es ++ fs) = (s.replay es).replay fs := List.foldl_append

end Session

/-- What can be asked of a session. -/
inductive Operation (σ : Type) where
  | connect
  | disconnect
  | refresh
  | submit (request : Request)
  /-- Polling, which shows every round to the backend, with the ends of its waits. -/
  | poll (tick : Session → σ → σ) (waits : List Wait)

/-- An operation, and the clock that its lines are written by. -/
structure Step (σ : Type) where
  clock : Clock
  operation : Operation σ

/-- What steps leave behind, and what happened in them. -/
structure Turn (σ : Type) where
  session : Session
  world : σ
  events : List Event

section Noting

variable {σ α : Type}

/-- A question that also notes its answers. -/
def noting (fetch : σ → α × σ) (noted : σ × List α) : α × (σ × List α) :=
  let (answer, world) := fetch noted.1
  (answer, (world, noted.2 ++ [answer]))

/-- What is shown to a world is shown to it beside the notes. -/
def beside (tick : Session → σ → σ) (shown : Session) (noted : σ × List α) : σ × List α :=
  (tick shown noted.1, noted.2)

end Noting

variable {σ : Type}

/-- What happens while a session is polled: the answers it is given, and then its end if the
backend says that it is over. -/
def pollEvents (s : Session) (b : Backend σ) (tick : Session → σ → σ) (clock : Clock) (world : σ)
    (waits : List Wait) : List Event :=
  let result := s.poll (noting b.status) (beside tick) clock (world, []) waits
  result.world.2.map (fun answer => ⟨clock, .refreshed answer⟩) ++
    (if result.stop = some .inactive then [⟨clock, .expired⟩] else [])

/-- Carries out a step. -/
def Step.perform (b : Backend σ) (step : Step σ) (s : Session) (world : σ) : Turn σ :=
  let clock := step.clock
  match step.operation with
  | .connect =>
    let out := s.connect b clock world
    ⟨out.session, out.world, [⟨clock, .connected out.result⟩]⟩
  | .disconnect =>
    let out := s.disconnect b clock world
    ⟨out.session, out.world, [⟨clock, .disconnected out.result⟩]⟩
  | .refresh =>
    let out := s.refresh b clock world
    ⟨out.session, out.world, [⟨clock, .refreshed (b.status world).1⟩]⟩
  | .submit r =>
    let out := s.submit b clock r world
    ⟨out.session, out.world, [⟨clock, .submitted r (b.submit (s.addressed r) world).1⟩]⟩
  | .poll tick waits =>
    let result := s.poll b.status tick clock world waits
    ⟨result.session, result.world, pollEvents s b tick clock world waits⟩

/-- Carries out steps one after another. -/
def run (b : Backend σ) : List (Step σ) → Session → σ → Turn σ
  | [], s, world => ⟨s, world, []⟩
  | step :: steps, s, world =>
    let first := step.perform b s world
    let rest := run b steps first.session first.world
    { rest with events := first.events ++ rest.events }

/-- **Noting the answers changes nothing else** about polling. -/
theorem poll_noting (b : Backend σ) (tick : Session → σ → σ) (clock : Clock) :
    ∀ (waits : List Wait) (s : Session) (world : σ) (seen : List (Except Error ServerStatus)),
      let plain := s.poll b.status tick clock world waits
      let noted := s.poll (noting b.status) (beside tick) clock (world, seen) waits
      noted.session = plain.session ∧ noted.world.1 = plain.world ∧ noted.stop = plain.stop
  | [], _, _, _ => ⟨rfl, rfl, rfl⟩
  | wait :: waits, s, world, seen => by
    intro plain noted
    cases hg : Session.goesOn (b.status world).1 with
    | false =>
      have hp : plain = _ := Session.poll_inactive b.status tick clock s world waits wait hg
      have hn : noted = _ := Session.poll_inactive (noting b.status) (beside tick) clock s
        (world, seen) waits wait hg
      rw [hp, hn]
      exact ⟨rfl, rfl, rfl⟩
    | true =>
      by_cases hw : wait = .elapsed
      · subst hw
        have hp : plain = _ := Session.poll_elapsed b.status tick clock s world waits hg
        have hn : noted = _ := Session.poll_elapsed (noting b.status) (beside tick) clock s
          (world, seen) waits hg
        rw [hp, hn]
        exact poll_noting b tick clock waits _ _ _
      · have hp : plain = _ := Session.poll_cancelled b.status tick clock s world waits hw hg
        have hn : noted = _ := Session.poll_cancelled (noting b.status) (beside tick) clock s
          (world, seen) waits hw hg
        rw [hp, hn]
        exact ⟨rfl, rfl, rfl⟩

/-- **Polling is refreshing**, once for each answer, and then noting the end of a session that the
backend has closed. -/
theorem poll_noting_session (b : Backend σ) (tick : Session → σ → σ) (clock : Clock) :
    ∀ (waits : List Wait) (s : Session) (world : σ) (seen : List (Except Error ServerStatus)),
      let result := s.poll (noting b.status) (beside tick) clock (world, seen) waits
      ∃ answers, result.world.2 = seen ++ answers ∧
        result.session = s.replay (answers.map (fun answer => ⟨clock, .refreshed answer⟩) ++
          (if result.stop = some .inactive then [⟨clock, .expired⟩] else []))
  | [], _, _, seen => ⟨[], (List.append_nil seen).symm, rfl⟩
  | wait :: waits, s, world, seen => by
    intro result
    cases hg : Session.goesOn (b.status world).1 with
    | false =>
      have hr : result = _ := Session.poll_inactive (noting b.status) (beside tick) clock s
        (world, seen) waits wait hg
      rw [hr]
      exact ⟨[(b.status world).1], rfl, rfl⟩
    | true =>
      by_cases hw : wait = .elapsed
      · subst hw
        have hr : result = _ := Session.poll_elapsed (noting b.status) (beside tick) clock s
          (world, seen) waits hg
        rw [hr]
        obtain ⟨answers, hn, hs⟩ := poll_noting_session b tick clock waits
          (s.refreshed clock (b.status world).1) (tick (s.refreshed clock (b.status world).1)
            (b.status world).2) (seen ++ [(b.status world).1])
        refine ⟨(b.status world).1 :: answers, ?_, hs⟩
        rw [List.append_assoc, List.singleton_append] at hn
        exact hn
      · have hr : result = _ := Session.poll_cancelled (noting b.status) (beside tick) clock s
          (world, seen) waits hw hg
        rw [hr]
        exact ⟨[(b.status world).1], rfl, rfl⟩

/-- **A step replays its events.** -/
theorem session_perform (b : Backend σ) (step : Step σ) (s : Session) (world : σ) :
    (step.perform b s world).session = s.replay (step.perform b s world).events := by
  obtain ⟨clock, operation⟩ := step
  cases operation with
  | connect => rfl
  | disconnect => rfl
  | refresh => rfl
  | submit r => rfl
  | poll tick waits =>
    obtain ⟨hplain, -, -⟩ := poll_noting b tick clock waits s world []
    obtain ⟨answers, hw, hs⟩ := poll_noting_session b tick clock waits s world []
    rw [List.nil_append] at hw
    change (s.poll b.status tick clock world waits).session =
      s.replay (pollEvents s b tick clock world waits)
    rw [← hplain, hs, pollEvents, hw]

/-- **A run replays its events.** -/
theorem session_run (b : Backend σ) : ∀ (steps : List (Step σ)) (s : Session) (world : σ),
    (run b steps s world).session = s.replay (run b steps s world).events
  | [], _, _ => rfl
  | step :: steps, s, world => by
    rw [run, session_run b steps, Session.replay_append, ← session_perform]

end EtcdKit.Playground
