import EtcdKit.Proofs.Playground.Growth
/-!
# Latest — what a session knows is what the latest calls said

The status of a session is the latest that was fetched, its connection is that of the latest
connect or disconnect that succeeded, and its last error is the line that the latest fetch or
request left in the log if it failed (`session_reflects_latest`).
-/
namespace EtcdKit.Playground

/-- What the latest event says, of those that say something. -/
def latest? {α : Type} (f : Event → Option α) (es : List Event) : Option α :=
  es.reverse.findSome? f

namespace Event

/-- The status that a call fetched. -/
def fetched? (e : Event) : Option ServerStatus :=
  match e.change with
  | .refreshed (.ok status) => some status
  | _ => none

/-- The connection after a connect or disconnect that succeeded. -/
def linked? (e : Event) : Option (Option Connection) :=
  match e.change with
  | .connected (.ok c) => some (some c)
  | .disconnected (.ok ()) => some none
  | _ => none

/-- Whether a fetch or a request succeeded. -/
def delivered? (e : Event) : Option Bool :=
  match e.change with
  | .refreshed (.ok _) => some true
  | .refreshed (.error _) => some false
  | .submitted _ (.ok _) => some true
  | .submitted _ (.error _) => some false
  | _ => none

/-- The message that a fetch or a request leaves, if it failed. -/
def complaint? (e : Event) : Option (Option String) :=
  match e.change with
  | .refreshed (.ok _) => some none
  | .refreshed (.error err) => some (some ("server status failed: " ++ err.message))
  | .submitted _ (.ok _) => some none
  | .submitted r (.error err) => some (some (r.action.text ++ " failed: " ++ err.message))
  | _ => none

end Event

theorem latest?_cons {α : Type} (f : Event → Option α) (e : Event) (es : List Event) :
    latest? f (e :: es) = (latest? f es).or (f e) := by
  rw [latest?, List.reverse_cons, List.findSome?_append, latest?, List.findSome?_singleton]

/-- Where the latest event that says something stands. -/
theorem latest?_eq_some {α : Type} {f : Event → Option α} {es : List Event} {a : α}
    (h : latest? f es = some a) :
    ∃ earlier e later, es = earlier ++ e :: later ∧ f e = some a ∧ ∀ x ∈ later, f x = none := by
  obtain ⟨later, e, earlier, he, hf, hn⟩ := List.findSome?_eq_some_iff.1 h
  refine ⟨earlier.reverse, e, later.reverse, ?_, hf, fun x hx => hn x (List.mem_reverse.1 hx)⟩
  rw [← List.reverse_reverse es, he]
  simp

/-- **A field that every event keeps or sets** is what the latest event says that sets it. -/
theorem replay_latest? {α : Type} (field : Session → α) (f : Event → Option α)
    (hf : ∀ s e, field (s.after e) = (f e).getD (field s)) :
    ∀ (es : List Event) (s : Session), field (s.replay es) = (latest? f es).getD (field s)
  | [], _ => rfl
  | e :: es, s => by
    have ih := replay_latest? field f hf es (s.after e)
    rw [hf s e] at ih
    rw [latest?_cons]
    change field ((s.after e).replay es) = _
    rw [ih]
    cases latest? f es <;> rfl

namespace Session

theorem status_after (s : Session) (e : Event) :
    (s.after e).status = (e.fetched?).getD s.status := by
  obtain ⟨clock, change⟩ := e
  cases change with
  | connected answer =>
    cases answer with
    | error err => rfl
    | ok c => simp only [after, connected, Event.fetched?]; split <;> rfl
  | disconnected answer => cases answer <;> rfl
  | refreshed answer => cases answer <;> rfl
  | submitted r answer => cases answer <;> rfl
  | expired => rfl

theorem connection_after (s : Session) (e : Event) :
    (s.after e).connection = (e.linked?).getD s.connection := by
  obtain ⟨clock, change⟩ := e
  cases change with
  | connected answer => cases answer <;> rfl
  | disconnected answer => cases answer <;> rfl
  | refreshed answer =>
    cases answer with
    | error err => rfl
    | ok status => simp only [after, refreshed, Event.linked?]; split <;> rfl
  | submitted r answer => cases answer <;> rfl
  | expired => rfl

theorem lastError_after (s : Session) (e : Event) :
    (s.after e).lastError = (e.complaint?).getD s.lastError := by
  obtain ⟨clock, change⟩ := e
  cases change with
  | connected answer =>
    cases answer with
    | error err => rfl
    | ok c => simp only [after, connected, Event.complaint?]; split <;> rfl
  | disconnected answer => cases answer <;> rfl
  | refreshed answer => cases answer <;> rfl
  | submitted r answer =>
    cases answer with
    | error err =>
      simp only [after, submitted, answered, recordFailure, addressed_action, Event.complaint?,
        Option.getD_some]
    | ok response => rfl
  | expired => rfl

end Session

theorem Event.delivered?_eq (e : Event) : e.delivered? = e.complaint?.map Option.isNone := by
  obtain ⟨clock, change⟩ := e
  cases change with
  | connected answer => rfl
  | disconnected answer => rfl
  | refreshed answer => cases answer <;> rfl
  | submitted r answer => cases answer <;> rfl
  | expired => rfl

theorem latest?_delivered? (es : List Event) :
    latest? Event.delivered? es = (latest? Event.complaint? es).map Option.isNone := by
  rw [latest?, latest?, List.map_findSome?]
  congr 1
  funext e
  exact e.delivered?_eq

/-- The message that an event leaves is its one error line, which stands behind its other lines. -/
theorem Event.lines_of_complaint? {e : Event} {message : String}
    (h : e.complaint? = some (some message)) (s : Session) :
    ∃ before, e.lines s = before ++ [(.error, message)] ∧ ∀ x ∈ before, x.1 ≠ .error := by
  obtain ⟨clock, change⟩ := e
  cases change with
  | connected answer => simp [complaint?] at h
  | disconnected answer => simp [complaint?] at h
  | refreshed answer =>
    cases answer with
    | error err =>
      simp only [complaint?, Option.some.injEq] at h
      exact ⟨[], by rw [← h]; rfl, by simp⟩
    | ok status => simp [complaint?] at h
  | submitted r answer =>
    cases answer with
    | error err =>
      simp only [complaint?, Option.some.injEq] at h
      exact ⟨[(.info, "request: " ++ (s.addressed r).describe)], by rw [← h]; rfl, by simp⟩
    | ok response => simp [complaint?] at h
  | expired => simp [complaint?] at h

/-- What a session that started afresh knows after events. -/
structure Reflects (es : List Event) (s : Session) : Prop where
  /-- The status is the latest that was fetched. -/
  status : s.status = (latest? Event.fetched? es).getD .initial
  /-- There is a connection exactly if the latest connect or disconnect that succeeded was a
  connect, and then it is what that gave. -/
  connection : s.connection = (latest? Event.linked? es).join
  /-- There is no last error unless the latest fetch or request failed. -/
  lastError_eq_none : s.lastError = none ↔ latest? Event.delivered? es ≠ some false
  /-- The last error is the error line of the latest fetch or request. -/
  lastError_eq_some : ∀ message, s.lastError = some message →
    ∃ earlier e later before, es = earlier ++ e :: later ∧
      e.delivered? = some false ∧ (∀ x ∈ later, x.delivered? = none) ∧
      (Session.replay {} (earlier ++ [e])).log.entries =
        (Session.replay {} earlier).log.entries ++ before ++ [(.error, message)] ∧
      ∀ x ∈ before, x.1 ≠ .error

theorem reflects_replay (es : List Event) : Reflects es (Session.replay {} es) where
  status := replay_latest? Session.status Event.fetched? Session.status_after es {}
  connection := by
    rw [replay_latest? Session.connection Event.linked? Session.connection_after es {}]
    cases latest? Event.linked? es <;> rfl
  lastError_eq_none := by
    rw [replay_latest? Session.lastError Event.complaint? Session.lastError_after es {},
      latest?_delivered?]
    cases latest? Event.complaint? es with
    | none => simp
    | some complaint => cases complaint <;> simp
  lastError_eq_some := by
    intro message h
    rw [replay_latest? Session.lastError Event.complaint? Session.lastError_after es {}] at h
    have hl : latest? Event.complaint? es = some (some message) := by
      cases hc : latest? Event.complaint? es with
      | none => rw [hc] at h; cases h
      | some complaint => rw [hc] at h; exact congrArg some h
    obtain ⟨earlier, e, later, hes, he, hlater⟩ := latest?_eq_some hl
    obtain ⟨before, hlines, hbefore⟩ := Event.lines_of_complaint? he (Session.replay {} earlier)
    refine ⟨earlier, e, later, before, hes, ?_, fun x hx => ?_, ?_, hbefore⟩
    · rw [e.delivered?_eq, he]
      rfl
    · rw [x.delivered?_eq, hlater x hx]
      rfl
    · rw [Session.replay_append]
      change ((Session.replay {} earlier).after e).log.entries = _
      rw [Session.log_after, LogBook.entries_extend, hlines, List.append_assoc]

/-- **A session reflects its latest calls**, after every run over any backend; and a connect or
disconnect that fails after it gives the backend's error, and leaves what the session knows. -/
theorem session_reflects_latest {σ : Type} (b : Backend σ) (world : σ) (steps : List (Step σ)) :
    let turn := run b steps {} world
    let s := turn.session
    Reflects turn.events s ∧
      (∀ clock e, (b.connect turn.world).1 = .error e →
        let out := s.connect b clock turn.world
        out.result = .error e ∧ out.session.status = s.status ∧
          out.session.connection = s.connection ∧ out.session.lastError = s.lastError) ∧
      ∀ clock e, (b.disconnect turn.world).1 = .error e →
        let out := s.disconnect b clock turn.world
        out.result = .error e ∧ out.session.status = s.status ∧
          out.session.connection = s.connection ∧ out.session.lastError = s.lastError := by
  intro turn s
  refine ⟨?_, fun clock e h => ?_, fun clock e h => ?_⟩
  · have hs : s = Session.replay {} turn.events := session_run b steps {} world
    rw [hs]
    exact reflects_replay turn.events
  · refine ⟨h, ?_, ?_, ?_⟩ <;> simp only [Session.connect, h] <;> rfl
  · refine ⟨h, ?_, ?_, ?_⟩ <;> simp only [Session.disconnect, h] <;> rfl

end EtcdKit.Playground
