import EtcdKit.Proofs.Playground.Run
/-!
# Growth — how the log of a session grows

Every event adds lines of its own to the log and changes nothing that stands there (`log_after`).
So the log of a run is what its events add, one after another, and each line carries its place
(`log_of_run`).
-/
namespace EtcdKit.Playground

namespace LogBook

/-- The levels and messages of a log. -/
def entries (log : LogBook) : List (LogLevel × String) :=
  log.lines.map fun line => (line.level, line.message)

/-- The log with one more line for each entry. -/
def extend (log : LogBook) (clock : Clock) (added : List (LogLevel × String)) : LogBook :=
  added.foldl (fun log entry => log.write clock entry.1 entry.2) log

theorem writeAll_eq_extend (log : LogBook) (clock : Clock) (level : LogLevel)
    (messages : List String) :
    log.writeAll clock level messages = log.extend clock (messages.map (level, ·)) := by
  rw [writeAll, extend, List.foldl_map]

/-- The line that an entry becomes at a place of the log. -/
def lineAt (clock : Clock) (entry : (LogLevel × String) × Nat) : LogLine :=
  ⟨entry.2, entry.1.1, clock entry.2, entry.1.2⟩

/-- **What stands in a log stays**, and each new entry takes the next place, at the moment that the clock
shows then. -/
theorem lines_extend (clock : Clock) : ∀ (added : List (LogLevel × String)) (log : LogBook),
    (log.extend clock added).lines = log.lines ++ (added.zipIdx log.size).map (lineAt clock)
  | [], log => (List.append_nil _).symm
  | entry :: added, log => by
    change ((log.write clock entry.1 entry.2).extend clock added).lines = _
    rw [lines_extend clock added, size_write, List.zipIdx_cons, List.map_cons, List.append_cons]
    rfl

theorem entries_extend (clock : Clock) (added : List (LogLevel × String)) (log : LogBook) :
    (log.extend clock added).entries = log.entries ++ added := by
  rw [entries, lines_extend, List.map_append, List.map_map]
  exact congrArg _ (List.zipIdx_map_fst log.size added)

/-- Nothing that stands in a log changes when it grows. -/
theorem lines_prefix_extend (clock : Clock) (added : List (LogLevel × String)) (log : LogBook) :
    log.lines <+: (log.extend clock added).lines := by
  rw [lines_extend]
  exact List.prefix_append log.lines _

/-- The lines carry their places, counted from zero. -/
def Numbered (log : LogBook) : Prop := log.lines.map (·.index) = List.range log.size

theorem numbered_extend (clock : Clock) (added : List (LogLevel × String)) {log : LogBook}
    (h : log.Numbered) : (log.extend clock added).Numbered := by
  have hplaces : ((added.zipIdx log.size).map (lineAt clock)).map (·.index) =
      List.range' log.size added.length := by
    rw [List.map_map]
    exact List.zipIdx_map_snd log.size added
  rw [Numbered, size, lines_extend, List.map_append, h, hplaces]
  simp only [List.range_eq_range', List.length_append, List.length_map, List.length_zipIdx, size]
  rw [← List.range'_append_1, Nat.zero_add]

/-- Every line was written at the moment that the clock showed then. -/
def Timed (log : LogBook) (clock : Clock) : Prop := ∀ line ∈ log.lines, line.moment = clock line.index

theorem timed_extend {clock : Clock} (added : List (LogLevel × String)) {log : LogBook}
    (h : log.Timed clock) : (log.extend clock added).Timed clock := by
  rw [Timed, lines_extend]
  refine List.forall_mem_append.2 ⟨h, ?_⟩
  rintro line hline
  obtain ⟨entry, -, rfl⟩ := List.mem_map.1 hline
  rfl

end LogBook

/-- What a response tells: the lines of its result, or where there are none the result itself, or
nothing. -/
def Response.told (r : Response) : List String :=
  match r.resultLines, r.result with
  | [], "" => []
  | [], result => [result]
  | lines, _ => lines

theorem Response.logLines_eq_told (r : Response) : r.logLines = r.told := by
  unfold logLines told
  cases r.resultLines with
  | nil => by_cases h : r.result = "" <;> simp [h]
  | cons line lines => rfl

/-- The lines that an event adds to the log of the session before it. -/
def Event.lines (s : Session) (e : Event) : List (LogLevel × String) :=
  match e.change with
  | .connected (.ok c) =>
    (if c.deleted then [(.warn, Session.deletedNote)] else []) ++
      [(.info, "connected as '" ++ c.user ++ "'")]
  | .connected (.error err) => [(.error, "connect failed: " ++ err.message)]
  | .disconnected (.ok ()) => [(.info, "disconnected")]
  | .disconnected (.error err) => [(.error, "disconnect failed: " ++ err.message)]
  | .refreshed (.ok status) =>
    match s.newLeader? status with
    | some name => [(.info, name ++ " is the leader")]
    | none => []
  | .refreshed (.error err) => [(.error, "server status failed: " ++ err.message)]
  | .submitted r (.ok response) =>
    (.info, "request: " ++ (s.addressed r).describe) ::
      response.told.map (if response.success then LogLevel.info else LogLevel.error, ·)
  | .submitted r (.error err) =>
    [(.info, "request: " ++ (s.addressed r).describe),
      (.error, r.action.text ++ " failed: " ++ err.message)]
  | .expired => [(.warn, "playground session is no longer active")]

/-- The call failed, or its response says so. -/
def Event.unsuccessful (e : Event) : Bool :=
  match e.change with
  | .connected (.error _) => true
  | .disconnected (.error _) => true
  | .refreshed (.error _) => true
  | .submitted _ (.error _) => true
  | .submitted _ (.ok response) => !response.success
  | _ => false

namespace Session

/-- The lines that events add, one after another. -/
def dictated : Session → List Event → List (LogLevel × String)
  | _, [] => []
  | s, e :: es => e.lines s ++ dictated (s.after e) es

theorem addressed_action (s : Session) (r : Request) : (s.addressed r).action = r.action := by
  rw [addressed]
  split <;> rfl

/-- **An event extends the log by its lines**, and does nothing else to it. -/
theorem log_after (s : Session) (e : Event) :
    (s.after e).log = s.log.extend e.clock (e.lines s) := by
  obtain ⟨clock, change⟩ := e
  cases change with
  | connected answer =>
    cases answer with
    | error err => rfl
    | ok c => simp only [after, connected, Event.lines]; split <;> rfl
  | disconnected answer => cases answer <;> rfl
  | refreshed answer =>
    cases answer with
    | error err => rfl
    | ok status => simp only [after, refreshed, Event.lines]; cases s.newLeader? status <;> rfl
  | submitted r answer =>
    cases answer with
    | error err =>
      simp only [after, submitted, answered, addressed_action, Event.lines]
      rfl
    | ok response =>
      simp only [after, submitted, answered, LogBook.writeAll_eq_extend, Event.lines,
        Response.logLines_eq_told]
      rfl
  | expired => rfl

theorem lines_prefix_after (s : Session) (e : Event) : s.log.lines <+: (s.after e).log.lines := by
  rw [log_after]
  exact LogBook.lines_prefix_extend e.clock (e.lines s) s.log

/-- **A log is only appended to.** -/
theorem lines_prefix_replay : ∀ (es : List Event) (s : Session),
    s.log.lines <+: (s.replay es).log.lines
  | [], _ => List.prefix_rfl
  | e :: es, s => (s.lines_prefix_after e).trans (lines_prefix_replay es (s.after e))

theorem numbered_replay : ∀ (es : List Event) (s : Session), s.log.Numbered →
    (s.replay es).log.Numbered
  | [], _, h => h
  | e :: es, s, h => by
    refine numbered_replay es (s.after e) ?_
    rw [log_after]
    exact LogBook.numbered_extend e.clock (e.lines s) h

/-- **The log after events** is the log before them and the lines that they add. -/
theorem entries_replay : ∀ (es : List Event) (s : Session),
    (s.replay es).log.entries = s.log.entries ++ s.dictated es
  | [], _ => (List.append_nil _).symm
  | e :: es, s => by
    change ((s.after e).replay es).log.entries = _
    rw [entries_replay es (s.after e), log_after, LogBook.entries_extend, dictated,
      List.append_assoc]

end Session

/-- An event that adds an error line was not successful. -/
theorem Event.unsuccessful_of_error_mem {s : Session} {e : Event} {message : String}
    (h : (LogLevel.error, message) ∈ e.lines s) : e.unsuccessful = true := by
  obtain ⟨clock, change⟩ := e
  cases change with
  | connected answer =>
    cases answer with
    | error err => rfl
    | ok c => simp only [lines] at h; split at h <;> simp at h
  | disconnected answer =>
    cases answer with
    | error err => rfl
    | ok u => simp [lines] at h
  | refreshed answer =>
    cases answer with
    | error err => rfl
    | ok status => simp only [lines] at h; split at h <;> simp at h
  | submitted r answer =>
    cases answer with
    | error err => rfl
    | ok response =>
      simp only [lines, List.mem_cons, Prod.mk.injEq, reduceCtorEq, false_and, false_or] at h
      obtain ⟨line, -, hl⟩ := List.mem_map.1 h
      cases hs : response.success with
      | false => simp [unsuccessful, hs]
      | true => simp [hs] at hl
  | expired => simp [lines] at h

/-- **An error line comes from an event that was not successful**: it is among the lines that such
an event added. -/
theorem exists_unsuccessful_of_error : ∀ (es : List Event) (s : Session) (i : Nat) (line : LogLine),
    s.log.size ≤ i → (s.replay es).log.lines[i]? = some line → line.level = .error →
      ∃ earlier e later, es = earlier ++ e :: later ∧ e.unsuccessful = true ∧
        (s.replay earlier).log.size ≤ i ∧ i < (s.replay (earlier ++ [e])).log.size
  | [], s, i, line, hi, hl, _ => by
    have hlt : i < s.log.lines.length := (List.getElem?_eq_some_iff.1 hl).1
    rw [LogBook.size] at hi
    omega
  | e :: es, s, i, line, hi, hl, he => by
    by_cases hn : i < (s.after e).log.size
    · refine ⟨[], e, es, rfl, ?_, hi, hn⟩
      -- the line stands in the log right after the event, behind all that stood there before
      obtain ⟨rest, hrest⟩ := Session.lines_prefix_replay es (s.after e)
      have hl' : (s.after e).log.lines[i]? = some line := by
        rw [← hl]
        change _ = ((s.after e).replay es).log.lines[i]?
        rw [← hrest, List.getElem?_append_left hn]
      have hen : (s.after e).log.entries[i]? = some (line.level, line.message) := by
        rw [LogBook.entries, List.getElem?_map, hl']
        rfl
      have hlen : s.log.entries.length = s.log.size := List.length_map _
      rw [Session.log_after, LogBook.entries_extend,
        List.getElem?_append_right (by omega), he] at hen
      exact Event.unsuccessful_of_error_mem (List.mem_of_getElem? hen)
    · obtain ⟨earlier, f, later, hes, hf, hlo, hhi⟩ :=
        exists_unsuccessful_of_error es (s.after e) i line (by omega) hl he
      exact ⟨e :: earlier, f, later, by rw [hes]; rfl, hf, hlo, hhi⟩

/-- **The log of a run**: it is what the events of the run add, one after another; line after line
carries its place; no step changes what stands in it; and every error line was added by a call that
failed or by a response that says so. -/
theorem log_of_run {σ : Type} (b : Backend σ) (world : σ) (steps : List (Step σ)) :
    let turn := run b steps {} world
    turn.session.log.entries = Session.dictated {} turn.events ∧
      turn.session.log.lines.map (·.index) = List.range turn.session.log.size ∧
      (∀ step : Step σ,
        let next := step.perform b turn.session turn.world
        turn.session.log.lines <+: next.session.log.lines ∧
          next.session.log.entries =
            turn.session.log.entries ++ turn.session.dictated next.events) ∧
      ∀ i line, turn.session.log.lines[i]? = some line → line.level = .error →
        ∃ earlier e later, turn.events = earlier ++ e :: later ∧ e.unsuccessful = true ∧
          (Session.replay {} earlier).log.size ≤ i ∧
          i < (Session.replay {} (earlier ++ [e])).log.size := by
  intro turn
  have hs : turn.session = Session.replay {} turn.events := session_run b steps {} world
  refine ⟨?_, ?_, fun step => ?_, fun i line hl he => ?_⟩
  · rw [hs, Session.entries_replay]
    rfl
  · rw [hs]
    exact Session.numbered_replay turn.events {} rfl
  · intro next
    have hn : next.session = turn.session.replay next.events :=
      session_perform b step turn.session turn.world
    rw [hn]
    exact ⟨Session.lines_prefix_replay next.events turn.session,
      Session.entries_replay next.events turn.session⟩
  · rw [hs] at hl
    exact exists_unsuccessful_of_error turn.events {} i line (Nat.zero_le i) hl he

end EtcdKit.Playground
