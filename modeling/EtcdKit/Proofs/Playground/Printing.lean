import EtcdKit.Playground.Command
import EtcdKit.Proofs.Playground.Growth
/-!
# Printing — the log as it is printed, line after line

All prints of a command share one counter.  A stage changes by moves, and after each of them the
lines printed so far are the first lines of the log, as many as the counter says
(`countsPrinted_perform`).  Every command is a run of moves, polling and the shell included
(`reaches_run`), and one that ends without an error prints the log last (`upToDate_run`).
-/
namespace EtcdKit.Playground

namespace LogBook

variable (log : LogBook) (k : Nat)

theorem take_append_since : log.lines.take k ++ log.since k = log.lines :=
  List.take_append_drop k log.lines

theorem since_eq_nil_iff : log.since k = [] ↔ log.size ≤ k := List.drop_eq_nil_iff

end LogBook

/-- What can happen on a stage at once. -/
inductive Move where
  | connect
  | disconnect
  | refresh
  | submit (request : Request)
  /-- The end of the session is noted, as polling does. -/
  | expire
  /-- Questions have left the terminal like that. -/
  | ask (terminal : Terminal)
  | printLog
  | printStatus
  | printLine (text : String)

namespace Stage

/-- The lines of the log that have been printed. -/
def loggedLines (st : Stage) : List LogLine := st.printed.filterMap Printed.logLine?

/-- The stage after a move. -/
def move (st : Stage) : Move → Stage
  | .connect => st.connect.2
  | .disconnect => st.disconnect.2
  | .refresh => st.refresh
  | .submit r => (st.submit r).2
  | .expire => { st with session := st.session.expired st.clock }
  | .ask terminal => { st with terminal }
  | .printLog => st.printLog
  | .printStatus => st.printStatus
  | .printLine text => st.printLine text

/-- The stage after moves, one after another. -/
def perform (st : Stage) (moves : List Move) : Stage := moves.foldl move st

/-- The counter is right: so many lines of the log have been printed, and they are its first. -/
structure CountsPrinted (st : Stage) : Prop where
  lines : st.loggedLines = st.session.log.lines.take st.logged
  le : st.logged ≤ st.session.log.size

/-! ## One move -/

theorem filterMap_logLine?_log (lines : List LogLine) :
    (lines.map Printed.log).filterMap Printed.logLine? = lines := by
  rw [List.filterMap_map]
  exact List.filterMap_some

theorem filterMap_logLine?_other (texts : List String) :
    (texts.map Printed.other).filterMap Printed.logLine? = [] := by
  rw [List.filterMap_map]
  exact List.filterMap_eq_nil_iff.2 fun _ _ => rfl

/-- A log that grows while nothing is printed leaves the counter right. -/
theorem CountsPrinted.grow {st st' : Stage} (h : st.CountsPrinted)
    (hlog : st.session.log.lines <+: st'.session.log.lines) (hprinted : st'.printed = st.printed)
    (hlogged : st'.logged = st.logged) : st'.CountsPrinted := by
  obtain ⟨added, hadded⟩ := hlog
  constructor
  · rw [loggedLines, hprinted, hlogged, ← hadded, List.take_append_of_le_length h.le]
    exact h.lines
  · have := h.le
    rw [hlogged, LogBook.size, ← hadded, List.length_append]
    exact Nat.le_add_right_of_le this

/-- Printing other texts leaves the counter right. -/
theorem CountsPrinted.other {st : Stage} (h : st.CountsPrinted) (texts : List String) :
    CountsPrinted { st with printed := st.printed ++ texts.map .other } := by
  constructor
  · rw [loggedLines, List.filterMap_append, filterMap_logLine?_other, List.append_nil]
    exact h.lines
  · exact h.le

theorem CountsPrinted.printLog {st : Stage} (h : st.CountsPrinted) : st.printLog.CountsPrinted := by
  constructor
  · have hall : st.printLog.session.log.lines.take st.printLog.logged = st.session.log.lines :=
      List.take_length
    rw [hall, loggedLines, Stage.printLog, List.filterMap_append, filterMap_logLine?_log]
    change st.loggedLines ++ _ = _
    rw [h.lines, LogBook.take_append_since]
  · exact Nat.le_refl _

/-- A move leaves the session as it is, or is an event in it by the clock of the stage. -/
theorem session_move (st : Stage) (m : Move) : (st.move m).session = st.session ∨
    ∃ change, (st.move m).session = st.session.after ⟨st.clock, change⟩ := by
  cases m with
  | connect => exact .inr ⟨.connected (backend.connect st).1, rfl⟩
  | disconnect => exact .inr ⟨.disconnected (backend.disconnect st).1, rfl⟩
  | refresh => exact .inr ⟨.refreshed (backend.status st).1, rfl⟩
  | submit r => exact .inr ⟨.submitted r (backend.submit (st.session.addressed r) st).1, rfl⟩
  | expire => exact .inr ⟨.expired, rfl⟩
  | ask _ | printLog | printStatus | printLine _ => exact .inl rfl

theorem lines_prefix_move (st : Stage) (m : Move) :
    st.session.log.lines <+: (st.move m).session.log.lines := by
  rcases st.session_move m with hsame | ⟨change, hafter⟩
  · exact hsame.symm ▸ List.prefix_rfl
  · rw [hafter]
    exact st.session.lines_prefix_after ⟨st.clock, change⟩

/-- **Every move leaves the counter right**: those of the session print nothing and only append to
the log, and those that print leave the log as it is. -/
theorem CountsPrinted.move {st : Stage} (h : st.CountsPrinted) (m : Move) :
    (st.move m).CountsPrinted := by
  cases m with
  | connect | disconnect | refresh | submit _ | expire | ask _ =>
    exact h.grow (st.lines_prefix_move _) rfl rfl
  | printLog => exact h.printLog
  | printStatus => exact h.other (statusLines st.session.status)
  | printLine text => exact h.other [text]

theorem clock_move (st : Stage) (m : Move) : (st.move m).clock = st.clock := by
  cases m <;> rfl

/-- The log is in order: each line carries its place and the moment that the clock showed then. -/
structure InOrder (st : Stage) : Prop where
  numbered : st.session.log.Numbered
  timed : st.session.log.Timed st.clock

theorem InOrder.move {st : Stage} (h : st.InOrder) (m : Move) : (st.move m).InOrder := by
  rcases st.session_move m with hsame | ⟨change, hafter⟩
  · exact ⟨hsame ▸ h.numbered, by rw [clock_move, hsame]; exact h.timed⟩
  · constructor
    · rw [hafter, Session.log_after]
      exact LogBook.numbered_extend _ _ h.numbered
    · rw [clock_move, hafter, Session.log_after]
      exact LogBook.timed_extend _ h.timed

/-! ## Many moves -/

theorem inOrder_perform : ∀ (moves : List Move) {st : Stage}, st.InOrder →
    (st.perform moves).InOrder
  | [], _, h => h
  | m :: moves, _, h => inOrder_perform moves (h.move m)

theorem clock_perform : ∀ (moves : List Move) (st : Stage), (st.perform moves).clock = st.clock
  | [], _ => rfl
  | m :: moves, st => (clock_perform moves (st.move m)).trans (st.clock_move m)

theorem countsPrinted_perform : ∀ (moves : List Move) {st : Stage}, st.CountsPrinted →
    (st.perform moves).CountsPrinted
  | [], _, h => h
  | m :: moves, _, h => countsPrinted_perform moves (h.move m)

/-- What is said when polling finds that the session is over. -/
def endNote : String := "Playground session has expired; reconnect to continue"

/-- The move is one of a command: no line is printed beside the status and the log but that note. -/
def Plain : Move → Prop
  | .printLine text => text = endNote
  | _ => True

/-- Some moves of a command lead from the first stage to the second. -/
def Reaches (st st' : Stage) : Prop :=
  ∃ moves : List Move, (∀ m ∈ moves, Plain m) ∧ st' = st.perform moves

theorem Reaches.refl (st : Stage) : st.Reaches st := ⟨[], List.forall_mem_nil _, rfl⟩

theorem reaches_move (st : Stage) (m : Move) (h : Plain m) : st.Reaches (st.move m) :=
  ⟨[m], List.forall_mem_singleton.2 h, rfl⟩

theorem Reaches.trans {first second third : Stage} (h : first.Reaches second)
    (h' : second.Reaches third) : first.Reaches third := by
  obtain ⟨moves, hplain, rfl⟩ := h
  obtain ⟨moves', hplain', rfl⟩ := h'
  exact ⟨moves ++ moves', List.forall_mem_append.2 ⟨hplain, hplain'⟩, List.foldl_append.symm⟩

/-- **A round of polling** refreshes, prints the status, and prints the log; polling repeats it and
may note the end of the session. -/
theorem reaches_poll : ∀ (waits : List Wait) (st : Stage),
    let result := st.session.poll backend.status showRound st.clock st waits
    st.Reaches { result.world with session := result.session }
  | [], st => .refl st
  | wait :: waits, st => by
    intro result
    have hround : st.Reaches (st.perform [.refresh, .printStatus, .printLog]) :=
      ⟨_, by simp [Plain], rfl⟩
    cases hg : Session.goesOn (backend.status st).1 with
    | false =>
      have hr : result = _ :=
        Session.poll_inactive backend.status showRound st.clock st.session st waits wait hg
      rw [hr]
      exact hround.trans (reaches_move _ .expire trivial)
    | true =>
      by_cases hw : wait = .elapsed
      · subst hw
        have hr : result = _ :=
          Session.poll_elapsed backend.status showRound st.clock st.session st waits hg
        rw [hr]
        exact hround.trans (reaches_poll waits _)
      · have hr : result = _ :=
          Session.poll_cancelled backend.status showRound st.clock st.session st waits hw hg
        rw [hr]
        exact hround

theorem reaches_watch (st : Stage) : st.Reaches st.watch := by
  have hended := (reaches_poll st.waits st).trans (reaches_move _ .printLog trivial)
  unfold watch
  dsimp only
  split
  · exact hended.trans (reaches_move _ (.printLine _) rfl)
  · exact hended

/-! ## The shell -/

theorem reaches_act (st : Stage) (action : Action) : st.Reaches (st.act action).2 := by
  unfold act
  split
  · exact reaches_move st (.ask _) trivial
  · exact reaches_move st (.ask _) trivial
  · exact ⟨[.ask _, .submit _, .printLog], by simp [Plain], rfl⟩

theorem reaches_carryOut (st : Stage) (choice : Choice) : st.Reaches (st.carryOut choice).2 := by
  cases choice with
  | quit => exact .refl st
  | status => exact ⟨[.printStatus, .printLog], by simp [Plain], rfl⟩
  | act action => exact reaches_act st action

theorem reaches_shellRound (st : Stage) : st.Reaches st.shellRound.2 := by
  have hasked : ∀ terminal, st.Reaches { st.refresh with terminal } := fun terminal =>
    ⟨[.refresh, .ask terminal], by simp [Plain], rfl⟩
  unfold shellRound
  dsimp only
  split
  · exact hasked _
  · exact hasked _
  · exact (hasked _).trans (reaches_carryOut _ _)

theorem reaches_shellRounds : ∀ (bound : Nat) (st : Stage), st.Reaches (shellRounds bound st).2
  | 0, st => .refl st
  | bound + 1, st => by
    have hround := reaches_shellRound st
    rw [shellRounds]
    split
    · rename_i st' hgo
      rw [hgo] at hround
      exact hround.trans (reaches_shellRounds bound st')
    · exact hround

theorem reaches_shell (st : Stage) : st.Reaches st.shell.2 := by
  have hconnect := reaches_move st .connect trivial
  unfold shell
  split
  · rename_i st₁ hc
    rw [show st.move .connect = st₁ from congrArg Prod.snd hc] at hconnect
    exact hconnect
  · rename_i st₁ hc
    rw [show st.move .connect = st₁ from congrArg Prod.snd hc] at hconnect
    dsimp only
    have hrounds := (hconnect.trans (reaches_move st₁ .printLog trivial)).trans
      (reaches_shellRounds (st₁.printLog.terminal.replies.length + 1) st₁.printLog)
    split
    · rename_i st₂ hr
      rw [hr] at hrounds
      exact hrounds
    · rename_i st₂ _ hr
      have hdisconnect := hrounds.trans (reaches_move _ .disconnect trivial)
      rw [hr] at hdisconnect
      split
      · rename_i st₃ hd
        rw [show st₂.move .disconnect = st₃ from congrArg Prod.snd hd] at hdisconnect
        exact hdisconnect
      · rename_i st₃ hd
        rw [show st₂.move .disconnect = st₃ from congrArg Prod.snd hd] at hdisconnect
        exact hdisconnect.trans (reaches_move st₃ .printLog trivial)

/-! ## Commands -/

theorem reaches_afterCall {st : Stage} {out : Except Error Unit × Stage} (h : st.Reaches out.2) :
    st.Reaches (afterCall out).2 := by
  obtain ⟨result, st'⟩ := out
  cases result with
  | error e => exact h
  | ok u => exact h.trans (reaches_move st' .printLog trivial)

theorem reaches_submitOnce (st : Stage) (r : Request) : st.Reaches (st.submitOnce r).2 :=
  ⟨[.submit r, .printLog], by simp [Plain], rfl⟩

theorem run_shell (st : Stage) : st.run .shell = (st.shell.1.map fun _ => 0, st.shell.2) := by
  rw [run]
  obtain ⟨result, st'⟩ := st.shell
  cases result <;> rfl

/-- **Every command is a run of moves.** -/
theorem reaches_run (st : Stage) (command : Command) : st.Reaches (st.run command).2 := by
  cases command with
  | connect => exact reaches_afterCall (reaches_move st .connect trivial)
  | disconnect => exact reaches_afterCall (reaches_move st .disconnect trivial)
  | status =>
    have hrefresh := reaches_move st .refresh trivial
    change st.Reaches (showStatus st).2
    unfold showStatus
    dsimp only
    split
    · exact hrefresh
    · exact hrefresh.trans ⟨[.printStatus, .printLog], by simp [Plain], rfl⟩
  | watch interval => exact reaches_watch st
  | submit request => exact (reaches_move st .refresh trivial).trans (reaches_submitOnce _ request)
  | member action target => exact (reaches_move st .refresh trivial).trans (reaches_submitOnce _ _)
  | shell =>
    rw [run_shell]
    exact reaches_shell st

/-- The whole log has been printed, as far as the counter says. -/
def UpToDate (st : Stage) : Prop := st.logged = st.session.log.size

theorem upToDate_printLog (st : Stage) : st.printLog.UpToDate := rfl

theorem upToDate_afterCall {out : Except Error Unit × Stage} {code : Nat}
    (h : (afterCall out).1 = .ok code) : (afterCall out).2.UpToDate := by
  obtain ⟨result, st⟩ := out
  cases result with
  | error e => cases h
  | ok u => exact upToDate_printLog st

theorem upToDate_shell {st : Stage} (h : st.shell.1 = .ok ()) : st.shell.2.UpToDate := by
  revert h
  unfold shell
  split
  · intro h
    cases h
  · dsimp only
    split
    · intro h
      cases h
    · split
      · intro h
        cases h
      · intro _
        exact upToDate_printLog _

/-- **A command that ends without an error prints the log last.** -/
theorem upToDate_run {st : Stage} {command : Command} {code : Nat}
    (h : (st.run command).1 = .ok code) : (st.run command).2.UpToDate := by
  cases command with
  | connect => exact upToDate_afterCall h
  | disconnect => exact upToDate_afterCall h
  | status =>
    revert h
    change (showStatus st).1 = .ok code → (showStatus st).2.UpToDate
    unfold showStatus
    dsimp only
    split
    · intro h
      cases h
    · intro _
      exact upToDate_printLog _
  | watch interval =>
    change st.watch.UpToDate
    unfold watch
    dsimp only
    split
    · exact upToDate_printLog _
    · exact upToDate_printLog _
  | submit request => exact upToDate_printLog _
  | member action target => exact upToDate_printLog _
  | shell =>
    rw [run_shell] at h ⊢
    refine upToDate_shell ?_
    cases hs : st.shell.1 with
    | error e =>
      rw [hs] at h
      cases h
    | ok u => rfl

end Stage

end EtcdKit.Playground
