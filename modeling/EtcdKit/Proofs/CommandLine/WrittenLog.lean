import EtcdKit.Proofs.CommandLine.ExitCodes
import EtcdKit.Proofs.Playground.Printing
/-!
# WrittenLog — the log as a command writes it out

What a command writes is told piece by piece: lines of the log behind those that were written before, a table
of the members, the note that a session is over (`Told`).  Every move tells on (`told_perform`), and a command
that ends without an error has told the whole log (`written_lines_follow_log`).
-/
namespace EtcdKit
namespace CommandLine

open Playground

/-- The word of a level, at the left of five columns. -/
def levelColumn : LogLevel → String
  | .info => "INFO "
  | .warn => "WARN "
  | .error => "ERROR"

/-- A line of the log as it is written: its place at the right of four columns, the stamp of its moment, its
level, and its message. -/
def lineText (stamp : Int → String) (line : LogLine) : String :=
  let place := toString line.index
  "[" ++ String.ofList (List.replicate (4 - place.length) ' ') ++ place ++ "] " ++
    stamp line.moment ++ " " ++ levelColumn line.level ++ " " ++ line.message ++ "\n"

def logText (stamp : Int → String) (lines : List LogLine) : String :=
  String.join (lines.map (lineText stamp))

def tableText (status : ServerStatus) : String :=
  String.join ((Stage.statusLines status).map (· ++ "\n"))

/-- A text tells lines of a log, one after another: each piece of it is further lines of the log, the table
of a status, or another line of the kind that is noted beside them. -/
inductive Told (stamp : Int → String) (Noted : String → Prop) : List LogLine → String → Prop where
  | nothing : Told stamp Noted [] ""
  | lines {told text} (before : Told stamp Noted told text) (more : List LogLine) :
      Told stamp Noted (told ++ more) (text ++ logText stamp more)
  | table {told text} (before : Told stamp Noted told text) (status : ServerStatus) :
      Told stamp Noted told (text ++ tableText status)
  | note {told text note} (before : Told stamp Noted told text) (noted : Noted note) :
      Told stamp Noted told (text ++ (note ++ "\n"))

variable {stamp : Int → String}

/-! ## Pieces of what is printed -/

theorem padLeft_eq (width : Nat) (s : String) :
    Text.padLeft width s = String.ofList (List.replicate (width - s.length) ' ') ++ s := by
  simp [Text.padLeft, Text.Field.fill, Text.Field.cut, Text.blanks, String.ofList_append,
    String.length_toList]

theorem text_log (line : LogLine) : Printed.text stamp (.log line) = lineText stamp line := by
  have hlevel : Text.padRight 5 line.level.text = levelColumn line.level := by
    cases line.level <;> rfl
  simp only [Printed.text, LogLine.textWithStamp, hlevel, padLeft_eq, lineText, String.append_assoc]

theorem printedText_append (printed more : List Printed) :
    printedText stamp (printed ++ more) = printedText stamp printed ++ printedText stamp more := by
  rw [printedText, List.map_append, String.join_append]
  rfl

theorem printedText_log (lines : List LogLine) :
    printedText stamp (lines.map .log) = logText stamp lines := by
  rw [printedText, logText, List.map_map]
  exact congrArg String.join (List.map_congr_left fun line _ => text_log line)

theorem printedText_status (status : ServerStatus) :
    printedText stamp ((Stage.statusLines status).map .other) = tableText status := by
  rw [printedText, List.map_map]
  rfl

/-! ## Telling on -/

/-- The stage has told the lines that its counter says. -/
structure Tells (stamp : Int → String) (Noted : String → Prop) (st : Stage) : Prop where
  counts : st.CountsPrinted
  told : Told stamp Noted (st.session.log.lines.take st.logged) (printedText stamp st.printed)

/-- **Every move tells on.** -/
theorem Tells.move {Noted : String → Prop} {st : Stage} (h : Tells stamp Noted st) {m : Move}
    (hm : ∀ text, m = .printLine text → Noted text) : Tells stamp Noted (st.move m) := by
  refine ⟨h.counts.move m, ?_⟩
  -- the log only grows while nothing is printed, so what was told of it is told of it still
  have hgrown : (st.move m).logged = st.logged → (st.move m).printed = st.printed →
      Told stamp Noted ((st.move m).session.log.lines.take (st.move m).logged)
        (printedText stamp (st.move m).printed) := by
    intro hlogged hprinted
    obtain ⟨added, hadded⟩ := st.lines_prefix_move m
    rw [hlogged, hprinted, ← hadded, List.take_append_of_le_length h.counts.le]
    exact h.told
  cases m with
  | connect | disconnect | refresh | submit _ | expire | ask _ => exact hgrown rfl rfl
  | printLog =>
    have hall : st.printLog.session.log.lines.take st.printLog.logged =
        st.session.log.lines.take st.logged ++ st.session.log.since st.logged := by
      rw [LogBook.take_append_since]
      exact List.take_length
    change Told stamp Noted (st.printLog.session.log.lines.take st.printLog.logged) _
    rw [hall]
    change Told stamp Noted _ (printedText stamp (_ ++ _))
    rw [printedText_append, printedText_log]
    exact h.told.lines _
  | printStatus =>
    change Told stamp Noted _ (printedText stamp (_ ++ _))
    rw [printedText_append, printedText_status]
    exact h.told.table _
  | printLine text =>
    change Told stamp Noted _ (printedText stamp (_ ++ _))
    rw [printedText_append]
    exact h.told.note (hm text rfl)

theorem tells_perform {Noted : String → Prop} : ∀ (moves : List Move) {st : Stage},
    Tells stamp Noted st → (∀ text, .printLine text ∈ moves → Noted text) →
      Tells stamp Noted (st.perform moves)
  | [], _, h, _ => h
  | m :: moves, _, h, hnoted =>
    tells_perform moves (h.move fun text hm => hnoted text (hm ▸ List.mem_cons_self))
      fun text hm => hnoted text (List.mem_cons_of_mem m hm)

theorem tells_fresh {Noted : String → Prop} {st : Stage} (hprinted : st.printed = [])
    (hlogged : st.logged = 0) : Tells stamp Noted st := by
  refine ⟨⟨?_, hlogged ▸ Nat.zero_le _⟩, ?_⟩
  · rw [Stage.loggedLines, hprinted, hlogged]
    rfl
  · rw [hprinted, hlogged]
    exact .nothing

/-- **A command that ends without an error has told the whole log.** -/
theorem told_run {start : Stage} (hprinted : start.printed = []) (hlogged : start.logged = 0)
    {command : Command} {code : Nat} (h : (start.run command).1 = .ok code) :
    let left := (start.run command).2
    Told stamp (· = Stage.endNote) left.session.log.lines (printedText stamp left.printed) := by
  intro left
  obtain ⟨moves, hplain, hmoves⟩ := start.reaches_run command
  have htells : Tells stamp (· = Stage.endNote) left := by
    change Tells stamp _ (start.run command).2
    rw [hmoves]
    exact tells_perform moves (tells_fresh hprinted hlogged) fun text => hplain (.printLine text)
  have hall : left.session.log.lines.take left.logged = left.session.log.lines := by
    rw [show left.logged = left.session.log.size from Stage.upToDate_run h]
    exact List.take_length
  exact hall ▸ htells.told

/-! ## Commands that print once -/

theorem printedText_printLog {st : Stage} (hprinted : st.printed = []) (hlogged : st.logged = 0) :
    printedText stamp st.printLog.printed = logText stamp st.session.log.lines := by
  have hall : st.session.log.since st.logged = st.session.log.lines := by
    rw [hlogged]
    rfl
  rw [Stage.printLog, hprinted, hall, List.nil_append, printedText_log]

/-- **A command that makes its calls and is done** writes the log and nothing else; one that shows the
status writes that first. -/
theorem printedText_run (stamp : Int → String) {start : Stage} (hprinted : start.printed = [])
    (hlogged : start.logged = 0) {command : Command} {code : Nat} (h : (start.run command).1 = .ok code) :
    let left := (start.run command).2
    (command.action?.isSome = true ∨ command = .connect ∨ command = .disconnect →
      printedText stamp left.printed = logText stamp left.session.log.lines) ∧
    (command = .status → printedText stamp left.printed =
      tableText left.session.status ++ logText stamp left.session.log.lines) := by
  intro left
  have hcalled : ∀ {out : Except Error Unit × Stage} {code : Nat},
      (Stage.afterCall out).1 = .ok code → out.2.printed = [] → out.2.logged = 0 →
      printedText stamp (Stage.afterCall out).2.printed =
        logText stamp (Stage.afterCall out).2.session.log.lines := by
    rintro ⟨result, st⟩ code hok hnothing hnone
    cases result with
    | error e => cases hok
    | ok u => exact printedText_printLog hnothing hnone
  cases command with
  | connect => exact ⟨fun _ => hcalled h hprinted hlogged, fun hstatus => by cases hstatus⟩
  | disconnect => exact ⟨fun _ => hcalled h hprinted hlogged, fun hstatus => by cases hstatus⟩
  | submit request =>
    exact ⟨fun _ => printedText_printLog hprinted hlogged, fun hstatus => by cases hstatus⟩
  | member action target =>
    exact ⟨fun _ => printedText_printLog hprinted hlogged, fun hstatus => by cases hstatus⟩
  | watch interval | shell => exact ⟨by simp [Command.action?], fun hstatus => by cases hstatus⟩
  | status =>
    refine ⟨by simp [Command.action?], fun _ => ?_⟩
    change (start.showStatus).1 = .ok code at h
    change printedText stamp start.showStatus.2.printed = tableText start.showStatus.2.session.status ++
      logText stamp start.showStatus.2.session.log.lines
    unfold Stage.showStatus at h ⊢
    dsimp only at h ⊢
    split at h
    · cases h
    · have hshown : start.refresh.printStatus.printLog.printed =
          start.printed ++ (Stage.statusLines start.refresh.session.status).map .other ++
            (start.refresh.session.log.since start.logged).map .log := rfl
      dsimp only
      rw [hshown, hprinted, hlogged, List.nil_append, printedText_append, printedText_status,
        printedText_log]
      rfl

/-! ## A playground that cannot be reached -/

/-- A call that nobody receives fails, and leaves nothing changed but the calls that were made. -/
theorem call_unheard {c : Client} (hbase : c.endpoint.canBeBase = true)
    (hunheard : c.server.listens = false) (k : Call) :
    c.call k = (.error (.backend "HTTP request failed" none), { c with calls := c.calls ++ [k] }) := by
  obtain ⟨url, -, hrequest⟩ := Call.request_eq_ok hbase k
  have hexchange : ∀ r, c.server.exchange r = (none, c.server) := fun r => by
    rw [Http.Server.exchange, hunheard]
    rfl
  rw [c.call_eq hrequest, hexchange]
  rfl

theorem log_unheard (st : Stage) (hbase : st.client.endpoint.canBeBase = true)
    (hunheard : st.client.server.listens = false) (request : Request) :
    let failed := Error.backend "HTTP request failed" none
    (st.run (.submit request)).2.session =
      (st.session.refreshed st.clock (.error failed)).submitted st.clock request (.error failed) := by
  intro failed
  have hstatus : st.client.status =
      (.error failed, { st.client with calls := st.client.calls ++ [.status] }) := by
    rw [Client.status, Client.callFor, call_unheard hbase hunheard]
    rfl
  have hrefreshed : st.refresh.session = st.session.refreshed st.clock (.error failed) :=
    congrArg (fun called : _ × Client => st.session.refreshed st.clock called.1) hstatus
  have hclient : st.refresh.client = { st.client with calls := st.client.calls ++ [.status] } :=
    congrArg Prod.snd hstatus
  have hsubmit : ∀ r, (st.refresh.client.submit r).1 = .error failed := fun r => by
    have hcall := call_unheard (c := st.refresh.client) (by rwa [hclient]) (by rwa [hclient])
    rw [Client.submit, Client.callFor, hcall]
    rfl
  calc (st.run (.submit request)).2.session
      = st.refresh.session.submitted st.clock request
          (st.refresh.client.submit (st.refresh.session.addressed request)).1 := rfl
    _ = _ := by rw [hsubmit, hrefreshed]

/-! ## The log of a command -/

/-- **The log is written line after line.**  Everything that can be wished for has command lines.  Whatever
a command asks of the playground, whatever that answers and the user replies: if it ends without an error,
what it has written tells all lines of the log, each of them once and in their order, between tables of the
members and the note that the session is over; and it is the lines alone, or behind the one table, unless the
command follows the session.  The lines carry their places and the moments at which they were appended.
However the operations of a session and the prints of its log follow each other, the lines written so far are
the first of the log, as many as the counter says.  The lines from a place on are what the lines before it
leave of a log, and there are none from its end on. -/
theorem written_lines_follow_log (readText : String → Except Error String) (stamp : Int → String)
    (setting : Setting) :
    (∀ path wish arguments, path ≠ some "" → Expresses path wish arguments →
      Invocation.ofArguments arguments = .ok ⟨path, .play wish.command⟩) ∧
    (∀ arguments path command,
      Invocation.ofArguments arguments = .ok ⟨path, .play command⟩ →
      let outcome := run readText stamp setting arguments
      outcome.error = none → ∃ p, Profile.load readText path = .ok p ∧
        let left := ((setting.stage p).run command).2
        let log := left.session.log
        Told stamp (· = "Playground session has expired; reconnect to continue") log.lines
          outcome.output ∧
        log.lines.map (·.index) = List.range log.size ∧
        (∀ line ∈ log.lines, line.moment = setting.clock line.index) ∧
        (command.action?.isSome = true ∨ command = .connect ∨ command = .disconnect →
          outcome.output = logText stamp log.lines) ∧
        (command = .status →
          outcome.output = tableText left.session.status ++ logText stamp log.lines)) ∧
    (∀ client terminal waits clock (moves : List Move),
      let start : Stage := { client, terminal, waits, clock }
      let st := start.perform moves
      st.loggedLines = st.session.log.lines.take st.logged ∧ st.logged ≤ st.session.log.size ∧
        Told stamp (fun _ => True) (st.session.log.lines.take st.logged)
          (printedText stamp st.printed)) ∧
    ∀ (log : LogBook) (k : Nat),
      log.lines.take k ++ log.since k = log.lines ∧ (log.since k = [] ↔ log.size ≤ k) := by
  refine ⟨fun path wish arguments hpath => ofArguments_of_expresses hpath,
    fun arguments path command hargs => ?_, fun client terminal waits clock moves => ?_,
    fun log k => ⟨log.take_append_since k, log.since_eq_nil_iff k⟩⟩
  · intro outcome herror
    cases hload : Profile.load readText path with
    | error e =>
      simp only [outcome, run, hargs, play, hload, playing] at herror
      cases herror
    | ok p =>
      refine ⟨p, rfl, ?_⟩
      have houtcome : outcome = _ := run_eq_playing hload hargs stamp setting
      rw [houtcome] at herror ⊢
      cases hcode : ((setting.stage p).run command).1 with
      | error e =>
        simp only [playing, hcode] at herror
        cases herror
      | ok code =>
        obtain ⟨honce, hstatus⟩ := printedText_run stamp rfl rfl hcode
        obtain ⟨moves, -, hmoves⟩ := (setting.stage p).reaches_run command
        have horder : ((setting.stage p).run command).2.InOrder := by
          rw [hmoves]
          exact Stage.inOrder_perform moves ⟨rfl, fun _ hline => absurd hline List.not_mem_nil⟩
        have hclock : ((setting.stage p).run command).2.clock = setting.clock := by
          rw [hmoves]
          exact Stage.clock_perform moves (setting.stage p)
        exact ⟨told_run rfl rfl hcode, horder.numbered, hclock ▸ horder.timed, honce, hstatus⟩
  · intro start st
    have htells : Tells stamp (fun _ => True) st :=
      tells_perform moves (tells_fresh rfl rfl) fun _ _ => trivial
    exact ⟨htells.counts.lines, htells.counts.le, htells.told⟩

/-- No playground can be reached, and ten seconds lie between two lines of the log. -/
def deserted : Setting where
  clock := fun place => 10 * place

theorem deserted_write_written :
    let arguments := ["play", "write", "k", "v"]
    let outcome := run (fun path => .error (.profileNotFound path)) toString deserted arguments
    Invocation.ofArguments arguments = .ok ⟨none, .play (Wish.command (.write "k" "v"))⟩ ∧
      outcome.error = none ∧
      outcome.output =
        "[   0] 0 ERROR server status failed: Playground backend error: HTTP request failed\n" ++
        "[   1] 10 INFO  request: WRITE (key: k, value: v)\n" ++
        "[   2] 20 ERROR write failed: Playground backend error: HTTP request failed\n" := by
  intro arguments outcome
  obtain ⟨hread, hwritten, -⟩ := written_lines_follow_log (fun path => .error (.profileNotFound path))
    toString deserted
  have hargs : Invocation.ofArguments arguments =
      .ok ⟨none, .play (Wish.command (.write "k" "v"))⟩ :=
    hread none (.write "k" "v") arguments (by simp) (.plain (by decide))
  have herror : outcome.error = none := by
    have hload : Profile.load (fun path => .error (.profileNotFound path)) none =
        .ok Sample.profile := rfl
    have houtcome : outcome = _ := run_eq_playing hload hargs toString deserted
    rw [houtcome]
    rfl
  obtain ⟨p, hload, -, -, -, honce, -⟩ := hwritten arguments none _ hargs herror
  cases hload
  refine ⟨hargs, herror, ?_⟩
  have hlines : (((deserted.stage Sample.profile).run
      (Wish.command (.write "k" "v"))).2.session.log.lines = [
        ⟨0, .error, 0, "server status failed: Playground backend error: HTTP request failed"⟩,
        ⟨1, .info, 10, "request: WRITE (key: k, value: v)"⟩,
        ⟨2, .error, 20, "write failed: Playground backend error: HTTP request failed"⟩]) := by
    have hleft := log_unheard (deserted.stage Sample.profile) (by decide) rfl
      { action := .write, keyValue := { key := "k", value := "v" } }
    change ((deserted.stage Sample.profile).run (.submit _)).2.session.log.lines = _
    rw [hleft]
    rfl
  rw [honce (.inl rfl), hlines]
  rfl

end CommandLine
end EtcdKit
