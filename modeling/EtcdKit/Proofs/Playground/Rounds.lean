import EtcdKit.Proofs.Playground.Prompting
/-!
# Rounds — the calls that the shell makes

What a round comes to is told by the user's reactions (`Stage.round`): it makes one call for the
status, and one more if an action was chosen and all its questions were answered.  The shell goes
from round to round until the user leaves or a question fails (`Stage.Plays`).  A round that goes on
takes a reply away, so the bound on the rounds is never reached (`plays_shellRounds`), and the calls
of the shell are those of its rounds between the first and the last (`shell_calls_round_by_round`).
-/
namespace EtcdKit.Playground

open Question (askInTurn)

/-- What a round comes to. -/
inductive Round where
  /-- The status is shown. -/
  | shown
  /-- An action was chosen: how its questions ended, and the request that was sent for it. -/
  | acted (action : Action) (reactions : List Reaction) (request : Option Request)
  | quit
  | menuCancelled
  | menuFailed (error : Error)

namespace Round

/-- The request that was sent. -/
def sent : Round → Option Request
  | .acted _ _ request => request
  | _ => none

/-- The calls of a round. -/
def calls (round : Round) : List Call := .status :: round.sent.toList.map .submit

/-- How a round ends. -/
def ending : Round → RoundEnd
  | .shown => .goOn
  | .acted _ reactions _ =>
    match Reaction.all reactions with
    | .failed e => .failed e
    | _ => .goOn
  | .quit => .leave
  | .menuCancelled => .leave
  | .menuFailed e => .failed e

/-- An action was chosen, and every question of it was answered. -/
def Complete : Round → Prop
  | .acted _ reactions _ => ∀ r ∈ reactions, r = .answered
  | _ => False

end Round

namespace Stage

/-- The round in which an action was chosen. -/
def actedRound (st : Stage) (action : Action) : Round :=
  .acted action (askInTurn (action.questions st.session.status) st.terminal).1
    (match (Asking.request st.session.status action st.terminal).1 with
    | .given r => some (st.session.addressed r)
    | _ => none)

/-- The round of a stage that has fetched the status. -/
def answeredRound (st : Stage) : Round :=
  match Asking.select "Action" Choice.menu "Failed to select action: " st.terminal with
  | (.failed e, _) => .menuFailed e
  | (.cancelled, _) => .menuCancelled
  | (.given index, terminal) =>
    match Choice.all.getD index .quit with
    | .quit => .quit
    | .status => .shown
    | .act action => ({ st with terminal }).actedRound action

/-- The round of a stage. -/
def round (st : Stage) : Round := st.refresh.answeredRound

/-- The shell goes through rounds from the first stage to the second; the last of them ends it. -/
inductive Plays : Stage → List Round → Stage → Prop where
  | last {st : Stage} (ends : st.round.ending ≠ .goOn) : Plays st [st.round] st.shellRound.2
  | next {st final : Stage} {rounds : List Round} (goesOn : st.round.ending = .goOn)
      (rest : Plays st.shellRound.2 rounds final) : Plays st (st.round :: rounds) final

end Stage

/-! ## One round -/

theorem Client.calls_call (c : Client) (k : Call) : (c.call k).2.calls = c.calls ++ [k] := by
  unfold call
  dsimp only
  split
  · rfl
  · rfl

namespace Stage

theorem calls_refresh (st : Stage) : st.refresh.client.calls = st.client.calls ++ [.status] :=
  st.client.calls_call .status

theorem calls_submit (st : Stage) (r : Request) :
    (st.submit r).2.client.calls = st.client.calls ++ [.submit (st.session.addressed r)] :=
  st.client.calls_call (.submit (st.session.addressed r))

theorem sent_actedRound_isSome_iff (st : Stage) (action : Action) :
    (st.actedRound action).sent.isSome = true ↔ (st.actedRound action).Complete := by
  obtain ⟨hreaction, -⟩ := Asking.asks_request st.session.status action st.terminal
  unfold actedRound Round.sent Round.Complete
  dsimp only
  rw [← Reaction.all_eq_answered_iff, ← hreaction]
  cases (Asking.request st.session.status action st.terminal).1 with
  | given r => simp [Asked.reaction]
  | cancelled => simp [Asked.reaction]
  | failed e => simp [Asked.reaction]

/-- **A request is sent exactly if an action was chosen and all its questions were answered.** -/
theorem sent_round_isSome_iff (st : Stage) : st.round.sent.isSome = true ↔ st.round.Complete := by
  unfold round answeredRound
  split
  · simp [Round.sent, Round.Complete]
  · simp [Round.sent, Round.Complete]
  · split
    · simp [Round.sent, Round.Complete]
    · simp [Round.sent, Round.Complete]
    · exact sent_actedRound_isSome_iff _ _

/-- An action that was chosen: how its round ends, what it sends, and no reply more than before. -/
theorem act_eq (st : Stage) (action : Action) :
    (st.act action).1 = (st.actedRound action).ending ∧
      (st.act action).2.client.calls =
        st.client.calls ++ (st.actedRound action).sent.toList.map .submit ∧
      (st.act action).2.terminal.replies.length ≤ st.terminal.replies.length := by
  obtain ⟨hreaction, -⟩ := Asking.asks_request st.session.status action st.terminal
  have hreplies := Asking.replies_request st.session.status action st.terminal
  unfold actedRound act Round.ending Round.sent
  dsimp only
  rw [← hreaction]
  rcases hasked : Asking.request st.session.status action st.terminal with ⟨asked, terminal⟩
  rw [hasked] at hreplies
  cases asked with
  | given r => exact ⟨rfl, calls_submit _ r, hreplies⟩
  | cancelled => exact ⟨rfl, (List.append_nil _).symm, hreplies⟩
  | failed e => exact ⟨rfl, (List.append_nil _).symm, hreplies⟩

/-- A menu that is answered takes a reply away. -/
theorem replies_of_given {t t' : Terminal} {index : Nat} {failure : String}
    (h : Asking.select "Action" Choice.menu failure t = (.given index, t')) :
    t'.replies.length < t.replies.length := by
  have hterminal : (t.select "Action" Choice.menu 0).2 = t' := congrArg Prod.snd h
  rw [← hterminal]
  unfold Terminal.select
  split
  · rename_i hnone
    unfold Asking.select Terminal.select at h
    rw [hnone] at h
    cases h
  · rename_i reply rest hsome
    rw [hsome]
    exact Nat.lt_succ_self _

/-- What a round leaves behind: how it ends, its calls, and fewer replies if it goes on. -/
structure Played (st : Stage) (round : Round) (left : RoundEnd × Stage) : Prop where
  ending : left.1 = round.ending
  calls : left.2.client.calls = st.client.calls ++ round.calls
  replies : round.ending = .goOn → left.2.terminal.replies.length < st.terminal.replies.length

theorem played_shellRound (st : Stage) : Played st st.round st.shellRound := by
  have hcalls := calls_refresh st
  have hreplies : st.refresh.terminal.replies = st.terminal.replies := rfl
  unfold round answeredRound shellRound
  dsimp only
  generalize st.refresh = fresh at hcalls hreplies
  rcases hmenu : Asking.select "Action" Choice.menu "Failed to select action: " fresh.terminal with
    ⟨asked, terminal⟩
  cases asked with
  | failed e => exact ⟨rfl, hcalls, fun h => by cases h⟩
  | cancelled => exact ⟨rfl, hcalls, fun h => by cases h⟩
  | given index =>
    have hfewer := replies_of_given hmenu
    rw [hreplies] at hfewer
    dsimp only
    cases Choice.all.getD index .quit with
    | quit => exact ⟨rfl, hcalls, fun h => by cases h⟩
    | status => exact ⟨rfl, hcalls, fun _ => hfewer⟩
    | act action =>
      obtain ⟨hending, hsent, hless⟩ := act_eq { fresh with terminal } action
      refine ⟨hending, hsent.trans ?_, fun _ => Nat.lt_of_le_of_lt hless hfewer⟩
      rw [Round.calls, List.append_cons, ← hcalls]

/-! ## All rounds -/

/-- **The shell ends before its bound**, in the first round that does not go on. -/
theorem plays_shellRounds : ∀ (bound : Nat) (st : Stage), st.terminal.replies.length < bound →
    ∃ rounds last final, Plays st (rounds ++ [last]) final ∧
      (∀ round ∈ rounds, round.ending = .goOn) ∧ last.ending ≠ .goOn ∧
      shellRounds bound st = (last.ending, final) ∧
      final.client.calls = st.client.calls ++ (rounds ++ [last]).flatMap Round.calls
  | 0, _, h => absurd h (Nat.not_lt_zero _)
  | bound + 1, st, h => by
    obtain ⟨hending, hcalls, hreplies⟩ := played_shellRound st
    by_cases hgo : st.round.ending = .goOn
    · obtain ⟨rounds, last, final, hplays, hall, hlast, hrun, hfinal⟩ :=
        plays_shellRounds bound st.shellRound.2
          (Nat.lt_of_lt_of_le (hreplies hgo) (Nat.le_of_lt_succ h))
      refine ⟨st.round :: rounds, last, final, .next hgo hplays,
        List.forall_mem_cons.2 ⟨hgo, hall⟩, hlast, ?_, ?_⟩
      · rw [← hrun, shellRounds]
        rcases hround : st.shellRound with ⟨ending, st'⟩
        rw [hround] at hending
        have hending : ending = st.round.ending := hending
        rw [hending, hgo]
      · rw [hfinal, hcalls, List.cons_append, List.flatMap_cons, List.append_assoc]
    · refine ⟨[], st.round, st.shellRound.2, .last hgo, List.forall_mem_nil _, hgo, ?_, ?_⟩
      · rw [← hending] at hgo
        rw [shellRounds, ← hending]
        rcases hround : st.shellRound with ⟨ending, st'⟩
        rw [hround] at hgo
        cases ending with
        | goOn => exact absurd rfl hgo
        | leave => rfl
        | failed e => rfl
      · rw [List.nil_append, List.flatMap_singleton, hcalls]

/-- **A round that fails, fails with a question.** -/
theorem ending_failed {st : Stage} {e : Error} (h : st.round.ending = .failed e) :
    ∃ words, e = .prompt words := by
  unfold round answeredRound at h
  split at h
  · rename_i hmenu
    cases h
    have hfailed : (Question.menu.ask st.refresh.terminal).1 = _ :=
      congrArg (fun asked => asked.1.reaction) hmenu
    exact Asking.ask_failed hfailed
  · cases h
  · split at h
    · cases h
    · cases h
    · simp only [actedRound, Round.ending] at h
      split at h
      · rename_i hfailed
        cases h
        exact Asking.askInTurn_failed _ hfailed
      · cases h

theorem Plays.mem {st final : Stage} {rounds : List Round} (h : Plays st rounds final) :
    ∀ round ∈ rounds, ∃ st : Stage, round = st.round := by
  induction h with
  | @last st ends => exact fun round hr => ⟨st, List.mem_singleton.1 hr⟩
  | @next st final rounds goesOn rest ih => exact List.forall_mem_cons.2 ⟨⟨st, rfl⟩, ih⟩

end Stage

theorem Round.ending_eq_leave {round : Round} (h : round.ending = .leave) :
    round = .quit ∨ round = .menuCancelled := by
  cases round with
  | shown => cases h
  | acted action reactions sent =>
    unfold ending at h
    dsimp only at h
    split at h
    · cases h
    · cases h
  | quit => exact .inl rfl
  | menuCancelled => exact .inr rfl
  | menuFailed e => cases h

/-- A round that does not go on sends nothing. -/
theorem Stage.sent_eq_none {st : Stage} (h : st.round.ending ≠ .goOn) : st.round.sent = none := by
  cases hs : st.round.sent with
  | none => rfl
  | some r =>
    have hcomplete := st.sent_round_isSome_iff.1 (by rw [hs]; rfl)
    cases hround : st.round with
    | acted action reactions sent =>
      rw [hround] at h hcomplete
      have hall := (Reaction.all_eq_answered_iff reactions).2 hcomplete
      rw [Round.ending, hall] at h
      exact absurd rfl h
    | shown => rw [hround] at hs; cases hs
    | quit => rw [hround] at hs; cases hs
    | menuCancelled => rw [hround] at hs; cases hs
    | menuFailed e => rw [hround] at hs; cases hs

/-- **The calls of the shell, round by round.**  It opens a session, and if that fails, it makes no
other call.  Otherwise it goes through rounds, each with a call for the status and with a request
exactly if an action was chosen and all its questions were answered.  All rounds but the last go on.
In the last the user leaves, and then the shell closes the session and is done; or a question fails,
and then it ends with that error, without a request and without another call. -/
theorem shell_calls_round_by_round (endpoint : Url) (server : Http.Server) (terminal : Terminal)
    (waits : List Wait) (clock : Clock) :
    let start : Stage := { client := { endpoint, server }, terminal, waits, clock }
    let (result, st) := start.shell
    match start.connect with
    | (.error e, _) => result = .error e ∧ st.client.calls = [.connect]
    | (.ok (), opened) =>
      ∃ rounds last final, opened.printLog.Plays (rounds ++ [last]) final ∧
        (∀ round ∈ rounds, round.ending = .goOn) ∧
        (∀ round ∈ rounds ++ [last], round.sent.isSome = true ↔ round.Complete) ∧
        let calls := .connect :: (rounds ++ [last]).flatMap Round.calls
        ((last = .quit ∨ last = .menuCancelled) ∧ st.client.calls = calls ++ [.disconnect] ∧
            result = final.disconnect.1 ∨
          ∃ words, last.ending = .failed (.prompt words) ∧ last.sent = none ∧
            st.client.calls = calls ∧ result = .error (.prompt words)) := by
  intro start
  have hconnect : start.connect.2.client.calls = [.connect] := start.client.calls_call .connect
  unfold Stage.shell
  rcases hc : start.connect with ⟨answer, opened⟩
  rw [hc] at hconnect
  cases answer with
  | error e => exact ⟨rfl, hconnect⟩
  | ok u =>
    obtain ⟨rounds, last, final, hplays, hall, hlast, hrun, hcalls⟩ :=
      Stage.plays_shellRounds _ opened.printLog (Nat.lt_succ_self _)
    have hround := hplays.mem
    have hopened : opened.printLog.client.calls = [.connect] := hconnect
    rw [hopened, List.singleton_append] at hcalls
    have hquiet : last.sent = none ∧ ∀ e, last.ending = .failed e → ∃ words, e = .prompt words := by
      obtain ⟨st, rfl⟩ := hround last (List.mem_append_right _ List.mem_cons_self)
      exact ⟨st.sent_eq_none hlast, fun _ => Stage.ending_failed⟩
    refine ⟨rounds, last, final, hplays, hall, fun round hr => ?_, ?_⟩
    · obtain ⟨st, rfl⟩ := hround round hr
      exact st.sent_round_isSome_iff
    · dsimp only
      rw [hrun]
      cases hending : last.ending with
      | goOn => exact absurd hending hlast
      | leave =>
        have hdisconnect : final.disconnect.2.client.calls = final.client.calls ++ [.disconnect] :=
          final.client.calls_call .disconnect
        refine .inl ⟨Round.ending_eq_leave hending, ?_⟩
        rw [hcalls] at hdisconnect
        dsimp only
        rcases hd : final.disconnect with ⟨closed, left⟩
        rw [hd] at hdisconnect
        cases closed with
        | error e => exact ⟨hdisconnect, rfl⟩
        | ok u => exact ⟨hdisconnect, rfl⟩
      | failed e =>
        obtain ⟨words, rfl⟩ := hquiet.2 e hending
        exact .inr ⟨words, rfl, hquiet.1, hcalls, rfl⟩

end EtcdKit.Playground
