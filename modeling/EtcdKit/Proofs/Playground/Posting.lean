import EtcdKit.Proofs.CommandLine.ExitCodes
import EtcdKit.Proofs.Playground.Addressing
import EtcdKit.Proofs.Playground.Printing
import EtcdKit.Proofs.Playground.Wire
/-!
# Posting — the requests that reach the playground

A command posts a request only behind a refresh.  Where a request stands among its calls, the calls before
it are those of a stage that the command comes to and its refresh (`Posts`), and the status that is known
then decides where the request goes.  In the shell that stage is one that a round begins on (`Visits`), and
the member is the one that the replies left there point at (`Fits`).
-/
namespace EtcdKit.Playground

open CommandLine (Wish Expresses Invocation playCommandOf? ofArguments_of_expresses
  exists_wish_of_playCommandOf?)

/-- The stages that rounds of the shell begin on, from the first one on. -/
inductive Stage.Visits (first : Stage) : Stage → Prop where
  | first : Visits first first
  | next {st : Stage} (before : Visits first st) (goesOn : st.round.ending = .goOn) :
      Visits first st.shellRound.2

/-- The stage on which a command sets out to send a request: the one that it starts from, or in the shell
one that a round begins on, behind the call that opens the session. -/
inductive SetsOut (command : Command) (start : Stage) (sent : Request) : Stage → Prop where
  | once (other : command ≠ .shell) : SetsOut command start sent start
  | round {opened st : Stage} (shell : command = .shell) (connected : start.connect = (.ok (), opened))
      (visited : opened.printLog.Visits st) (sends : st.round.sent = some sent) :
      SetsOut command start sent st

/-- What a request comes up to that a command sends behind a refresh of a stage. -/
structure Fits (command : Command) (start before : Stage) (sent : Request) : Prop where
  setsOut : SetsOut command start sent before
  modest : sent.Modest
  routed : Routed command before.refresh sent

/-- Wherever a request stands among the calls, they are up to there those of a stage and one for the
status, and the request comes up to that stage. -/
def Posts (P : Stage → Request → Prop) (calls : List Call) : Prop :=
  ∀ earlier sent later, calls = earlier ++ .submit sent :: later →
    ∃ before : Stage, earlier = before.client.calls ++ [.status] ∧ P before sent

/-! ## Calls, one after another -/

namespace Posts

variable {P : Stage → Request → Prop} {calls : List Call}

theorem of_silent (h : ∀ r, Call.submit r ∉ calls) : Posts P calls := by
  intro earlier sent later hcalls
  refine absurd ?_ (h sent)
  rw [hcalls]
  exact List.mem_append_right _ List.mem_cons_self

/-- **One call more**, which is no request or comes up to a stage that has just fetched the status. -/
theorem call (h : Posts P calls) {k : Call} (hk : ∀ sent, k = .submit sent →
    ∃ before : Stage, calls = before.client.calls ++ [.status] ∧ P before sent) :
    Posts P (calls ++ [k]) := by
  intro earlier sent later hsplit
  -- the request is the new call, or it stands among the calls from before
  rcases List.eq_nil_or_concat later with rfl | ⟨later, last, rfl⟩
  · obtain ⟨rfl, hlast⟩ := List.append_inj' hsplit rfl
    exact hk sent (List.cons.inj hlast).1
  · have hsplit : calls ++ [k] = (earlier ++ .submit sent :: later) ++ [last] := by
      simpa using hsplit
    obtain ⟨hfront, -⟩ := List.append_inj' hsplit rfl
    exact h earlier sent later hfront

/-- **A refresh and then at most one request**, which comes up to the stage before them. -/
theorem refreshed {st : Stage} (h : Posts P st.client.calls) (request : Option Request)
    (hrequest : ∀ sent, request = some sent → P st sent) :
    Posts P (st.client.calls ++ .status :: request.toList.map .submit) := by
  have hstatus : Posts P (st.client.calls ++ [.status]) := h.call fun _ hk => (by cases hk)
  cases request with
  | none => exact hstatus
  | some sent =>
    have hsent : Posts P (st.client.calls ++ [.status] ++ [.submit sent]) :=
      hstatus.call fun other hk => by
        cases hk
        exact ⟨st, rfl, hrequest sent rfl⟩
    rwa [List.append_assoc] at hsent

end Posts

namespace Stage

/-- A status that cannot be fetched leaves the one from before. -/
theorem status_refresh (st : Stage) : st.refresh.session.status =
    st.client.status.1.toOption.getD st.session.status := by
  have hkept : st.refresh.session = st.session.refreshed st.clock st.client.status.1 := rfl
  rw [hkept]
  cases st.client.status.1 with
  | ok status => rfl
  | error e => rfl

/-- A command about a member posts one request, to the endpoint of the member in the status that is known
then. -/
theorem calls_member (st : Stage) (action : Action) (target : String) :
    (st.run (.member action target)).2.client.calls = st.client.calls ++ [.status,
      .submit { action, endpoints := [st.refresh.session.status.endpointOf target] }] := by
  change (st.refresh.submit _).2.client.calls = _
  rw [calls_submit, calls_refresh, List.append_assoc]
  rfl

theorem calls_submitted (st : Stage) (r : Request) :
    (st.run (.submit r)).2.client.calls =
      st.client.calls ++ [.status, .submit (st.refresh.session.addressed r)] := by
  change (st.refresh.submit r).2.client.calls = _
  rw [calls_submit, calls_refresh, List.append_assoc]
  rfl

end Stage

/-! ## The shell -/

namespace Stage

/-- **What a round sends** fits the action that was chosen in it. -/
theorem routed_of_sent {st : Stage} {sent : Request} (h : st.round.sent = some sent) :
    sent.Modest ∧ Routed .shell st.refresh sent := by
  unfold round answeredRound at h
  split at h
  · cases h
  · cases h
  · rename_i place terminal hmenu
    obtain ⟨hpick, rfl⟩ := Asking.select_eq_given_iff.1 hmenu
    split at h
    · cases h
    · cases h
    · rename_i action hchoice
      unfold actedRound Round.sent at h
      dsimp only at h
      split at h
      · rename_i r hgiven
        cases h
        exact routed_given hpick hchoice (Prod.ext hgiven rfl)
      · cases h

variable {P : Stage → Request → Prop} {first : Stage}

/-- **All rounds** post what comes up to the stages that they begin on. -/
theorem posts_shellRounds
    (hP : ∀ st sent, first.Visits st → st.round.sent = some sent → P st sent) :
    ∀ (bound : Nat) {st : Stage}, first.Visits st → Posts P st.client.calls →
      Posts P (shellRounds bound st).2.client.calls
  | 0, _, _, h => h
  | bound + 1, st, hvisits, h => by
    obtain ⟨hending, hcalls, -⟩ := played_shellRound st
    have hround : Posts P st.shellRound.2.client.calls := by
      rw [hcalls]
      exact h.refreshed st.round.sent fun sent hsent => hP st sent hvisits hsent
    rw [shellRounds]
    split
    · rename_i st' hgo
      rw [hgo] at hending hround
      have hnext := hvisits.next hending.symm
      rw [hgo] at hnext
      exact posts_shellRounds hP bound hnext hround
    · exact hround

/-- **The shell posts nothing outside its rounds.** -/
theorem posts_shell {start : Stage} (hnew : start.client.calls = []) :
    Posts (Fits .shell start) start.shell.2.client.calls := by
  -- connecting and disconnecting are calls, but they are no requests
  have hconnect : Posts (Fits .shell start) start.connect.2.client.calls := by
    refine Posts.of_silent fun r hr => ?_
    have hcalls : start.connect.2.client.calls = start.client.calls ++ [.connect] :=
      start.client.calls_call .connect
    rw [hcalls, hnew] at hr
    cases List.mem_singleton.1 hr
  unfold shell
  split
  · rename_i hc
    rw [hc] at hconnect
    exact hconnect
  · rename_i opened hc
    rw [hc] at hconnect
    have hfits : ∀ st sent, opened.printLog.Visits st → st.round.sent = some sent →
        Fits .shell start st sent := fun st sent hvisits hsent => by
      obtain ⟨hmodest, hrouted⟩ := routed_of_sent hsent
      exact ⟨.round rfl hc hvisits hsent, hmodest, hrouted⟩
    have hrounds := posts_shellRounds hfits (opened.printLog.terminal.replies.length + 1) .first
      hconnect
    dsimp only
    split
    · rename_i hr
      rw [hr] at hrounds
      exact hrounds
    · rename_i left _ hr
      rw [hr] at hrounds
      have hclosed : Posts (Fits .shell start) left.disconnect.2.client.calls := by
        have hcalls : left.disconnect.2.client.calls = left.client.calls ++ [.disconnect] :=
          left.client.calls_call .disconnect
        rw [hcalls]
        exact hrounds.call fun _ hk => (by cases hk)
      split
      · rename_i hd
        rw [hd] at hclosed
        exact hclosed
      · rename_i hd
        rw [hd] at hclosed
        exact hclosed

end Stage

/-! ## The other commands -/

/-- **Polling keeps what its questions and shows keep** of the world that answers it. -/
theorem Session.poll_keeps {σ : Type} {I : σ → Prop} {fetch : σ → Except Error ServerStatus × σ}
    {tick : Session → σ → σ} {clock : Clock} (hfetch : ∀ world, I world → I (fetch world).2)
    (htick : ∀ s world, I world → I (tick s world)) :
    ∀ (waits : List Wait) (s : Session) (world : σ), I world →
      I (s.poll fetch tick clock world waits).world
  | [], _, _, h => h
  | wait :: waits, s, world, h => by
    have hshown := htick (s.refreshed clock (fetch world).1) _ (hfetch world h)
    cases hg : goesOn (fetch world).1 with
    | false =>
      rw [poll_inactive _ _ _ _ _ _ _ hg]
      exact hshown
    | true =>
      by_cases hw : wait = .elapsed
      · subst hw
        rw [poll_elapsed _ _ _ _ _ _ hg]
        exact poll_keeps hfetch htick waits _ _ hshown
      · rw [poll_cancelled _ _ _ _ _ _ hw hg]
        exact hshown

/-- No request is among the calls. -/
def Client.Silent (c : Client) : Prop := ∀ r, Call.submit r ∉ c.calls

theorem Client.Silent.call {c : Client} (h : c.Silent) {k : Call} (hk : ∀ r, k ≠ .submit r) :
    (c.call k).2.Silent := by
  intro r hr
  rw [c.calls_call] at hr
  rcases List.mem_append.1 hr with hr | hr
  · exact h r hr
  · exact hk r (List.mem_singleton.1 hr).symm

namespace Stage

theorem silent_watch {st : Stage} (h : st.client.Silent) : st.watch.client.Silent := by
  have hfetch : ∀ world : Stage, world.client.Silent → (backend.status world).2.client.Silent :=
    fun _ hworld => hworld.call (k := .status) fun _ hk => (by cases hk)
  have hshow : ∀ (s : Session) (world : Stage), world.client.Silent →
      (showRound s world).client.Silent := fun _ _ hworld => hworld
  have hkept : (st.session.poll backend.status showRound st.clock st st.waits).world.client.Silent :=
    Session.poll_keeps (I := fun world => world.client.Silent) hfetch hshow st.waits st.session st h
  unfold watch
  dsimp only
  split
  · exact hkept
  · exact hkept

/-- A command that makes one call, or follows the status, posts nothing. -/
theorem silent_run {start : Stage} (hnew : start.client.Silent) {command : Command}
    (haction : command.action? = none) (hshell : command ≠ .shell) :
    (start.run command).2.client.Silent := by
  cases command with
  | connect =>
    change (afterCall start.connect).2.client.Silent
    rw [(afterCall_eq start.connect).2]
    exact hnew.call (k := .connect) fun _ hk => (by cases hk)
  | disconnect =>
    change (afterCall start.disconnect).2.client.Silent
    rw [(afterCall_eq start.disconnect).2]
    exact hnew.call (k := .disconnect) fun _ hk => (by cases hk)
  | status =>
    change start.showStatus.2.client.Silent
    rw [start.showStatus_eq.1]
    exact hnew.call (k := .status) fun _ hk => (by cases hk)
  | watch interval => exact silent_watch hnew
  | submit request => cases haction
  | member action target => cases haction
  | shell => exact absurd rfl hshell

end Stage

/-- A request that is wished for carries what its action takes, and is not addressed. -/
theorem modest_of_wish {wish : Wish} {r : Request} (h : wish.command = .submit r) :
    r.Modest ∧ r.action.isForMember = false ∧ r.endpoints = [] := by
  cases wish
  all_goals cases h
  all_goals exact ⟨⟨by simp, by simp, by simp⟩, rfl, rfl⟩

theorem isForMember_of_wish {wish : Wish} {action : Action} {target : String}
    (h : wish.command = .member action target) : action.isForMember = true := by
  cases wish
  all_goals cases h
  all_goals rfl

/-- **Every command posts its requests behind a refresh**, as it is wished for. -/
theorem posts_run {start : Stage} (hnew : start.client.calls = []) (wish : Wish) :
    Posts (Fits wish.command start) (start.run wish.command).2.client.calls := by
  have hsilent : start.client.Silent := fun r => by simp [hnew]
  cases hcommand : wish.command with
  | submit r =>
    obtain ⟨hmodest, hother, hnone⟩ := modest_of_wish hcommand
    have hquiet : Posts (Fits (.submit r) start) start.client.calls := Posts.of_silent hsilent
    rw [start.calls_submitted]
    refine hquiet.refreshed (some _) fun sent hsent => ?_
    cases hsent
    exact ⟨.once (by simp), Session.modest_addressed _ hmodest, routed_everywhere _ _ hother hnone⟩
  | member action target =>
    have hmember := Action.isForMember_iff.1 (isForMember_of_wish hcommand)
    have hquiet : Posts (Fits (.member action target) start) start.client.calls :=
      Posts.of_silent hsilent
    rw [start.calls_member]
    refine hquiet.refreshed (some _) fun sent hsent => ?_
    cases hsent
    refine ⟨.once (by simp), Request.modest_bare _ _, .named hmember rfl rfl (fun m hm => ?_)
      fun hunknown => ?_⟩
    · rw [ServerStatus.endpointOf_of_firstNamed hm]
    · rw [ServerStatus.endpointOf_of_unknown hunknown]
  | shell =>
    rw [Stage.run_shell]
    exact Stage.posts_shell hnew
  | connect | disconnect | status | watch interval =>
    exact Posts.of_silent (Stage.silent_run hsilent rfl (by simp))

/-! ## What the playground receives -/

/-- Every request that the server received is that of a call. -/
def Client.Faithful (c : Client) : Prop :=
  ∀ q ∈ c.server.received, ∃ k ∈ c.calls, k.request c.endpoint = .ok q

theorem Client.Faithful.call {c : Client} (h : c.Faithful) (k : Call) : (c.call k).2.Faithful := by
  have hkept : ∀ q ∈ c.server.received, ∃ k' ∈ c.calls ++ [k], k'.request c.endpoint = .ok q := by
    intro q hq
    obtain ⟨k', hk', hrequest⟩ := h q hq
    exact ⟨k', List.mem_append_left _ hk', hrequest⟩
  unfold Client.call
  dsimp only
  split
  · exact hkept
  · rename_i r hr
    intro q hq
    rcases Http.Server.mem_received_exchange hq with hq | rfl
    · exact hkept q hq
    · exact ⟨k, List.mem_append_right _ List.mem_cons_self, hr⟩

theorem Stage.client_move (st : Stage) (m : Move) :
    (st.move m).client = st.client ∨ ∃ k, (st.move m).client = (st.client.call k).2 := by
  cases m with
  | connect => exact .inr ⟨.connect, rfl⟩
  | disconnect => exact .inr ⟨.disconnect, rfl⟩
  | refresh => exact .inr ⟨.status, rfl⟩
  | submit r => exact .inr ⟨.submit (st.session.addressed r), rfl⟩
  | expire | ask _ | printLog | printStatus | printLine _ => exact .inl rfl

theorem Stage.faithful_perform : ∀ (moves : List Move) {st : Stage}, st.client.Faithful →
    (st.perform moves).client.Faithful
  | [], _, h => h
  | m :: moves, st, h => by
    have hmoved : (st.move m).client.Faithful := by
      rcases st.client_move m with hsame | ⟨k, hcall⟩
      · rwa [hsame]
      · rw [hcall]
        exact h.call k
    exact faithful_perform moves hmoved

/-- What is posted is a request among the calls, with its JSON value. -/
theorem Call.submit_of_post {k : Call} {endpoint : Url} {q : Http.Request}
    (hpost : q.method = .post) (hrequest : k.request endpoint = .ok q) :
    ∃ sent, k = .submit sent ∧ q.body = some sent.toJson := by
  unfold request at hrequest
  split at hrequest
  · cases hrequest
    cases k with
    | connect | disconnect | status => cases hpost
    | submit sent => exact ⟨sent, rfl, rfl⟩
  · cases hrequest

/-- **What every command posts to the playground**, whatever the playground answers and the user replies.
Everything that can be wished for has command lines, and no word of a command line does anything else.  What
the server receives as posted is the text of a request among the calls, which is decoded to that request.
A request comes directly behind a refresh, of the stage that the command starts from or that a round of the
shell begins on.  It carries a prefix, a key and a value only if its action takes them.  If it stops or
restarts a member, it goes to the first of the name that the command line gives, or of the name at the place
that the replies of that round point at; and otherwise to all endpoints that the members have, as far as the
status says that is known then.  A session itself sends a request that has endpoints as it is. -/
theorem posted_requests_fit_fresh_status :
    (∀ path wish arguments, path ≠ some "" → Expresses path wish arguments →
      Invocation.ofArguments arguments = .ok ⟨path, .play wish.command⟩) ∧
    (∀ word g command, playCommandOf? word g = some command → ∃ wish : Wish, wish.command = command) ∧
    (∀ (wish : Wish) (endpoint : Url) (listens : Bool) (answers : List (Option Http.Answer))
        (terminal : Terminal) (waits : List Wait) (clock : Clock),
      let start : Stage :=
        { client := { endpoint, server := { listens, answers } }, terminal, waits, clock }
      let final := (start.run wish.command).2
      (∀ q ∈ final.client.server.received, q.method = .post →
        ∃ sent, .submit sent ∈ final.client.calls ∧ q.body = some sent.toJson ∧
          decodeText? Request.ofJson? sent.toJson.text = some sent) ∧
      Posts (Fits wish.command start) final.client.calls) ∧
    ∀ {σ : Type} (b : Backend σ) (world : σ) (s : Session) (clock : Clock) (r : Request),
      r.endpoints ≠ [] →
        (s.submit b clock r world).result = (b.submit r world).1.toOption ∧
          (s.submit b clock r world).world = (b.submit r world).2 := by
  refine ⟨fun path wish arguments hpath => ofArguments_of_expresses hpath,
    fun word g command => exists_wish_of_playCommandOf?,
    fun wish endpoint listens answers terminal waits clock => ?_, fun b world s clock r hr => ?_⟩
  · intro start final
    refine ⟨fun q hq hpost => ?_, posts_run rfl wish⟩
    obtain ⟨moves, -, hmoves⟩ := Stage.reaches_run start wish.command
    have hfaithful : final.client.Faithful := by
      change (start.run wish.command).2.client.Faithful
      rw [hmoves]
      exact Stage.faithful_perform moves fun q hq => absurd hq List.not_mem_nil
    obtain ⟨k, hk, hrequest⟩ := hfaithful q hq
    obtain ⟨sent, rfl, hbody⟩ := Call.submit_of_post hpost hrequest
    exact ⟨sent, hk, hbody, sent.decode_text⟩
  · unfold Session.submit
    rw [s.addressed_of_ne_nil hr]
    exact ⟨rfl, rfl⟩

/-- Two members of one name; the second of them does not say where it is. -/
def twins : ServerStatus where
  members := [{ name := "n", endpoint := "a:1" }, { name := "n", endpoint := "None" }]

/-- A playground that tells of the twins and breaks off the call for the request. -/
def twinStage : Stage where
  client := {
    endpoint := Sample.profile.playground.endpoint
    server := { listens := true, answers := [some ⟨200, some twins.toJson.text⟩, none] } }

theorem known_twinStage : twinStage.refresh.session.status = twins := by
  have hfetched : twinStage.client.status.1 = .ok twins := by
    have hsuccess : ∀ body, (Http.Answer.mk 200 body).isSuccess = true := fun _ => rfl
    rw [Client.status, Client.callFor_answered rfl (.inl rfl) rfl rfl, bind_decodeAnswer_eq_ok_iff]
    exact ⟨⟨200, some twins.toJson.text⟩, rfl, hsuccess _, twins.decode_text⟩
  rw [Stage.status_refresh, hfetched]
  rfl

theorem twin_posts_fit :
    let command : Command := Wish.command (.stopNode "n")
    let final := (twinStage.run command).2
    let sent : Request := { action := .stopNode, endpoints := ["a:1"] }
    Invocation.ofArguments ["play", "stop-node", "n"] = .ok ⟨none, .play command⟩ ∧
      final.client.calls = [.status, .submit sent] ∧
      Fits command twinStage twinStage sent ∧
      ∃ q ∈ final.client.server.received, q.method = .post ∧ q.body = some sent.toJson ∧
        decodeText? Request.ofJson? sent.toJson.text = some sent := by
  intro command final sent
  obtain ⟨hread, -, hplayed, -⟩ := posted_requests_fit_fresh_status
  have hargs : Invocation.ofArguments ["play", "stop-node", "n"] = .ok ⟨none, .play command⟩ :=
    hread none (.stopNode "n") _ (by simp) (.plain (by decide))
  have haction : command.action? = some .stopNode := rfl
  have hcalls : final.client.calls = [.status, .submit sent] := by
    have hposted := twinStage.calls_member .stopNode "n"
    rw [known_twinStage] at hposted
    exact hposted
  obtain ⟨hposted, hposts⟩ := hplayed (.stopNode "n") twinStage.client.endpoint true
    twinStage.client.server.answers {} [] (fun _ => 0)
  obtain ⟨before, -, hfits⟩ := hposts [.status] sent [] hcalls
  have hbefore : before = twinStage := by
    cases hfits.setsOut with
    | once _ => rfl
    | round shell _ _ _ => exact absurd shell (by simp [Wish.command])
  rw [hbefore] at hfits
  obtain ⟨request, _, submitUrl, _, _, _, -, -, -, -, hexchange, -⟩ :=
    twinStage.exchange_action rfl rfl haction
  have hmem : ⟨.post, submitUrl, some request.toJson⟩ ∈ final.client.server.received := by
    have hall := hexchange.received rfl (.inl rfl)
    change _ ∈ (twinStage.run command).2.client.server.received
    rw [hall]
    simp
  obtain ⟨posted, hcall, hbody, hdecoded⟩ := hposted _ hmem rfl
  have hsame : posted = sent := by
    have hcall : Call.submit posted ∈ final.client.calls := hcall
    rw [hcalls] at hcall
    simpa using hcall
  rw [hsame] at hbody hdecoded
  exact ⟨hargs, hcalls, hfits, _, hmem, rfl, hbody, hdecoded⟩

end EtcdKit.Playground
