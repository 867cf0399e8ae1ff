import EtcdKit.Proofs.CommandLine.PlayLines
import EtcdKit.Proofs.Playground.Growth
import EtcdKit.Proofs.Playground.Rounds
import EtcdKit.Proofs.Profile.Loading
/-!
# ExitCodes — what a command asks of the playground, and how it ends

A command that carries out an action fetches the status and then posts a request, whatever the first
answer was, and its exit code tells what came of the second.  A command that connects, disconnects or
shows the status makes one call, and reports it if it fails.  The address of a loaded profile can be a
base, so each call has a request (`request_eq_ok`), and a server that listens receives the requests in
the order in which they are made (`received_exchanges`).  A line that asks for the shell ends as the shell
does (`run_shell_line`).
-/
namespace EtcdKit

/-- What the body of an answer says; one that breaks off says nothing. -/
def Http.Answer.said (a : Answer) : String :=
  match a.body with
  | some text => text
  | none => ""

theorem Http.Answer.text_eq_said (a : Answer) : a.text = a.said := by
  unfold text said
  cases a.body <;> rfl

namespace Http.Server

/-- Sends requests one after another: their answers, and the server after them. -/
def exchanges (s : Server) : List Request → List (Option Answer) × Server
  | [] => ([], s)
  | r :: rs =>
    let (answer, s) := s.exchange r
    let (answers, s) := s.exchanges rs
    (answer :: answers, s)

theorem listens_exchange (s : Server) (r : Request) : (s.exchange r).2.listens = s.listens := by
  unfold exchange
  split
  · split
    · rfl
    · rfl
  · rfl

theorem received_exchange (s : Server) {r : Request} (hs : s.listens = true)
    (hr : r.isSendable = true) : (s.exchange r).2.received = s.received ++ [r] := by
  unfold exchange
  rw [hs, hr, Bool.and_self, if_pos rfl]
  split
  · rfl
  · rfl

theorem answer_exchange {s : Server} {r : Request} {answer : Option Answer}
    {rest : List (Option Answer)} (hs : s.listens = true) (hanswers : s.answers = answer :: rest)
    (hr : r.isSendable = true) : (s.exchange r).1 = answer := by
  unfold exchange
  rw [hs, hr, hanswers, Bool.and_self, if_pos rfl]

theorem mem_received_exchange {s : Server} {r q : Request}
    (h : q ∈ (s.exchange r).2.received) : q ∈ s.received ∨ q = r := by
  unfold exchange at h
  split at h
  · split at h
    · simpa using h
    · simpa using h
  · exact .inl h

/-- **A server that listens receives the requests in order.** -/
theorem received_exchanges : ∀ (rs : List Request) (s : Server), s.listens = true →
    (∀ r ∈ rs, r.isSendable = true) → (s.exchanges rs).2.received = s.received ++ rs
  | [], s, _, _ => (List.append_nil s.received).symm
  | r :: rs, s, hs, hrs => by
    obtain ⟨hr, hrs⟩ := List.forall_mem_cons.1 hrs
    have hlistens : (s.exchange r).2.listens = true := (s.listens_exchange r).trans hs
    have hrest := received_exchanges rs (s.exchange r).2 hlistens hrs
    have hfirst := s.received_exchange hs hr
    calc (s.exchanges (r :: rs)).2.received
        = ((s.exchange r).2.exchanges rs).2.received := rfl
      _ = s.received ++ r :: rs := by
        rw [hrest, hfirst, List.append_assoc, List.singleton_append]

end Http.Server

namespace Playground

/-! ## Calls and their answers -/

namespace Call

/-- The body of an answer holds what the call asks for; one that closes the session need not hold
anything. -/
def Holds (k : Call) (body : String) : Prop :=
  match k with
  | .connect => ∃ c, decodeText? Connection.ofJson? body = some c
  | .disconnect => True
  | .status => ∃ s, decodeText? ServerStatus.ofJson? body = some s
  | .submit _ => ∃ r, decodeText? Response.ofJson? body = some r

theorem request_eq_ok {endpoint : Url} (h : endpoint.canBeBase = true) (k : Call) :
    ∃ url, endpoint.neighbour? k.place = some url ∧
      k.request endpoint = .ok ⟨k.method, url, k.body⟩ := by
  unfold request Url.neighbour?
  unfold Url.canBeBase at h
  split at h
  · cases h
  · exact ⟨_, rfl, rfl⟩

theorem scheme_of_request {endpoint : Url} {k : Call} {r : Http.Request}
    (h : k.request endpoint = .ok r) : r.url.scheme = endpoint.scheme := by
  unfold request Url.neighbour? at h
  split at h
  · rename_i url hurl
    split at hurl
    · cases hurl
    · cases hurl
      cases h
      rfl
  · cases h

theorem isSendable_of_request {endpoint : Url} {k : Call} {r : Http.Request}
    (h : k.request endpoint = .ok r) (hweb : endpoint.scheme = "http" ∨ endpoint.scheme = "https") :
    r.isSendable = true := by
  have hscheme : r.url.scheme = endpoint.scheme := k.scheme_of_request h
  unfold Http.Request.isSendable
  rcases hweb with hs | hs
  · simp [hscheme, hs]
  · simp [hscheme, hs]

end Call

/-- The answer says that the request it answers was carried out with success. -/
def CarriedOut (answer : Option Http.Answer) : Prop :=
  ∃ a response, answer = some a ∧ a.isSuccess = true ∧
    decodeText? Response.ofJson? a.said = some response ∧ response.success = true

theorem accept_eq_ok_iff {answer : Option Http.Answer} {a : Http.Answer} :
    accept answer = .ok a ↔ answer = some a ∧ a.isSuccess = true := by
  cases answer with
  | none => simp [accept]
  | some b =>
    by_cases hb : b.isSuccess = true
    · simp only [accept, if_pos hb, Except.ok.injEq, Option.some.injEq]
      exact ⟨fun h => ⟨h, h ▸ hb⟩, fun h => h.1⟩
    · simp only [accept, if_neg hb, Option.some.injEq, reduceCtorEq, false_iff]
      exact fun h => hb (h.1 ▸ h.2)

theorem bind_decodeAnswer_eq_ok_iff {α : Type} {ofJson? : Json → Option α}
    {answer : Option Http.Answer} {v : α} :
    (accept answer).bind (decodeAnswer ofJson?) = .ok v ↔
      ∃ a, answer = some a ∧ a.isSuccess = true ∧ decodeText? ofJson? a.said = some v := by
  have hdecode : ∀ a, decodeAnswer ofJson? a = .ok v ↔ decodeText? ofJson? a.said = some v := by
    intro a
    unfold decodeAnswer
    rw [a.text_eq_said]
    cases decodeText? ofJson? a.said <;> simp
  cases haccept : accept answer with
  | error e =>
    have hno : ∀ a, answer = some a → ¬ a.isSuccess = true := fun a ha hs => by
      rw [accept_eq_ok_iff.2 ⟨ha, hs⟩] at haccept
      cases haccept
    refine ⟨fun h => (by cases h), ?_⟩
    rintro ⟨a, ha, hs, -⟩
    exact absurd hs (hno a ha)
  | ok a =>
    obtain ⟨rfl, hs⟩ := accept_eq_ok_iff.1 haccept
    refine (hdecode a).trans ⟨fun h => ⟨a, rfl, hs, h⟩, ?_⟩
    rintro ⟨b, hb, -, h⟩
    rwa [Option.some.inj hb]

/-- **A call is one exchange** with the server, as long as it has a request. -/
theorem Client.call_eq (c : Client) {k : Call} {r : Http.Request}
    (h : k.request c.endpoint = .ok r) :
    c.call k = (accept (c.server.exchange r).1,
      { c with calls := c.calls ++ [k], server := (c.server.exchange r).2 }) := by
  unfold call
  rw [h]

/-- What becomes of a call to a server that has an answer for it. -/
theorem Client.callFor_answered {c : Client} (hbase : c.endpoint.canBeBase = true)
    (hweb : c.endpoint.scheme = "http" ∨ c.endpoint.scheme = "https")
    (hlistens : c.server.listens = true) {answer : Option Http.Answer}
    {rest : List (Option Http.Answer)} (hanswers : c.server.answers = answer :: rest) {α : Type}
    (ofJson? : Json → Option α) (k : Call) :
    (c.callFor ofJson? k).1 = (accept answer).bind (decodeAnswer ofJson?) := by
  obtain ⟨url, -, hrequest⟩ := Call.request_eq_ok hbase k
  have hsendable := k.isSendable_of_request hrequest hweb
  rw [callFor, c.call_eq hrequest, Http.Server.answer_exchange hlistens hanswers hsendable]

/-! ## Commands -/

namespace Command

/-- The action that a command carries out. -/
def action? : Command → Option Action
  | .submit request => some request.action
  | .member action _ => some action
  | _ => none

end Command

/-- Calls are made at an address: what they ask of a server, what it answers, and how it is left. -/
structure Exchange (endpoint : Url) (calls : List Call) (before after : Http.Server)
    (requests : List Http.Request) (answers : List (Option Http.Answer)) : Prop where
  asked : calls.map (·.request endpoint) = requests.map .ok
  answered : before.exchanges requests = (answers, after)
  received : before.listens = true → endpoint.scheme = "http" ∨ endpoint.scheme = "https" →
    after.received = before.received ++ requests

theorem exchange_of_asked {endpoint : Url} {calls : List Call} {requests : List Http.Request}
    (h : calls.map (·.request endpoint) = requests.map .ok) (server : Http.Server) :
    Exchange endpoint calls server (server.exchanges requests).2 requests
      (server.exchanges requests).1 := by
  refine ⟨h, rfl, fun hlistens hscheme => server.received_exchanges requests hlistens ?_⟩
  intro r hr
  have hmem : Except.ok r ∈ calls.map (·.request endpoint) := h ▸ List.mem_map_of_mem hr
  obtain ⟨k, -, hk⟩ := List.mem_map.1 hmem
  exact k.isSendable_of_request hk hscheme

namespace Stage

theorem succeeded_iff {answer : Option Http.Answer} :
    succeeded ((accept answer).bind (decodeAnswer Response.ofJson?)).toOption = true ↔
      CarriedOut answer := by
  have hresult := @bind_decodeAnswer_eq_ok_iff _ Response.ofJson? answer
  cases hbind : (accept answer).bind (decodeAnswer Response.ofJson?) with
  | error e =>
    refine ⟨fun h => (by cases h), ?_⟩
    rintro ⟨a, response, ha, hs, hdecode, -⟩
    rw [hresult.2 ⟨a, ha, hs, hdecode⟩] at hbind
    cases hbind
  | ok response =>
    obtain ⟨a, rfl, hs, hdecode⟩ := hresult.1 hbind
    refine ⟨fun h => ⟨a, response, rfl, hs, hdecode, h⟩, ?_⟩
    rintro ⟨b, other, hb, -, hother, h⟩
    cases hb
    rw [hdecode] at hother
    cases hother
    exact h

/-- **A command that carries out an action** fetches the status first, and sends one request. -/
theorem run_action (st : Stage) {command : Command} {action : Action}
    (h : command.action? = some action) :
    ∃ request : Request, request.action = action ∧
      st.run command = st.refresh.submitOnce request := by
  cases command with
  | submit request => exact ⟨request, Option.some.inj h, rfl⟩
  | member chosen target =>
    exact ⟨{ action := chosen, endpoints := [st.refresh.session.status.endpointOf target] },
      Option.some.inj h, rfl⟩
  | connect | disconnect | status | watch _ | shell => cases h

theorem client_refresh (st : Stage) {r : Http.Request}
    (h : Call.status.request st.client.endpoint = .ok r) :
    st.refresh.client = { st.client with
      calls := st.client.calls ++ [.status], server := (st.client.server.exchange r).2 } :=
  congrArg Prod.snd (st.client.call_eq h)

theorem submitOnce_eq (st : Stage) (request : Request) {r : Http.Request}
    (h : (Call.submit (st.session.addressed request)).request st.client.endpoint = .ok r) :
    let answer := (st.client.server.exchange r).1
    ∃ code, (st.submitOnce request).1 = .ok code ∧ (CarriedOut answer → code = 0) ∧
      (¬ CarriedOut answer → code = 1) ∧
      (st.submitOnce request).2.client = { st.client with
        calls := st.client.calls ++ [.submit (st.session.addressed request)]
        server := (st.client.server.exchange r).2 } := by
  intro answer
  have hcall := st.client.call_eq h
  have hsucceeded : (st.submit request).1 = true ↔ CarriedOut answer := by
    rw [← succeeded_iff]
    have hanswer : (st.client.call (.submit (st.session.addressed request))).1 = accept answer :=
      congrArg Prod.fst hcall
    rw [← hanswer]
    exact Iff.rfl
  refine ⟨if (st.submit request).1 then 0 else 1, rfl, fun hc => ?_, fun hc => ?_,
    congrArg Prod.snd hcall⟩
  · rw [hsucceeded.2 hc]
    rfl
  · rw [Bool.eq_false_iff.2 fun ht => hc (hsucceeded.1 ht)]
    rfl

theorem afterCall_eq (out : Except Error Unit × Stage) :
    (afterCall out).1 = out.1.map (fun _ => 0) ∧ (afterCall out).2.client = out.2.client := by
  obtain ⟨result, st⟩ := out
  cases result with
  | error e => exact ⟨rfl, rfl⟩
  | ok u => exact ⟨rfl, rfl⟩

/-- The status is shown if it was fetched; otherwise the message that the session keeps is reported. -/
theorem showStatus_eq (st : Stage) :
    st.showStatus.2.client = st.client.status.2 ∧
      ((∀ s, st.client.status.1 = .ok s → st.showStatus.1 = .ok 0) ∧
        ∀ e, st.client.status.1 = .error e → ∃ e', st.showStatus.1 = .error e') := by
  have hkept : st.refresh.session = st.session.refreshed st.clock st.client.status.1 := rfl
  have hclient : st.refresh.client = st.client.status.2 := rfl
  unfold showStatus
  dsimp only
  rw [hkept]
  cases hs : st.client.status.1 with
  | ok status => exact ⟨hclient, fun _ _ => rfl, fun _ he => (by cases he)⟩
  | error e => exact ⟨hclient, fun _ he => (by cases he), fun _ _ => ⟨_, rfl⟩⟩

/-- **The two requests of an action**, and the exit code that the second answer leads to. -/
theorem exchange_action (st : Stage) (hbase : st.client.endpoint.canBeBase = true)
    (hnew : st.client.calls = []) {command : Command} {action : Action}
    (h : command.action? = some action) :
    let left := (st.run command).2
    ∃ request statusUrl submitUrl first second code,
      request.action = action ∧ left.client.calls = [.status, .submit request] ∧
      st.client.endpoint.neighbour? "server-status" = some statusUrl ∧
      st.client.endpoint.neighbour? "client-request" = some submitUrl ∧
      Exchange st.client.endpoint left.client.calls st.client.server left.client.server
        [⟨.get, statusUrl, none⟩, ⟨.post, submitUrl, some request.toJson⟩] [first, second] ∧
      (st.run command).1 = .ok code ∧
      (CarriedOut second → code = 0) ∧ (¬ CarriedOut second → code = 1) := by
  obtain ⟨request, hrequest, hrun⟩ := st.run_action h
  obtain ⟨statusUrl, hstatusUrl, hstatus⟩ := Call.request_eq_ok hbase .status
  have hfresh := st.client_refresh hstatus
  -- what was fetched decides where the request is meant to go, but not whether it is sent
  generalize st.refresh = fresh at hrun hfresh
  let sent := fresh.session.addressed request
  obtain ⟨submitUrl, hsubmitUrl, hsubmit⟩ := Call.request_eq_ok hbase (.submit sent)
  have hsame : fresh.client.endpoint = st.client.endpoint := by rw [hfresh]
  obtain ⟨code, hcode, hzero, hone, hleft⟩ :=
    fresh.submitOnce_eq request (hsame ▸ hsubmit)
  rw [hfresh] at hzero hone hleft
  rw [← hrun] at hcode hleft
  have hcalls : (st.run command).2.client.calls = [.status, .submit sent] := by
    rw [hleft, hnew]
    rfl
  let requests : List Http.Request :=
    [⟨.get, statusUrl, none⟩, ⟨.post, submitUrl, some sent.toJson⟩]
  have hserver : (st.run command).2.client.server = (st.client.server.exchanges requests).2 := by
    rw [hleft]
    rfl
  have hasked : [Call.status, .submit sent].map (·.request st.client.endpoint) = requests.map .ok := by
    rw [List.map_cons, List.map_singleton, hstatus, hsubmit]
    rfl
  have hexchange := exchange_of_asked hasked st.client.server
  rw [← hcalls, ← hserver] at hexchange
  exact ⟨sent, statusUrl, submitUrl, _, _, code, (Session.addressed_action _ _).trans hrequest, hcalls,
    hstatusUrl, hsubmitUrl, hexchange, hcode, hzero, hone⟩

end Stage
end Playground

namespace CommandLine

open Playground

/-- The stage on which a command is carried out. -/
def Setting.stage (setting : Setting) (p : Profile) : Stage where
  client := { endpoint := p.playground.endpoint, server := setting.server }
  terminal := setting.terminal
  waits := setting.waits
  clock := setting.clock

theorem play_of_load {readText : String → Except Error String} {path : Option String} {p : Profile}
    (h : Profile.load readText path = .ok p) (setting : Setting) (command : Command) :
    play readText path setting command = {
      result := ((setting.stage p).run command).1
      printed := ((setting.stage p).run command).2.printed
      server := ((setting.stage p).run command).2.client.server
      terminal := ((setting.stage p).run command).2.terminal } := by
  unfold play
  rw [h]
  rfl

/-- A line that asks for a command carries it out with the loaded profile. -/
theorem run_eq_playing {readText : String → Except Error String} {path : Option String} {p : Profile}
    (hload : Profile.load readText path = .ok p) {arguments : List String} {command : Command}
    (hargs : Invocation.ofArguments arguments = .ok ⟨path, .play command⟩)
    (stamp : Int → String) (setting : Setting) :
    run readText stamp setting arguments = playing stamp {
      result := ((setting.stage p).run command).1
      printed := ((setting.stage p).run command).2.printed
      server := ((setting.stage p).run command).2.client.server
      terminal := ((setting.stage p).run command).2.terminal } := by
  rw [← play_of_load hload]
  simp only [run, hargs]

/-- **A line that asks for the shell** plays it, and ends as the shell ends. -/
theorem run_shell_line {readText : String → Except Error String} {path : Option String} {p : Profile}
    (hload : Profile.load readText path = .ok p) (hpath : path ≠ some "") {arguments : List String}
    (hshell : Expresses path .shell arguments) (stamp : Int → String) (setting : Setting) :
    let outcome := run readText stamp setting arguments
    let (result, left) := (setting.stage p).shell
    outcome.output = printedText stamp left.printed ∧ outcome.server = left.client.server ∧
      outcome.terminal = left.terminal ∧
      match result with
      | .ok () => outcome.code = 0 ∧ outcome.error = none
      | .error e => outcome.code = 1 ∧ outcome.error = some e := by
  intro outcome
  have houtcome : outcome = _ :=
    run_eq_playing hload (ofArguments_of_expresses hpath hshell) stamp setting
  rw [houtcome]
  unfold Wish.command Stage.run
  rcases (setting.stage p).shell with ⟨⟨⟩ | ⟨⟩, left⟩
  · exact ⟨rfl, rfl, rfl, rfl, rfl⟩
  · exact ⟨rfl, rfl, rfl, rfl, rfl⟩

end CommandLine
end EtcdKit
