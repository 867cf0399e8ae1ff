import EtcdKit.Proofs.Playground.Reasons
/-!
# Answers — how a call to the playground ends

A call asks one place once, and its answer decides how it ends (`Ends`): without an answer it fails, an
answer in the 200s holds a value or cannot be read, and any other answer is a rejection that says why.
An address without neighbours is not asked at all (`calls_end_by_answer`).
-/
namespace EtcdKit

theorem Url.neighbour?_eq_none {u : Url} (h : u.canBeBase = false) (name : String) :
    u.neighbour? name = none := by
  unfold canBeBase at h
  unfold neighbour?
  split at h
  · rfl
  · cases h

namespace Playground

/-- How a call ends by its answer, where `holds` reads the value from the body of an answer. -/
inductive Ends {α : Type} (holds : String → Option α) :
    Option Http.Answer → Except Error α → Prop
  | unanswered : Ends holds none (.error (.backend "HTTP request failed" none))
  | decoded {answer value} (success : 200 ≤ answer.status ∧ answer.status < 300)
      (held : holds answer.said = some value) : Ends holds (some answer) (.ok value)
  | undecoded {answer} (success : 200 ≤ answer.status ∧ answer.status < 300)
      (held : holds answer.said = none) :
      Ends holds (some answer) (.error (.backend "Failed to parse response" (some answer.status)))
  | rejected {answer message} (failure : answer.status < 200 ∨ 300 ≤ answer.status)
      (reason : Explains answer message) :
      Ends holds (some answer) (.error (.backend message (some answer.status)))

/-- A call that is made once: what it asks of which place, and how it ends. -/
structure MadeOnce {α : Type} (c : Client) (method : Http.Method) (place : String)
    (body : Option Json) (holds : String → Option α) (out : Except Error α × Client) : Prop where
  /-- There is one exchange with the server, whose answer decides. -/
  asked : c.endpoint.canBeBase = true → ∃ url, c.endpoint.neighbour? place = some url ∧
    out.2.server = (c.server.exchange ⟨method, url, body⟩).2 ∧
    ∀ result, out.1 = result ↔ Ends holds (c.server.exchange ⟨method, url, body⟩).1 result
  /-- A server that listens receives the one request. -/
  received : c.server.listens = true → c.endpoint.scheme = "http" ∨ c.endpoint.scheme = "https" →
    ∀ url, c.endpoint.neighbour? place = some url →
      out.2.server.received = c.server.received ++ [⟨method, url, body⟩]
  /-- An address without neighbours leaves the server as it is. -/
  unaddressed : c.endpoint.canBeBase = false → out.2.server = c.server ∧
    ∃ message, out.1 = .error (.backend message none)
  backend : ∀ e, out.1 = .error e → ∃ message status, e = .backend message status

section Reading

variable {α : Type} {holds : String → Option α} {decode : Http.Answer → Except Error α}

/-- An answer of the 200s is decoded to the value that its body holds. -/
def Decodes (decode : Http.Answer → Except Error α) (holds : String → Option α) : Prop :=
  ∀ answer, decode answer = match holds answer.said with
    | some value => .ok value
    | none => .error (.backend "Failed to parse response" (some answer.status))

theorem decodes_decodeAnswer (ofJson? : Json → Option α) :
    Decodes (decodeAnswer ofJson?) (decodeText? ofJson?) := fun answer =>
  answer.text_eq_said ▸ rfl

theorem accept_success {answer : Http.Answer} (h : 200 ≤ answer.status ∧ answer.status < 300) :
    accept (some answer) = .ok answer := by
  have hsuccess : answer.isSuccess = true := by simpa [Http.Answer.isSuccess] using h
  rw [accept, if_pos hsuccess]

theorem ends_accept (hdecode : Decodes decode holds) (answer : Option Http.Answer) :
    Ends holds answer ((accept answer).bind decode) := by
  cases answer with
  | none => exact .unanswered
  | some answer =>
    by_cases hsuccess : 200 ≤ answer.status ∧ answer.status < 300
    · rw [accept_success hsuccess]
      change Ends holds (some answer) (decode answer)
      rw [hdecode]
      cases hheld : holds answer.said with
      | some value => exact .decoded hsuccess hheld
      | none => exact .undecoded hsuccess hheld
    · have hfailure : answer.status < 200 ∨ 300 ≤ answer.status := by omega
      rw [accept_rejected hfailure]
      exact .rejected hfailure (explains_reason answer)

/-- **An answer decides how a call ends.** -/
theorem ends_iff (hdecode : Decodes decode holds) {answer : Option Http.Answer}
    {result : Except Error α} : (accept answer).bind decode = result ↔ Ends holds answer result := by
  constructor
  · rintro rfl
    exact ends_accept hdecode answer
  · intro h
    cases h with
    | unanswered => rfl
    | decoded hsuccess hheld =>
      rw [accept_success hsuccess]
      change decode _ = _
      rw [hdecode, hheld]
    | undecoded hsuccess hheld =>
      rw [accept_success hsuccess]
      change decode _ = _
      rw [hdecode, hheld]
    | rejected hfailure hreason =>
      rw [accept_rejected hfailure, reason_eq_iff.2 hreason]
      rfl

theorem Ends.backend {answer : Option Http.Answer} {e : Error} (h : Ends holds answer (.error e)) :
    ∃ message status, e = .backend message status := by
  cases h with
  | unanswered => exact ⟨_, _, rfl⟩
  | undecoded => exact ⟨_, _, rfl⟩
  | rejected => exact ⟨_, _, rfl⟩

/-- **A call is made once**, however its answer is read. -/
theorem Client.madeOnce_call (c : Client) (k : Call) (hdecode : Decodes decode holds) :
    MadeOnce c k.method k.place k.body holds ((c.call k).1.bind decode, (c.call k).2) := by
  cases hbase : c.endpoint.canBeBase with
  | true =>
    obtain ⟨url, hurl, hrequest⟩ := Call.request_eq_ok hbase k
    rw [c.call_eq hrequest]
    refine ⟨fun _ => ⟨url, hurl, rfl, fun _ => ends_iff hdecode⟩, fun hlistens hweb url' hurl' => ?_,
      fun h => (by rw [hbase] at h; cases h), fun e he => ((ends_iff hdecode).1 he).backend⟩
    obtain rfl : url = url' := Option.some.inj (hurl.symm.trans hurl')
    exact c.server.received_exchange hlistens (k.isSendable_of_request hrequest hweb)
  | false =>
    have hnone := Url.neighbour?_eq_none hbase
    obtain ⟨message, hfailed⟩ : ∃ message,
        c.call k = (.error (.backend message none), { c with calls := c.calls ++ [k] }) := by
      unfold call Call.request
      rw [hnone]
      exact ⟨_, rfl⟩
    rw [hfailed]
    refine ⟨fun h => (by rw [hbase] at h; cases h), fun _ _ url hurl => ?_,
      fun _ => ⟨rfl, message, rfl⟩, fun e he => ?_⟩
    · rw [hnone] at hurl
      cases hurl
    · cases he
      exact ⟨message, none, rfl⟩

end Reading

/-- **How the calls to a playground end**, at any address and with any server.  Each asks its one place
once, and its answer decides; an answer to the call that closes the session need not hold anything.
An address without neighbours is not asked.  What fails is always a fault of the playground. -/
theorem calls_end_by_answer (c : Client) :
    MadeOnce c .get "conn" none (decodeText? Connection.ofJson?) c.connect ∧
    MadeOnce c .delete "conn" none (fun _ => some ()) c.disconnect ∧
    MadeOnce c .get "server-status" none (decodeText? ServerStatus.ofJson?) c.status ∧
    ∀ r, MadeOnce c .post "client-request" (some r.toJson) (decodeText? Response.ofJson?)
      (c.submit r) := by
  have hclosed : c.disconnect =
      ((c.call .disconnect).1.bind fun _ => .ok (), (c.call .disconnect).2) := by
    unfold Client.disconnect
    rcases c.call .disconnect with ⟨answer, left⟩
    cases answer with
    | error e => rfl
    | ok a => rfl
  refine ⟨c.madeOnce_call .connect (decodes_decodeAnswer _), ?_,
    c.madeOnce_call .status (decodes_decodeAnswer _),
    fun r => c.madeOnce_call (.submit r) (decodes_decodeAnswer _)⟩
  rw [hclosed]
  exact c.madeOnce_call .disconnect fun _ => rfl

/-- An address whose path does not start at a root has no neighbour to ask, so that a server that would
answer receives nothing. -/
theorem rootless_address_is_not_asked :
    let c : Client := {
      endpoint := { scheme := "urn", authority := none, path := .rootless "x" }
      server := { listens := true, answers := [some ⟨200, "\x7b\x7d"⟩] } }
    c.connect.2.server.received = [] ∧
      (∃ message, c.connect.1 = .error (.backend message none)) ∧
      decodeText? Connection.ofJson? "\x7b\x7d" = some {} :=
  ⟨rfl, ⟨_, rfl⟩, by decide +kernel⟩

end Playground
end EtcdKit
