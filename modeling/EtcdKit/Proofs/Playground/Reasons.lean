import Mathlib.Data.List.TakeDrop
import EtcdKit.Proofs.CommandLine.ExitCodes
import EtcdKit.Proofs.Text.Numerals
import EtcdKit.Proofs.Text.Visible
/-!
# Reasons — what is said of a request that was rejected

An answer outside the 200s is an error with a reason.  The members of its body come first, then the body
itself, and then a general text (`Explains`); a body of blanks holds no value, so it falls through to the
last (`reason_eq_iff`).  A reason that a member gives is taken as it is: it is blank if the member is, and
no other reason is (`rejection_is_visible_iff`).
-/
namespace EtcdKit

/-! ## What is read from a body -/

namespace Json

/-- Blanks start no value. -/
theorem readValue_of_blank (fuel : Nat) {cs : List Char}
    (h : ∀ c ∈ cs, Text.isBlankChar c = true) : readValue fuel cs = none := by
  cases fuel with
  | zero => rw [readValue]
  | succ fuel =>
    cases cs with
    | nil => rfl
    | cons c cs =>
      have hc := h c List.mem_cons_self
      have hhead : ∀ (x : Char) (rest : List Char), Text.isBlankChar x = false →
          c :: cs ≠ x :: rest :=
        fun x rest hx heq => Text.ne_of_class hc hx (List.cons.inj heq).1
      have hspan : spanDigits (c :: cs) = ([], c :: cs) := by
        simp [spanDigits, List.span_eq_takeWhile_dropWhile, Text.isDigit_of_isBlankChar hc]
      have hwhole : readWhole (c :: cs) = none := by
        rw [readWhole, hspan]
        exact fun rest => hhead _ rest (by decide)
      have hnumber : readNumber (c :: cs) = none := by
        rw [readNumber, readUnsigned, hwhole]
        · rfl
        · exact fun rest => hhead _ rest (by decide)
      -- all values but numbers start with a character of their own
      rw [readValue, hnumber]
      · rfl
      all_goals exact fun rest => hhead _ _ (by decide)

theorem readMeaningful_of_blank {s : String} (h : Text.isBlank s = true) :
    readMeaningful s = none := by
  have hall : ∀ c ∈ skipSpace s.toList, Text.isBlankChar c = true := fun c hc =>
    Text.isBlank_eq_true_iff.1 h c ((List.dropWhile_suffix _).subset hc)
  have hread : read s = none := by
    rw [read]
    simp only [readValue_of_blank _ hall]
  rw [readMeaningful, hread]

theorem lastMember?_eq_some_iff {name : String} {value v : Json} :
    value.lastMember? name = some v ↔ ∃ front back,
      value = .object (front ++ (name, v) :: back) ∧ ∀ m ∈ back, m.1 ≠ name := by
  constructor
  · intro h
    cases value with
    | object members =>
      obtain ⟨⟨found, last⟩, hfound, rfl⟩ := Option.map_eq_some_iff.1 h
      obtain ⟨hname, behind, before, hsplit, hbehind⟩ := List.find?_eq_some_iff_append.1 hfound
      obtain rfl : found = name := by simpa using hname
      refine ⟨before.reverse, behind.reverse, ?_, fun m hm => ?_⟩
      · rw [← List.reverse_reverse members, hsplit]
        simp
      · simpa using hbehind m (List.mem_reverse.1 hm)
    | _ => cases h
  · rintro ⟨front, back, rfl, hback⟩
    refine Option.map_eq_some_iff.2 ⟨(name, v), List.find?_eq_some_iff_append.2 ?_, rfl⟩
    refine ⟨by simp, back.reverse, front.reverse, by simp, fun m hm => ?_⟩
    simpa using hback m (List.mem_reverse.1 hm)

end Json

namespace Playground

/-! ## The reason of an answer -/

/-- The body is a JSON object, and its last member of that name is that string. -/
def Tells (body name text : String) : Prop :=
  ∃ front back, Json.readMeaningful body = some (.object (front ++ (name, .string text) :: back)) ∧
    ∀ m ∈ back, m.1 ≠ name

/-- The reason that the members of a body give: the result, or else the message. -/
def Gives (body text : String) : Prop :=
  Tells body "Result" text ∨ (∀ t, ¬ Tells body "Result" t) ∧ Tells body "message" text

/-- What is said of an answer outside the 200s. -/
inductive Explains (answer : Http.Answer) : String → Prop
  | result {text} : Tells answer.said "Result" text → Explains answer text
  | message {text} : (∀ t, ¬ Tells answer.said "Result" t) → Tells answer.said "message" text →
      Explains answer text
  | body : (∀ t, ¬ Tells answer.said "Result" t) → (∀ t, ¬ Tells answer.said "message" t) →
      Text.trim answer.said ≠ "" → Explains answer (Text.trim answer.said)
  | serverError : (∀ t, ¬ Tells answer.said "Result" t) → (∀ t, ¬ Tells answer.said "message" t) →
      Text.trim answer.said = "" → 500 ≤ answer.status ∧ answer.status < 600 →
      Explains answer "Server error"
  | general : (∀ t, ¬ Tells answer.said "Result" t) → (∀ t, ¬ Tells answer.said "message" t) →
      Text.trim answer.said = "" → ¬ (500 ≤ answer.status ∧ answer.status < 600) →
      Explains answer "Playground request failed"

theorem tells_iff {body name text : String} : Tells body name text ↔
    (Json.readMeaningful body).bind (bodyText? name) = some text := by
  unfold Tells
  constructor
  · rintro ⟨front, back, hread, hback⟩
    rw [hread, Option.bind_some, bodyText?, Json.lastMember?_eq_some_iff.2 ⟨front, back, rfl, hback⟩]
    rfl
  · intro h
    obtain ⟨value, hread, htext⟩ := Option.bind_eq_some_iff.1 h
    obtain ⟨member, hmember, hstring⟩ := Option.bind_eq_some_iff.1 htext
    obtain ⟨front, back, rfl, hback⟩ := Json.lastMember?_eq_some_iff.1 hmember
    cases member with
    | string s =>
      cases hstring
      exact ⟨front, back, hread, hback⟩
    | _ => cases hstring

theorem tells_none_iff {body name : String} : (∀ text, ¬ Tells body name text) ↔
    (Json.readMeaningful body).bind (bodyText? name) = none := by
  rw [Option.eq_none_iff_forall_ne_some]
  simp only [tells_iff, ne_eq]

theorem givenReason?_eq (body : String) : givenReason? body =
    ((Json.readMeaningful body).bind (bodyText? "Result")).or
      ((Json.readMeaningful body).bind (bodyText? "message")) := by
  unfold givenReason?
  cases Json.readMeaningful body <;> rfl

theorem gives_iff {body text : String} : Gives body text ↔ givenReason? body = some text := by
  unfold Gives
  rw [tells_none_iff, tells_iff, tells_iff, givenReason?_eq, Option.or_eq_some_iff]

theorem gives_none_iff {body : String} : (∀ text, ¬ Tells body "Result" text) ∧
    (∀ text, ¬ Tells body "message" text) ↔ givenReason? body = none := by
  rw [tells_none_iff, tells_none_iff, givenReason?_eq, Option.or_eq_none_iff]

theorem Gives.not_blank {body text : String} (h : Gives body text) : Text.isBlank body = false := by
  rw [Bool.eq_false_iff]
  intro hblank
  rw [gives_iff, givenReason?, Json.readMeaningful_of_blank hblank] at h
  cases h

theorem Gives.reason_eq {answer : Http.Answer} {text : String} (h : Gives answer.said text) :
    reason answer = text := by
  rw [reason, answer.text_eq_said, h.not_blank, gives_iff.1 h]
  rfl

theorem explains_reason (answer : Http.Answer) : Explains answer (reason answer) := by
  cases hgiven : givenReason? answer.said with
  | some text =>
    have hgives := gives_iff.2 hgiven
    rw [hgives.reason_eq]
    rcases hgives with hresult | ⟨hnone, hmessage⟩
    · exact .result hresult
    · exact .message hnone hmessage
  | none =>
    obtain ⟨hresult, hmessage⟩ := gives_none_iff.2 hgiven
    unfold reason
    rw [answer.text_eq_said]
    split
    · rename_i hblank
      have htrim := Text.trim_eq_empty_iff.2 hblank
      have hserver : answer.isServerError = true ↔ 500 ≤ answer.status ∧ answer.status < 600 := by
        simp [Http.Answer.isServerError]
      split
      · rename_i herror
        exact .serverError hresult hmessage htrim (hserver.1 herror)
      · rename_i herror
        exact .general hresult hmessage htrim fun hstatus => herror (hserver.2 hstatus)
    · rename_i hvisible
      rw [hgiven, Option.getD_none]
      exact .body hresult hmessage fun htrim => hvisible (Text.trim_eq_empty_iff.1 htrim)

/-- **The reason of an answer** is the one that explains it, and no other. -/
theorem reason_eq_iff {answer : Http.Answer} {text : String} :
    reason answer = text ↔ Explains answer text := by
  constructor
  · rintro rfl
    exact explains_reason answer
  · intro h
    cases h with
    | result hresult => exact Gives.reason_eq (.inl hresult)
    | message hnone hmessage => exact Gives.reason_eq (.inr ⟨hnone, hmessage⟩)
    | body hresult hmessage htrim =>
      have hblank : ¬ Text.isBlank answer.said = true := fun h => htrim (Text.trim_eq_empty_iff.2 h)
      rw [reason, answer.text_eq_said, if_neg hblank, gives_none_iff.1 ⟨hresult, hmessage⟩]
      rfl
    | serverError _ _ htrim hstatus =>
      have hserver : answer.isServerError = true := by simpa [Http.Answer.isServerError] using hstatus
      rw [reason, answer.text_eq_said, if_pos (Text.trim_eq_empty_iff.1 htrim), if_pos hserver]
    | general _ _ htrim hstatus =>
      have hserver : ¬ answer.isServerError = true := by simpa [Http.Answer.isServerError] using hstatus
      rw [reason, answer.text_eq_said, if_pos (Text.trim_eq_empty_iff.1 htrim), if_neg hserver]

/-- **A reason is blank only if the members of the body give a blank one.** -/
theorem visible_reason_iff {answer : Http.Answer} : Text.Visible (reason answer) ↔
    ∀ text, Gives answer.said text → Text.Visible text := by
  constructor
  · intro h text hgives
    rwa [hgives.reason_eq] at h
  · intro h
    obtain ⟨text, htext⟩ : ∃ text, reason answer = text := ⟨_, rfl⟩
    rw [htext]
    cases reason_eq_iff.1 htext with
    | result hresult => exact h _ (.inl hresult)
    | message hnone hmessage => exact h _ (.inr ⟨hnone, hmessage⟩)
    | body _ _ htrim =>
      rw [← Text.isBlank_eq_false_iff, Text.isBlank_trim, ← Bool.not_eq_true]
      exact fun hblank => htrim (Text.trim_eq_empty_iff.2 hblank)
    | serverError => exact Text.isBlank_eq_false_iff.1 (by decide)
    | general => exact Text.isBlank_eq_false_iff.1 (by decide)

/-! ## Calls that are rejected -/

/-- The call ends with that error. -/
def Client.Fails (c : Client) (k : Call) (e : Error) : Prop :=
  match k with
  | .connect => c.connect.1 = .error e
  | .disconnect => c.disconnect.1 = .error e
  | .status => c.status.1 = .error e
  | .submit r => (c.submit r).1 = .error e

theorem Client.fails_of_call {c : Client} {k : Call} {e : Error} (h : (c.call k).1 = .error e) :
    c.Fails k e := by
  have hdecoded : ∀ {α : Type} (ofJson? : Json → Option α), (c.callFor ofJson? k).1 = .error e := by
    intro α ofJson?
    change (c.call k).1.bind (decodeAnswer ofJson?) = _
    rw [h]
    rfl
  cases k with
  | connect | status | submit => exact hdecoded _
  | disconnect =>
    change (c.call .disconnect).1.map _ = _
    rw [h]
    rfl

theorem accept_rejected {answer : Http.Answer} (h : answer.status < 200 ∨ 300 ≤ answer.status) :
    accept (some answer) = .error (.backend (reason answer) (some answer.status)) := by
  have hsuccess : ¬ answer.isSuccess = true := by
    simp only [Http.Answer.isSuccess, Bool.and_eq_true, decide_eq_true_eq]
    omega
  rw [accept, if_neg hsuccess]

/-- **When a call that is rejected says why.**  The error carries the status of the answer and its reason,
and the reason can be seen exactly if the members of the body do not give one of blanks. -/
theorem rejection_is_visible_iff (c : Client) {k : Call} {r : Http.Request}
    (hrequest : k.request c.endpoint = .ok r) {answer : Http.Answer}
    (hanswer : (c.server.exchange r).1 = some answer)
    (hrejected : answer.status < 200 ∨ 300 ≤ answer.status) :
    ∃ message, c.Fails k (.backend message (some answer.status)) ∧ Explains answer message ∧
      (Text.Visible message ↔ ∀ text, Gives answer.said text → Text.Visible text) := by
  refine ⟨reason answer, ?_, explains_reason answer, visible_reason_iff⟩
  refine Client.fails_of_call ?_
  rw [c.call_eq hrequest, hanswer, accept_rejected hrejected]

/-- A client of a playground that gives that answer. -/
def answeredOnce (answer : Http.Answer) : Client where
  endpoint := { scheme := "http", authority := some { host := .name "h" }, path := .segments [""] }
  server := { listens := true, answers := [some answer] }

theorem exchange_answeredOnce (answer : Http.Answer) {k : Call} {r : Http.Request}
    (h : k.request (answeredOnce answer).endpoint = .ok r) :
    ((answeredOnce answer).server.exchange r).1 = some answer :=
  Http.Server.answer_exchange rfl rfl (Call.isSendable_of_request h (.inl rfl))

/-- A member that is no text is passed over for the next one. -/
theorem busy_is_visible :
    let answer : Http.Answer := ⟨503, "\x7b\"Result\":3,\"message\":\"busy\"\x7d"⟩
    ∃ message, (answeredOnce answer).connect.1 = .error (.backend message (some 503)) ∧
      Text.Visible message := by
  intro answer
  have hgiven : givenReason? answer.said = some "busy" := by decide +kernel
  obtain ⟨message, hfails, -, hvisible⟩ := rejection_is_visible_iff (answeredOnce answer)
    (k := .connect) rfl (exchange_answeredOnce answer rfl) (by decide)
  refine ⟨message, hfails, hvisible.2 fun text hgives => ?_⟩
  obtain rfl : "busy" = text := Option.some.inj (hgiven.symm.trans (gives_iff.1 hgives))
  exact Text.isBlank_eq_false_iff.1 (by decide)

/-- An answer that gives an empty result is rejected without a word. -/
theorem empty_result_is_not_visible :
    (answeredOnce ⟨500, "\x7b\"Result\":\"\"\x7d"⟩).connect.1 = .error (.backend "" (some 500)) ∧
      ¬ Text.Visible "" := by
  refine ⟨by decide +kernel, fun h => ?_⟩
  obtain ⟨c, hc, -⟩ := h
  exact absurd hc (List.not_mem_nil)

end Playground
end EtcdKit
