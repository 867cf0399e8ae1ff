import EtcdKit.Playground.Shell
/-!
# Prompting — the questions that an action asks, one after another

Each question ends with an answer, or the user cancels it, or it fails.  The questions of an action
are asked in a fixed order, and no more of them once one was not answered (`asks_request`): a
request comes out of it exactly if all of them were.  Asking only takes replies away.
-/
namespace EtcdKit.Playground

/-- A question of a round: the menu, and what the actions ask. -/
inductive Question where
  | menu
  | member (names : List String)
  | key
  | value
  | byPrefix

/-- How a question ends. -/
inductive Reaction where
  | answered
  | cancelled
  | failed (error : Error)

/-- How asking ended. -/
def Asked.reaction {α : Type} : Asked α → Reaction
  | .given _ => .answered
  | .cancelled => .cancelled
  | .failed e => .failed e

namespace Question

/-- Asks a question: how it ends, and the terminal after it. -/
def ask (q : Question) (t : Terminal) : Reaction × Terminal :=
  match q with
  | .menu =>
    let (asked, t) := Asking.select "Action" Choice.menu "Failed to select action: " t
    (asked.reaction, t)
  | .member names =>
    let (asked, t) := Asking.select "Member" names "Failed to select member: " t
    (asked.reaction, t)
  | .key => let (asked, t) := Asking.input "Key" false t; (asked.reaction, t)
  | .value => let (asked, t) := Asking.input "Value" true t; (asked.reaction, t)
  | .byPrefix => let (asked, t) := Asking.byPrefix t; (asked.reaction, t)

/-- Asks questions in order, up to the first that is not answered: how each of those asked ends,
and the terminal after them. -/
def askInTurn : List Question → Terminal → List Reaction × Terminal
  | [], t => ([], t)
  | q :: qs, t =>
    match q.ask t with
    | (.answered, t) => let (reactions, t) := askInTurn qs t; (.answered :: reactions, t)
    | (reaction, t) => ([reaction], t)

end Question

/-- The questions of an action, in their order. -/
def Action.questions (status : ServerStatus) : Action → List Question
  | .write => [.key, .value]
  | .stress => []
  | .get | .delete => [.key, .byPrefix]
  | .stopNode | .restartNode => [.member (status.members.map MemberStatus.name)]

/-- What reactions come to: the first that is no answer, or else an answer. -/
def Reaction.all : List Reaction → Reaction
  | [] => .answered
  | .answered :: reactions => all reactions
  | reaction :: _ => reaction

theorem Reaction.all_eq_answered_iff : ∀ reactions : List Reaction,
    all reactions = .answered ↔ ∀ r ∈ reactions, r = .answered
  | [] => by simp [all]
  | .answered :: reactions => by simp [all, all_eq_answered_iff reactions]
  | .cancelled :: reactions => by simp [all]
  | .failed e :: reactions => by simp [all]

namespace Asking

open Question (askInTurn)

variable {α β : Type}

/-- Asking asks the questions in turn. -/
def Asks (a : Asking α) (qs : List Question) : Prop :=
  ∀ t, (a t).1.reaction = Reaction.all (askInTurn qs t).1 ∧ (a t).2 = (askInTurn qs t).2

theorem asks_done (value : α) : Asks (done value) [] := fun _ => ⟨rfl, rfl⟩

/-- Asking that ends like a question asks it. -/
theorem asks_question {a : Asking α} {q : Question}
    (h : ∀ t, q.ask t = ((a t).1.reaction, (a t).2)) : Asks a [q] := by
  intro t
  rw [askInTurn, h t]
  cases ha : (a t).1 with
  | given value => exact ⟨rfl, rfl⟩
  | cancelled => exact ⟨rfl, rfl⟩
  | failed e => exact ⟨rfl, rfl⟩

theorem askInTurn_append (qs qs' : List Question) (t : Terminal) :
    Reaction.all (askInTurn (qs ++ qs') t).1 =
        (match Reaction.all (askInTurn qs t).1 with
        | .answered => Reaction.all (askInTurn qs' (askInTurn qs t).2).1
        | reaction => reaction) ∧
      (askInTurn (qs ++ qs') t).2 =
        (match Reaction.all (askInTurn qs t).1 with
        | .answered => (askInTurn qs' (askInTurn qs t).2).2
        | _ => (askInTurn qs t).2) := by
  induction qs generalizing t with
  | nil => exact ⟨rfl, rfl⟩
  | cons q qs ih =>
    rw [List.cons_append, askInTurn, askInTurn]
    obtain ⟨reaction, t'⟩ := q.ask t
    cases reaction with
    | answered => exact ih t'
    | cancelled => exact ⟨rfl, rfl⟩
    | failed e => exact ⟨rfl, rfl⟩

theorem Asks.andThen {a : Asking α} {next : α → Asking β} {qs qs' : List Question}
    (h : Asks a qs) (hnext : ∀ value, Asks (next value) qs') : Asks (a.andThen next) (qs ++ qs') := by
  intro t
  obtain ⟨hreaction, hterminal⟩ := h t
  obtain ⟨hall, hlast⟩ := askInTurn_append qs qs' t
  rw [hall, hlast, ← hreaction, ← hterminal, Asking.andThen]
  rcases a t with ⟨asked, t'⟩
  cases asked with
  | given value => exact hnext value t'
  | cancelled => exact ⟨rfl, rfl⟩
  | failed e => exact ⟨rfl, rfl⟩

theorem asks_member (status : ServerStatus) :
    Asks (member status) [.member (status.members.map MemberStatus.name)] := by
  have hselect : Asks (select "Member" (status.members.map MemberStatus.name)
      "Failed to select member: ") [.member (status.members.map MemberStatus.name)] :=
    asks_question fun _ => rfl
  exact hselect.andThen fun _ => asks_done _

/-- **An action asks its questions in turn.** -/
theorem asks_request (status : ServerStatus) (action : Action) :
    Asks (request status action) (action.questions status) := by
  have hkey : Asks (input "Key" false) [.key] := asks_question fun _ => rfl
  have hvalue : Asks (input "Value" true) [.value] := asks_question fun _ => rfl
  have hprefix : Asks byPrefix [.byPrefix] := asks_question fun _ => rfl
  have hfound : ∀ action : Action,
      Asks (((input "Key" false).andThen fun key => done (⟨key, ""⟩ : KeyValue)).andThen
        fun keyValue => byPrefix.andThen fun byPrefix => done { action, byPrefix, keyValue : Request })
        [.key, .byPrefix] := fun action =>
    (hkey.andThen fun _ => asks_done _).andThen fun _ => hprefix.andThen fun _ => asks_done _
  cases action with
  | write =>
    exact (hkey.andThen fun _ => hvalue.andThen fun _ => asks_done _).andThen fun _ => asks_done _
  | stress => exact fun _ => ⟨rfl, rfl⟩
  | get => exact hfound .get
  | delete => exact hfound .delete
  | stopNode => exact (asks_member status).andThen fun _ => asks_done _
  | restartNode => exact (asks_member status).andThen fun _ => asks_done _

/-! ## Questions that fail -/

theorem ofOptional_failed {α : Type} {failure : String} {answer : Except PromptFault (Option α)}
    {e : Error} (h : (ofOptional failure answer).reaction = .failed e) :
    ∃ words, e = .prompt words := by
  rcases answer with fault | (_ | value)
  · cases h
    exact ⟨_, rfl⟩
  · cases h
  · cases h

theorem ofInput_failed {failure : String} {answer : Except PromptFault String} {e : Error}
    (h : (ofInput failure answer).reaction = .failed e) : ∃ words, e = .prompt words := by
  rcases answer with fault | value
  · cases fault with
    | interrupted => cases h
    | broken reason => cases h; exact ⟨_, rfl⟩
    | noTerminal => cases h; exact ⟨_, rfl⟩
    | noItems => cases h; exact ⟨_, rfl⟩
  · cases h

theorem ask_failed {q : Question} {t : Terminal} {e : Error} (h : (q.ask t).1 = .failed e) :
    ∃ words, e = .prompt words := by
  cases q with
  | menu => exact ofOptional_failed h
  | member names => exact ofOptional_failed h
  | key => exact ofInput_failed h
  | value => exact ofInput_failed h
  | byPrefix => exact ofOptional_failed h

/-- **Questions fail with an error of their own.** -/
theorem askInTurn_failed : ∀ (qs : List Question) {t : Terminal} {e : Error},
    Reaction.all (askInTurn qs t).1 = .failed e → ∃ words, e = .prompt words
  | [], _, _, h => by cases h
  | q :: qs, t, e, h => by
    rw [askInTurn] at h
    rcases hq : q.ask t with ⟨reaction, t'⟩
    rw [hq] at h
    cases reaction with
    | answered => exact askInTurn_failed qs h
    | cancelled => cases h
    | failed e' =>
      cases h
      exact ask_failed (congrArg Prod.fst hq)

/-! ## Replies are only taken away -/

theorem length_replies_inputFrom (text : String) (allowsEmpty : Bool) :
    ∀ (replies : List Reply) (asked : List Prompt),
      (Terminal.inputFrom text allowsEmpty asked replies).2.replies.length ≤ replies.length
  | [], _ => Nat.le_refl 0
  | reply :: replies, asked => by
    have ih := length_replies_inputFrom text allowsEmpty replies
    cases reply with
    | words words | offered words =>
      rw [Terminal.inputFrom]
      split
      · exact Nat.le_succ_of_le (ih _)
      · exact Nat.le_succ _
    | item index => exact Nat.le_succ _
    | truth value => exact Nat.le_succ _
    | escape => exact Nat.le_succ _
    | interrupted => exact Nat.le_succ _
    | broken reason => exact Nat.le_succ _

/-- A menu takes one reply, unless it has no items or there is no reply. -/
theorem replies_select (t : Terminal) (text : String) (items : List String) (default : Nat) :
    (t.select text items default).2.replies.length ≤ t.replies.length := by
  unfold Terminal.select
  split
  · exact Nat.le_refl _
  · rename_i hr
    split
    · exact Nat.le_refl _
    · rw [hr]
      exact Nat.le_succ _

theorem replies_confirm (t : Terminal) (text : String) (default : Bool) :
    (t.confirm text default).2.replies.length ≤ t.replies.length := by
  unfold Terminal.confirm
  split
  · exact Nat.le_refl _
  · rename_i hr
    rw [hr]
    exact Nat.le_succ _

theorem replies_ask (q : Question) (t : Terminal) :
    (q.ask t).2.replies.length ≤ t.replies.length := by
  cases q with
  | menu => exact replies_select t "Action" Choice.menu 0
  | member names => exact replies_select t "Member" names 0
  | key => exact length_replies_inputFrom "Key" false t.replies t.asked
  | value => exact length_replies_inputFrom "Value" true t.replies t.asked
  | byPrefix => exact replies_confirm t "Match by prefix?" false

theorem replies_askInTurn : ∀ (qs : List Question) (t : Terminal),
    (askInTurn qs t).2.replies.length ≤ t.replies.length
  | [], _ => Nat.le_refl _
  | q :: qs, t => by
    have hask := replies_ask q t
    rw [askInTurn]
    rcases hq : q.ask t with ⟨reaction, t'⟩
    rw [hq] at hask
    cases reaction with
    | answered => exact Nat.le_trans (replies_askInTurn qs t') hask
    | cancelled => exact hask
    | failed e => exact hask

theorem replies_request (status : ServerStatus) (action : Action) (t : Terminal) :
    (request status action t).2.replies.length ≤ t.replies.length := by
  rw [(asks_request status action t).2]
  exact replies_askInTurn _ t

end Asking
end EtcdKit.Playground
