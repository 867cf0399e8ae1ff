import EtcdKit.Error
import EtcdKit.Playground.Request
import EtcdKit.Playground.Status
import EtcdKit.Playground.Terminal
/-!
# Questions — asking the user for a request

Which questions are asked depends on the action.  Leaving a question leaves the whole request.
-/
namespace EtcdKit.Playground

inductive Asked (α : Type) where
  | given (value : α)
  | cancelled
  | failed (error : Error)

/-- Questions that end with a value. -/
abbrev Asking (α : Type) := Terminal → Asked α × Terminal

namespace Asking

variable {α β : Type}

def done (value : α) : Asking α := fun t => (.given value, t)

def andThen (first : Asking α) (next : α → Asking β) : Asking β := fun t =>
  match first t with
  | (.given value, t) => next value t
  | (.cancelled, t) => (.cancelled, t)
  | (.failed e, t) => (.failed e, t)

/-- The end of a question that may be left. -/
def ofOptional (failure : String) : Except PromptFault (Option α) → Asked α
  | .ok (some value) => .given value
  | .ok none => .cancelled
  | .error fault => .failed (.prompt (failure ++ fault.text))

/-- The end of a question for a text, which an interruption leaves. -/
def ofInput (failure : String) : Except PromptFault String → Asked String
  | .ok value => .given value
  | .error .interrupted => .cancelled
  | .error fault => .failed (.prompt (failure ++ fault.text))

def select (text : String) (items : List String) (failure : String) : Asking Nat := fun t =>
  let (answer, t) := t.select text items 0
  (ofOptional failure answer, t)

def input (text : String) (allowsEmpty : Bool) : Asking String := fun t =>
  let (answer, t) := t.input text allowsEmpty
  (ofInput ("Failed to read " ++ text ++ ": ") answer, t)

def byPrefix : Asking Bool := fun t =>
  let (answer, t) := t.confirm "Match by prefix?" false
  (ofOptional "Failed to read prefix choice: " answer, t)

/-- Asks for a member, and gives its endpoint. -/
def member (status : ServerStatus) : Asking String :=
  let names := status.members.map MemberStatus.name
  (select "Member" names "Failed to select member: ").andThen fun index =>
    done (status.endpointOf (names.getD index ""))

def keyValue (action : Action) : Asking KeyValue :=
  if action.needsKey then
    (input "Key" false).andThen fun key =>
      if action = .write then (input "Value" true).andThen fun value => done ⟨key, value⟩
      else done ⟨key, ""⟩
  else done {}

def request (status : ServerStatus) (action : Action) : Asking Request :=
  if action.isForMember then
    (member status).andThen fun endpoint => done { action, endpoints := [endpoint] }
  else
    (keyValue action).andThen fun keyValue =>
      if action.takesPrefix then
        byPrefix.andThen fun byPrefix => done { action, byPrefix, keyValue }
      else done { action, keyValue }

end Asking
end EtcdKit.Playground
