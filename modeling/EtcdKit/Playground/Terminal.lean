/-!
# Terminal — questions to the user, with prepared replies

Each question takes the next reply and is noted.  A question fails if no reply is left.
-/
namespace EtcdKit.Playground

inductive Prompt where
  | select (text : String) (items : List String) (default : Nat)
  | confirm (text : String) (default : Bool)
  | input (text : String) (allowsEmpty : Bool)
  deriving DecidableEq, Repr

inductive Reply where
  | item (index : Nat)
  | words (text : String)
  /-- Takes what a menu or a yes-or-no question offers; where nothing is offered, types these
  words. -/
  | offered (otherwise : String)
  | truth (value : Bool)
  | escape
  | interrupted
  | broken (reason : String)
  deriving DecidableEq, Repr

inductive PromptFault where
  | interrupted
  | broken (reason : String)
  | noTerminal
  | noItems
  deriving DecidableEq, Repr

def PromptFault.text (fault : PromptFault) : String :=
  "IO error: " ++
  match fault with
  | .interrupted => "read interrupted"
  | .broken reason => reason
  | .noTerminal => "not a terminal"
  | .noItems => "Empty list of items given to \x60Select\x60"

structure Terminal where
  replies : List Reply := []
  asked : List Prompt := []
  deriving DecidableEq, Repr

namespace Terminal

/-- The place that a reply picks in a menu; none if the user leaves it. -/
def picked (items : List String) (default : Nat) : Reply → Except PromptFault (Option Nat)
  | .item index => if index < items.length then .ok (some index) else .error .noTerminal
  | .words text =>
    match items.idxOf? text with
    | some index => .ok (some index)
    | none => .error .noTerminal
  | .offered _ => .ok (some default)
  | .escape => .ok none
  | .interrupted => .error .interrupted
  | .broken reason => .error (.broken reason)
  | .truth _ => .error .noTerminal

def select (t : Terminal) (text : String) (items : List String) (default : Nat) :
    Except PromptFault (Option Nat) × Terminal :=
  match t.replies with
  | [] => (.error .noTerminal, t)
  | reply :: rest =>
    if items.isEmpty then (.error .noItems, t)
    else (picked items default reply, ⟨rest, t.asked ++ [.select text items default]⟩)

def confirmed (default : Bool) : Reply → Except PromptFault (Option Bool)
  | .truth value => .ok (some value)
  | .offered _ => .ok (some default)
  | .escape => .ok none
  | .interrupted => .error .interrupted
  | .broken reason => .error (.broken reason)
  | .item _ | .words _ => .error .noTerminal

def confirm (t : Terminal) (text : String) (default : Bool) :
    Except PromptFault (Option Bool) × Terminal :=
  match t.replies with
  | [] => (.error .noTerminal, t)
  | reply :: rest => (confirmed default reply, ⟨rest, t.asked ++ [.confirm text default]⟩)

/-- Asks for a text until a reply is one, with the questions that were asked before. -/
def inputFrom (text : String) (allowsEmpty : Bool) :
    List Prompt → List Reply → Except PromptFault String × Terminal
  | asked, [] => (.error .noTerminal, ⟨[], asked⟩)
  | asked, reply :: rest =>
    let asked := asked ++ [.input text allowsEmpty]
    match reply with
    | .words words | .offered words =>
      if words = "" ∧ !allowsEmpty then inputFrom text allowsEmpty asked rest
      else (.ok words, ⟨rest, asked⟩)
    | .interrupted => (.error .interrupted, ⟨rest, asked⟩)
    | .broken reason => (.error (.broken reason), ⟨rest, asked⟩)
    | _ => (.error .noTerminal, ⟨rest, asked⟩)

/-- Asks for a text; an empty one is asked for again unless it is allowed. -/
def input (t : Terminal) (text : String) (allowsEmpty : Bool) :
    Except PromptFault String × Terminal :=
  inputFrom text allowsEmpty t.asked t.replies

end Terminal
end EtcdKit.Playground
