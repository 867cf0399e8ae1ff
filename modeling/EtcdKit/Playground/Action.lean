import EtcdKit.Error
/-!
# Action — what a client can ask the playground cluster to do
-/
namespace EtcdKit.Playground

inductive Action where
  | write
  | stress
  | get
  | delete
  | stopNode
  | restartNode
  deriving DecidableEq, Repr, Inhabited

namespace Action

def all : List Action := [.write, .stress, .get, .delete, .stopNode, .restartNode]

def text : Action → String
  | .write => "write"
  | .stress => "stress"
  | .get => "get"
  | .delete => "delete"
  | .stopNode => "stop-node"
  | .restartNode => "restart-node"

def capitals (a : Action) : String := String.ofList (a.text.toList.map Char.toUpper)

def ofText? (word : String) : Option Action := all.find? (fun a => a.text == word)

def ofText (word : String) : Except Error Action :=
  match ofText? word with
  | some a => .ok a
  | none => .error (.configuration (.unknownAction word))

theorem ofText?_text (a : Action) : ofText? a.text = some a := by cases a <;> rfl

def needsKey : Action → Bool
  | .write | .get | .delete => true
  | _ => false

/-- The key of the action may be taken as the front of many keys. -/
def takesPrefix : Action → Bool
  | .get | .delete => true
  | _ => false

def isForMember : Action → Bool
  | .stopNode | .restartNode => true
  | _ => false

end Action
end EtcdKit.Playground
