import EtcdKit.Error
import EtcdKit.Node
/-!
# Kind — the ways to run the daemon as a system service
-/
namespace EtcdKit

inductive UnitKind where
  | systemd
  | docker
  | rkt
  /-- An addition to the service that the operating system brings along. -/
  | coreos
  deriving DecidableEq, Repr, Inhabited

namespace UnitKind

def all : List UnitKind := [.systemd, .docker, .rkt, .coreos]

def text : UnitKind → String
  | .systemd => "systemd"
  | .docker => "docker"
  | .rkt => "rkt"
  | .coreos => "coreos"

def ofText (word : String) : Except Error UnitKind :=
  match all.find? (fun kind => kind.text == word) with
  | some kind => .ok kind
  | none => .error (.configuration (.unknownUnitKind word))

theorem ofText_text (kind : UnitKind) : ofText kind.text = .ok kind := by cases kind <;> rfl

def bundledService : String := "etcd-member"

def serviceName (kind : UnitKind) (n : Node) : String :=
  match kind with
  | .coreos => bundledService
  | _ => n.name

/-- The daemon sees the directories of its container. -/
def isContainerized (kind : UnitKind) : Bool := kind == .docker

end UnitKind
end EtcdKit
