/-!
# Status — what the playground says about its members
-/
namespace EtcdKit.Playground

structure Connection where
  webPort : UInt16 := 0
  user : String := ""
  /-- A session that was open before has been closed. -/
  deleted : Bool := false
  deriving DecidableEq, Repr

structure MemberStatus where
  name : String
  id : String := ""
  endpoint : String := ""
  isLeader : Bool := false
  state : String := ""
  stateText : String := ""
  size : UInt64 := 0
  sizeText : String := ""
  hash : Int64 := 0
  deriving DecidableEq, Repr

/-- The word for an identity or an endpoint that a member does not have. -/
def noneWord : String := "None"

def MemberStatus.stopped (name : String) : MemberStatus where
  name := name
  id := noneWord
  endpoint := noneWord
  state := "Stopped"
  stateText := name ++ " has not started..."
  sizeText := "0 B"

def MemberStatus.hasEndpoint (m : MemberStatus) : Bool :=
  m.endpoint != "" && m.endpoint != noneWord

structure ServerStatus where
  active : Bool := true
  uptime : String := ""
  userCount : UInt64 := 0
  users : List String := []
  members : List MemberStatus := []
  deriving DecidableEq, Repr

namespace ServerStatus

def memberNames : List String := ["node1", "node2", "node3", "node4", "node5"]

/-- The status before the playground has said anything. -/
def initial : ServerStatus where
  active := false
  uptime := "0s"
  members := memberNames.map MemberStatus.stopped

def leader? (s : ServerStatus) : Option MemberStatus := s.members.find? MemberStatus.isLeader

def leaderName? (s : ServerStatus) : Option String := s.leader?.map MemberStatus.name

/-- The endpoints of the members that have one. -/
def endpoints (s : ServerStatus) : List String :=
  (s.members.filter MemberStatus.hasEndpoint).map MemberStatus.endpoint

/-- The endpoint of the first member of that name; a text that names no member is an endpoint
itself. -/
def endpointOf (s : ServerStatus) (target : String) : String :=
  match s.members.find? (fun m => m.name == target) with
  | some m => m.endpoint
  | none => target

end ServerStatus
end EtcdKit.Playground
