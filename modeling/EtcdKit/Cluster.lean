import EtcdKit.Bounds
import EtcdKit.Error
import EtcdKit.Node
import EtcdKit.Text.Blank
/-!
# Cluster — the members of a cluster and what is derived from them

A cluster declares its size and lists its nodes.  The members are the first nodes, as many as the
declared size allows; a size above seven is not supported, and a note stands in place of the member
list.
-/
namespace EtcdKit

structure Cluster where
  version : String := "v3.1.0"
  execDir : String := "/tmp/test-etcd"
  secure : Bool := true
  enableProfile : Bool := false
  debug : Bool := false
  /-- Hours of history that automatic compaction keeps; zero turns it off. -/
  compactionRetention : UInt32 := 0
  size : UInt32 := 3
  /-- File name of the root certificate, without its ending. -/
  rootPrefix : String := "etcd-root-ca"
  nodes : List Node
  deriving DecidableEq, Repr

namespace Cluster

/-- What stands in place of the member list of a cluster that is too large. -/
def oversizeNote : String := "(error: cluster size over 7 is not supported)"

def oversize (c : Cluster) : Bool := Bounds.clusterSize.upper < c.size.toNat

def requiredMembers (c : Cluster) : Nat := Bounds.clusterSize.clamp c.size.toNat

def memberCount (c : Cluster) : Nat := min c.requiredMembers c.nodes.length

def members (c : Cluster) : List Node := c.nodes.take c.memberCount

def rootFile (c : Cluster) : String := c.rootPrefix ++ ".pem"

/-- A member in the member list: its name and its address for other members. -/
def memberEntry (c : Cluster) (n : Node) : String := n.name ++ "=" ++ n.peerUrl c.secure

def initialClusterText (c : Cluster) : String :=
  if c.oversize then oversizeNote else String.intercalate "," (c.members.map c.memberEntry)

/-- The member list, and the nodes with the list noted in each; the nodes of a cluster that is too
large stay as they are. -/
def withInitialCluster (c : Cluster) : String × List Node :=
  let text := c.initialClusterText
  if c.oversize then (text, c.nodes)
  else (text, c.nodes.map fun n => { n with initialCluster := text })

/-- The members, with the member list noted in each as `withInitialCluster` notes it. -/
def notedMembers (c : Cluster) : List Node := c.withInitialCluster.2.take c.memberCount

def nodeNames (c : Cluster) : List String := c.nodes.map (·.name)

/-- The first node of that name. -/
def node (c : Cluster) (name : String) : Except Error Node :=
  match c.nodes.find? (fun n => n.name == name) with
  | some n => .ok n
  | none => .error (.nodeNotFound name c.nodeNames)

/-- The node of that name, or the first node if no name is given. -/
def nodeOrFirst (c : Cluster) : Option String → Except Error Node
  | some name => c.node name
  | none =>
    match c.nodes with
    | [] => .error (.invalidProfile .noNodes)
    | n :: _ => .ok n

def clientEndpoints (c : Cluster) : List String := c.members.map Node.clientEndpoint

def clientUrls (c : Cluster) : List String := c.members.map (Node.clientUrl c.secure)

def clientEndpointsText (c : Cluster) : String := String.intercalate "," c.clientEndpoints

def clientUrlsText (c : Cluster) : String := String.intercalate "," c.clientUrls

/-- The first fault of a list of nodes, with the names that stand before it: a blank name, or one
that has been used. -/
def nameFault? : List String → List Node → Option ProfileFault
  | _, [] => none
  | seen, n :: ns =>
    if Text.isBlank n.name then some .blankNodeName
    else if seen.contains n.name then some (.repeatedNodeName n.name)
    else nameFault? (n.name :: seen) ns

/-- The first fault of a cluster: of its node names, then of their number. -/
def fault? (c : Cluster) : Option ProfileFault :=
  match nameFault? [] c.nodes with
  | some fault => some fault
  | none =>
    if c.oversize then none
    else if c.nodes.length < c.requiredMembers then
      some (.tooFewNodes c.size.toNat c.requiredMembers c.nodes.length)
    else none

end Cluster
end EtcdKit
