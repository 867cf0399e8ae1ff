import EtcdKit.Directory
import EtcdKit.Document
/-!
# Node — one member of a cluster
-/
namespace EtcdKit

inductive BootstrapState where
  | new
  | existing
  deriving DecidableEq, Repr, Inhabited

namespace BootstrapState

def text : BootstrapState → String
  | .new => "new"
  | .existing => "existing"

def ofText? (word : String) : Option BootstrapState :=
  if word = "new" then some .new else if word = "existing" then some .existing else none

theorem ofText?_text (s : BootstrapState) : ofText? s.text = some s := by cases s <;> decide

end BootstrapState

def scheme (secure : Bool) : String := if secure then "https" else "http"

structure Node where
  name : String
  dataDir : Option String := none
  certsDir : Option String := none
  address : String
  clientPort : UInt16
  peerPort : UInt16
  /-- Token that keeps clusters apart while they start. -/
  token : String := "tkn"
  state : BootstrapState := .new
  /-- The member list last computed for the node; it is never read from a profile. -/
  initialCluster : String := ""
  deriving DecidableEq, Repr

namespace Node

def dataPath (n : Node) : String := Directory.strip? n.dataDir

def certsPath (n : Node) : String := Directory.strip? n.certsDir

def clientEndpoint (n : Node) : String := n.address ++ ":" ++ toString n.clientPort.toNat

def peerEndpoint (n : Node) : String := n.address ++ ":" ++ toString n.peerPort.toNat

def clientUrl (secure : Bool) (n : Node) : String := scheme secure ++ "://" ++ n.clientEndpoint

def peerUrl (secure : Bool) (n : Node) : String := scheme secure ++ "://" ++ n.peerEndpoint

def certFile (n : Node) : String := n.name ++ ".pem"

def keyFile (n : Node) : String := n.name ++ "-key.pem"

end Node
end EtcdKit
