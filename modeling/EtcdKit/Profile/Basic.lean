import EtcdKit.Certificates
import EtcdKit.Cluster
import EtcdKit.Tools
import EtcdKit.Url.Parser
/-!
# Basic — the profile of a deployment

A profile gathers all settings that text is rendered from.  What a profile leaves out has the value
of the sample deployment on the local host.
-/
namespace EtcdKit

structure PlaygroundSettings where
  endpoint : Url
  timeoutSeconds : UInt64
  deriving DecidableEq, Repr

structure Profile where
  cluster : Cluster
  certificates : CertificateAuthority := {}
  go : GoToolchain := {}
  source : SourceBuild := {}
  rkt : Rkt := {}
  kubernetes : Kubernetes := {}
  operator : Operator := {}
  playground : PlaygroundSettings
  deriving DecidableEq, Repr

namespace Sample

def daemonVersion : String := "v3.1.0"

def flagHelp : String := "https://github.com/coreos/etcd/blob/master/etcdmain/help.go"

def node (name : String) (clientPort peerPort : UInt16) : Node where
  name := name
  dataDir := some ("/tmp/etcd/" ++ name)
  certsDir := some "$\x7bHOME\x7d/certs"
  address := "localhost"
  clientPort := clientPort
  peerPort := peerPort

def nodes : List Node :=
  [node "s1" 2379 2380, node "s2" 22379 22380, node "s3" 32379 32380, node "s4" 4379 4380,
    node "s5" 5379 5380, node "s6" 6379 6380, node "s7" 7379 7380]

/-- The sample cluster: three of the seven members. -/
def cluster : Cluster := { version := daemonVersion, nodes }

def endpoint : Url where
  scheme := "http"
  authority := some { host := .name "localhost", port := some 2200 }
  path := .segments [""]

def playground : PlaygroundSettings := ⟨endpoint, 10⟩

def profile : Profile := { cluster, playground }

end Sample

namespace PlaygroundSettings

def fault? (p : PlaygroundSettings) : Option ProfileFault :=
  if p.timeoutSeconds = 0 then some .zeroTimeout
  else if p.endpoint.canBeBase then none
  else some (.endpointNotBase p.endpoint.text)

end PlaygroundSettings

namespace Profile

/-- The first fault of a profile: of its cluster, then of its playground. -/
def fault? (p : Profile) : Option ProfileFault :=
  match p.cluster.fault? with
  | some fault => some fault
  | none => p.playground.fault?

def validate (p : Profile) : Except Error Unit :=
  match p.fault? with
  | some fault => .error (.invalidProfile fault)
  | none => .ok ()

end Profile
end EtcdKit
