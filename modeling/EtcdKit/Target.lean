import EtcdKit.Guide
/-!
# Target — what can be rendered from a profile

A target names a text; those about one member name a node, or mean the first one.  Rendering fails
only if that node is missing.
-/
namespace EtcdKit

inductive InstallSource where
  | linux
  | mac
  | source
  deriving DecidableEq, Repr, Inhabited

inductive Target where
  | install (origin : InstallSource)
  | goToolchain
  | kubernetes
  | rkt
  | rktTrust
  | certificatePrograms
  | authority
  | authorityFiles
  | certificate (node : Option String)
  | certificateCopy (node : Option String)
  /-- The files of a node, or those of every member. -/
  | certificateFiles (node : Option String)
  | dataDir (node : Option String)
  | flags (node : Option String) (style : FlagStyle)
  | command (node : Option String) (style : FlagStyle)
  | initialCluster
  | endpoints (withScheme : Bool)
  | health (node : Option String) (containerized : Bool)
  | unit (node : Option String) (kind : UnitKind)
  | control (node : Option String) (kind : UnitKind)
  | operated
  | operatedHealth
  | guide (kind : UnitKind) (withOperator : Bool)
  deriving DecidableEq, Repr

namespace Target

def installText (p : Profile) : InstallSource → String
  | .linux => Install.linux p.cluster
  | .mac => Install.mac p.cluster
  | .source => Install.fromSource p.cluster p.source

/-- A script for the node of that name, or for the first node. -/
def forNode (p : Profile) (name : Option String) (script : Node → Script) : Except Error Script :=
  (p.cluster.nodeOrFirst name).map script

def textForNode (p : Profile) (name : Option String) (text : Node → String) :
    Except Error Script :=
  forNode p name fun n => .ofText (text n)

def script (p : Profile) : Target → Except Error Script
  | .install origin => .ok (.ofText (installText p origin))
  | .goToolchain => .ok (.ofText (Install.goToolchain p.go))
  | .kubernetes => .ok (.ofText (Install.kubernetes p.kubernetes))
  | .rkt => .ok (.ofText (Install.rkt p.rkt))
  | .rktTrust => .ok (.ofText (Install.trustImages p.rkt))
  | .certificatePrograms => .ok (.ofText (Install.certificatePrograms p.certificates))
  | .authority => .ok p.certificates.rootScript
  | .authorityFiles => .ok (.ofText p.certificates.rootListing)
  | .certificate node => forNode p node p.certificates.memberScript
  | .certificateCopy node => textForNode p node fun n => p.certificates.copyScript n.certsPath
  | .certificateFiles none => .ok (.ofText p.cluster.certificateListing)
  | .certificateFiles (some name) =>
    textForNode p (some name) fun n => certificateListing n.certsPath n.name
  | .dataDir node => textForNode p node Service.prepareData
  | .flags node style => textForNode p node fun n => Daemon.flagsText p.cluster n style
  | .command node style => textForNode p node fun n => Daemon.command p.cluster n style
  | .initialCluster => .ok (.ofText p.cluster.initialClusterText)
  | .endpoints true => .ok (.ofText p.cluster.clientUrlsText)
  | .endpoints false => .ok (.ofText p.cluster.clientEndpointsText)
  | .health node containerized =>
    textForNode p node fun n => Daemon.health p.cluster n containerized
  | .unit node kind => forNode p node (kind.unitScript p.cluster p.rkt)
  | .control node kind => textForNode p node fun n => Service.control (kind.serviceName n)
  | .operated => .ok (p.operator.script p.cluster)
  | .operatedHealth => .ok (.ofText (p.operator.healthCheck p.cluster))
  | .guide kind withOperator => .ok (Block.joined (Guide.steps p kind withOperator))

def render (p : Profile) (target : Target) : Except Error String :=
  (target.script p).map Script.text

end Target
end EtcdKit
