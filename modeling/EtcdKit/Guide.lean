import EtcdKit.Certificates.Script
import EtcdKit.Install.Tools
import EtcdKit.Profile.Basic
import EtcdKit.Script.Block
import EtcdKit.Service.Control
import EtcdKit.Service.Operated
import EtcdKit.Service.Unit
/-!
# Guide — all steps that bring up a cluster, in order

The programs are installed first, then the certificate authority is made, then every member is set
up, and at the end the health of the cluster is checked.  The members are those in which the member
list has been noted.
-/
namespace EtcdKit.Guide

def step (title content : String) : Block := ⟨title, .ofText content⟩

def installSteps (p : Profile) (kind : UnitKind) : List Block :=
  step "Install etcd" (Install.linux p.cluster) ::
    (if kind = .rkt then
      [step "Install rkt" (Install.rkt p.rkt),
        step "Trust etcd image signing key" (Install.trustImages p.rkt)]
    else [])

def authoritySteps (p : Profile) : List Block :=
  if p.cluster.secure then
    [step "Install cfssl" (Install.certificatePrograms p.certificates),
      ⟨"Generate root CA", p.certificates.rootScript⟩,
      step "Root CA files" p.certificates.rootListing]
  else []

def certificateSteps (p : Profile) (n : Node) : List Block :=
  if p.cluster.secure then
    [⟨"Generate certificate for " ++ n.name, p.certificates.memberScript n⟩,
      step ("Copy certificates to " ++ n.name) (p.certificates.copyScript n.certsPath)]
  else []

def memberSteps (p : Profile) (kind : UnitKind) (n : Node) : List Block :=
  certificateSteps p n ++
  [step ("Prepare data directory for " ++ n.name) (Service.prepareData n),
    ⟨kind.text ++ " unit for " ++ n.name, kind.unitScript p.cluster p.rkt n⟩,
    step ("Start " ++ n.name) (Service.control (kind.serviceName n))]

/-- The step that checks the health of the cluster, in the name of its first member. -/
def healthSteps (p : Profile) (kind : UnitKind) (members : List Node) : List Block :=
  match members with
  | [] => []
  | first :: _ =>
    [step "Check endpoint health" (Daemon.health p.cluster first kind.isContainerized)]

def operatorSteps (p : Profile) : List Block :=
  [⟨"etcd-operator cluster", p.operator.script p.cluster⟩,
    step "Check etcd-operator cluster health" (p.operator.healthCheck p.cluster)]

def steps (p : Profile) (kind : UnitKind) (withOperator : Bool) : List Block :=
  let members := p.cluster.notedMembers
  installSteps p kind ++ authoritySteps p ++ members.flatMap (memberSteps p kind) ++
    healthSteps p kind members ++ (if withOperator then operatorSteps p else [])

end EtcdKit.Guide
