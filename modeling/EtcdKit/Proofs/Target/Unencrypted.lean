import EtcdKit.Proofs.Cluster.MappedNodes
import EtcdKit.Proofs.Target.Comparison
/-!
# Unencrypted — without encryption nothing is read that belongs to it

A cluster without encryption may still carry all that encryption needs: the settings of the
certificate authority, the name of the root certificate, and every node's directory of certificates.
`Profile.withoutCertificates` clears them.  The flags, the commands, the health checks, the service
files and the guide are the same before and after, so two profiles that differ in nothing else are
rendered alike (`unencrypted_profiles_render_alike`).

The drop-in for the service of the operating system is left out, because it names the directory of
certificates in any case.
-/
namespace EtcdKit

/-- The node without its directory of certificates. -/
def Node.withoutCertificates (n : Node) : Node := { n with certsDir := none }

/-- The cluster without the name of its root certificate and without directories of
certificates. -/
def Cluster.withoutCertificates (c : Cluster) : Cluster :=
  { c.mapNodes Node.withoutCertificates with rootPrefix := "" }

/-- The profile without anything that only encryption needs. -/
def Profile.withoutCertificates (p : Profile) : Profile :=
  { p with certificates := {}, cluster := p.cluster.withoutCertificates }

namespace Cluster

variable (c : Cluster)

theorem nodeOrFirst_withoutCertificates (name : Option String) :
    c.withoutCertificates.nodeOrFirst name =
      (c.nodeOrFirst name).map Node.withoutCertificates :=
  nodeOrFirst_mapNodes (g := Node.withoutCertificates) c (fun _ => rfl) name

theorem members_withoutCertificates :
    c.withoutCertificates.members = c.members.map Node.withoutCertificates :=
  members_mapNodes Node.withoutCertificates c

theorem memberCount_withoutCertificates : c.withoutCertificates.memberCount = c.memberCount :=
  memberCount_mapNodes Node.withoutCertificates c

theorem initialClusterText_withoutCertificates :
    c.withoutCertificates.initialClusterText = c.initialClusterText :=
  initialClusterText_mapNodes (g := Node.withoutCertificates) c fun _ => rfl

theorem clientEndpointsText_withoutCertificates :
    c.withoutCertificates.clientEndpointsText = c.clientEndpointsText :=
  clientEndpointsText_mapNodes (g := Node.withoutCertificates) c fun _ => rfl

end Cluster

/-! ## The parts that only encryption adds -/

theorem Daemon.encryptionFlags_of_not_secure {c : Cluster} (hc : c.secure = false) (n : Node)
    (dir : String) : encryptionFlags c n dir = [] :=
  if_neg (by rw [hc]; exact Bool.false_ne_true)

theorem Daemon.clientFlags_of_not_secure {c : Cluster} (hc : c.secure = false) (n : Node)
    (dir : String) : clientFlags c n dir = [] :=
  if_neg (by rw [hc]; exact Bool.false_ne_true)

theorem Guide.authoritySteps_of_not_secure {p : Profile} (hp : p.cluster.secure = false) :
    authoritySteps p = [] :=
  if_neg (by rw [hp]; exact Bool.false_ne_true)

theorem Guide.certificateSteps_of_not_secure {p : Profile} (hp : p.cluster.secure = false)
    (n : Node) : certificateSteps p n = [] :=
  if_neg (by rw [hp]; exact Bool.false_ne_true)

/-! ## One member -/

section Member

variable {c : Cluster} (hc : c.secure = false) (n : Node)
include hc

theorem Daemon.flagsText_unencrypted (s : FlagStyle) :
    flagsText c.withoutCertificates n.withoutCertificates s = flagsText c n s := by
  have hc' : c.withoutCertificates.secure = false := hc
  have hstart : clusterFlags c.withoutCertificates n.withoutCertificates = clusterFlags c n := by
    unfold clusterFlags
    rw [c.initialClusterText_withoutCertificates]
    rfl
  have hflags : flags c.withoutCertificates n.withoutCertificates s = flags c n s := by
    unfold flags
    rw [hstart, encryptionFlags_of_not_secure hc, encryptionFlags_of_not_secure hc']
    rfl
  unfold flagsText flagTexts
  rw [hflags]

theorem Daemon.command_unencrypted (s : FlagStyle) :
    command c.withoutCertificates n.withoutCertificates s = command c n s := by
  unfold command
  rw [flagsText_unencrypted hc]
  rfl

/-- A client names no file of certificates, whichever directory it would look into. -/
theorem Daemon.healthArguments_unencrypted (dir dir' : String) :
    healthArguments c.withoutCertificates n.withoutCertificates dir =
      healthArguments c n dir' := by
  have hc' : c.withoutCertificates.secure = false := hc
  unfold healthArguments
  rw [c.clientEndpointsText_withoutCertificates, clientFlags_of_not_secure hc,
    clientFlags_of_not_secure hc']

theorem Daemon.health_unencrypted (containerized : Bool) :
    health c.withoutCertificates n.withoutCertificates containerized =
      health c n containerized := by
  have hhost : hostHealth c.withoutCertificates n.withoutCertificates = hostHealth c n := by
    unfold hostHealth
    rw [healthArguments_unencrypted hc n _ n.certsPath]
    rfl
  have hcontainer :
      containerHealth c.withoutCertificates n.withoutCertificates = containerHealth c n := by
    unfold containerHealth
    rw [healthArguments_unencrypted hc n _ Container.certsDir]
    rfl
  unfold health
  rw [hhost, hcontainer]

/-- The launchers of the containers bind no directory of certificates. -/
theorem UnitKind.commandText_unencrypted (kind : UnitKind) (r : Rkt) :
    kind.commandText c.withoutCertificates r n.withoutCertificates = kind.commandText c r n := by
  have hc' : c.withoutCertificates.secure = false := hc
  have hflags := Daemon.flagsText_unencrypted hc n kind.flagStyle
  unfold commandText
  rw [hflags]
  cases kind with
  | systemd => exact Daemon.command_unencrypted hc n _
  | docker =>
    unfold dockerLauncher
    rw [hc, hc']
    rfl
  | rkt =>
    unfold rktLauncher
    rw [hc, hc']
    rfl
  | coreos => rfl

theorem UnitKind.unitScript_unencrypted {kind : UnitKind} (hkind : kind ≠ .coreos) (r : Rkt) :
    kind.unitScript c.withoutCertificates r n.withoutCertificates = kind.unitScript c r n := by
  have hcommand := UnitKind.commandText_unencrypted hc n kind r
  have hbody : kind.body c.withoutCertificates r n.withoutCertificates = kind.body c r n := by
    unfold body
    rw [hcommand]
    cases kind with
    | coreos => exact absurd rfl hkind
    | systemd | docker | rkt => rfl
  unfold unitScript
  rw [hbody]
  cases kind <;> rfl

end Member

/-! ## The guide -/

namespace Guide

variable {p : Profile} (hp : p.cluster.secure = false)

theorem operatorSteps_withoutCertificates (p : Profile) :
    operatorSteps p.withoutCertificates = operatorSteps p := by
  have hcount := p.cluster.memberCount_withoutCertificates
  have hversion : Operator.imageVersion p.cluster.withoutCertificates =
      Operator.imageVersion p.cluster := rfl
  have hscript : p.operator.script p.cluster.withoutCertificates =
      p.operator.script p.cluster := by
    unfold Operator.script Operator.resource
    rw [hcount, hversion]
  have hcheck : p.operator.healthCheck p.cluster.withoutCertificates =
      p.operator.healthCheck p.cluster := rfl
  unfold operatorSteps
  rw [show p.withoutCertificates.cluster = p.cluster.withoutCertificates from rfl,
    show p.withoutCertificates.operator = p.operator from rfl, hscript, hcheck]

include hp

theorem memberSteps_unencrypted {kind : UnitKind} (hkind : kind ≠ .coreos) (n : Node) :
    memberSteps p.withoutCertificates kind n.withoutCertificates = memberSteps p kind n := by
  have hp' : p.withoutCertificates.cluster.secure = false := hp
  have hname : n.withoutCertificates.name = n.name := rfl
  have hdata : Service.prepareData n.withoutCertificates = Service.prepareData n := rfl
  have hunit : kind.unitScript p.withoutCertificates.cluster p.withoutCertificates.rkt
      n.withoutCertificates = kind.unitScript p.cluster p.rkt n :=
    UnitKind.unitScript_unencrypted hp n hkind p.rkt
  have hservice : kind.serviceName n.withoutCertificates = kind.serviceName n := by
    cases kind <;> rfl
  unfold memberSteps
  rw [certificateSteps_of_not_secure hp, certificateSteps_of_not_secure hp', hname, hdata, hunit,
    hservice]

theorem steps_unencrypted {kind : UnitKind} (hkind : kind ≠ .coreos) (withOperator : Bool) :
    steps p.withoutCertificates kind withOperator = steps p kind withOperator := by
  have hp' : p.withoutCertificates.cluster.secure = false := hp
  have hinstall : installSteps p.withoutCertificates kind = installSteps p kind := rfl
  have hauthority : authoritySteps p.withoutCertificates = authoritySteps p := by
    rw [authoritySteps_of_not_secure hp, authoritySteps_of_not_secure hp']
  exact steps_congr p.cluster.members_withoutCertificates hinstall hauthority
    (memberSteps_unencrypted hp hkind) (fun n => Daemon.health_unencrypted hp n _)
    (operatorSteps_withoutCertificates p) withOperator

end Guide

namespace Target

/-- The targets that start, watch or describe the daemons of an unencrypted cluster. -/
def runsDaemon : Target → Bool
  | .flags .. | .command .. | .health .. => true
  | .unit _ kind | .guide kind _ => kind != .coreos
  | _ => false

/-- **Without encryption the certificates are not read**: clearing all that belongs to them changes
no flags, no command, no health check, no service file and no guide. -/
theorem render_withoutCertificates {p : Profile} (hp : p.cluster.secure = false) {t : Target}
    (ht : t.runsDaemon = true) : t.render p.withoutCertificates = t.render p := by
  have hnode := p.cluster.nodeOrFirst_withoutCertificates
  apply render_congr
  cases t
  case flags name style =>
    exact textForNode_congr (hnode name) fun n => Daemon.flagsText_unencrypted hp n style
  case command name style =>
    exact textForNode_congr (hnode name) fun n => Daemon.command_unencrypted hp n style
  case health name containerized =>
    exact textForNode_congr (hnode name) fun n => Daemon.health_unencrypted hp n containerized
  case unit name kind =>
    have hkind : kind ≠ .coreos := by simpa [runsDaemon] using ht
    exact forNode_congr (hnode name) fun n => UnitKind.unitScript_unencrypted hp n hkind p.rkt
  case guide kind withOperator =>
    have hkind : kind ≠ .coreos := by simpa [runsDaemon] using ht
    exact congrArg (fun bs => Except.ok (Block.joined bs))
      (Guide.steps_unencrypted hp hkind withOperator)
  all_goals cases ht

/-- **Unencrypted deployments hide their certificates.**  Two profiles that differ only in what
belongs to certificates, the settings of the authority, the name of the root certificate and the
directories of the nodes, have the same flags, commands and health checks for every node and in every
style, and the same service files and guides for every kind of service but the drop-in. -/
theorem unencrypted_profiles_render_alike (p q : Profile) (hp : p.cluster.secure = false)
    (hpq : p.withoutCertificates = q.withoutCertificates) :
    (∀ node style, (flags node style).render p = (flags node style).render q) ∧
    (∀ node style, (command node style).render p = (command node style).render q) ∧
    (∀ node containerized,
      (health node containerized).render p = (health node containerized).render q) ∧
    (∀ node kind, kind ∈ [UnitKind.systemd, .docker, .rkt] →
      (unit node kind).render p = (unit node kind).render q) ∧
    (∀ kind withOperator, kind ∈ [UnitKind.systemd, .docker, .rkt] →
      (guide kind withOperator).render p = (guide kind withOperator).render q) := by
  have hsecure := congrArg (fun r : Profile => r.cluster.secure) hpq
  have hq : q.cluster.secure = false := hsecure.symm.trans hp
  have halike {t : Target} (ht : t.runsDaemon = true) : t.render p = t.render q :=
    calc t.render p = t.render p.withoutCertificates := (render_withoutCertificates hp ht).symm
      _ = t.render q.withoutCertificates := by rw [hpq]
      _ = t.render q := render_withoutCertificates hq ht
  have hkinds : ∀ kind ∈ [UnitKind.systemd, .docker, .rkt], (kind != .coreos) = true := by decide
  exact ⟨fun _ _ => halike rfl, fun _ _ => halike rfl, fun _ _ => halike rfl,
    fun _ kind hkind => halike (hkinds kind hkind), fun kind _ hkind => halike (hkinds kind hkind)⟩

/-- The sample deployment without encryption. -/
def plainSample : Profile :=
  { Sample.profile with cluster := { Sample.cluster with secure := false } }

/-- The same, with certificates of its own set up and left unused. -/
def keyedSample : Profile :=
  { plainSample with
    certificates := { commonName := "own", certsDir := "/keys/", extraHosts := "a\nb" }
    cluster := { plainSample.cluster with
      rootPrefix := "own-root"
      nodes := Sample.nodes.map fun n => { n with certsDir := some ("/keys/" ++ n.name) } } }

theorem keyedSample_renders_alike :
    plainSample.cluster.secure = false ∧
      plainSample.withoutCertificates = keyedSample.withoutCertificates ∧
      plainSample ≠ keyedSample ∧
      (guide .docker true).render plainSample = (guide .docker true).render keyedSample ∧
      (health (some "s2") true).render plainSample =
        (health (some "s2") true).render keyedSample := by
  have hsecure : plainSample.cluster.secure = false := rfl
  have hsame : plainSample.withoutCertificates = keyedSample.withoutCertificates := rfl
  obtain ⟨-, -, hhealth, -, hguide⟩ :=
    unencrypted_profiles_render_alike plainSample keyedSample hsecure hsame
  exact ⟨hsecure, hsame, by decide, hguide .docker true (by decide), hhealth (some "s2") true⟩

end Target
end EtcdKit
