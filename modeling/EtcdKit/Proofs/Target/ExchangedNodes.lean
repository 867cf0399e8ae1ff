import EtcdKit.Proofs.Cluster.MappedNodes
import EtcdKit.Proofs.Profile.Records
import EtcdKit.Proofs.Target.Comparison
import EtcdKit.Proofs.Target.Failure
/-!
# ExchangedNodes — what is written after the nodes were exchanged

`Cluster.withNodes` exchanges the nodes of a cluster and its size.  What is written depends on the
members, on the side of the limit that the size is on, and on no note in a node.  So if the members
are the former ones, at most with other notes (`Cluster.Corresponds`), every target is as before once
its node is found as before (`Target.script_of_corresponds`).
-/
namespace EtcdKit

/-- The cluster with other nodes and another size. -/
def Cluster.withNodes (c : Cluster) (nodes : List Node) (size : UInt32) : Cluster :=
  { c with nodes, size }

/-- The profile with other nodes and another size. -/
def Profile.withNodes (p : Profile) (nodes : List Node) (size : UInt32) : Profile :=
  { p with cluster := p.cluster.withNodes nodes size }

/-- The change of a node changes nothing but what is noted in it. -/
def Node.OnlyNotes (g : Node → Node) : Prop := ∀ n, (g n).unnoted = n.unnoted

/-- What is written without a look at the note stays the same. -/
theorem Node.OnlyNotes.apply {α : Type} {g : Node → Node} (hg : OnlyNotes g) {f : Node → α}
    (hf : ∀ n, f n.unnoted = f n) (n : Node) : f (g n) = f n := by
  rw [← hf (g n), hg n, hf n]

namespace Cluster

/-- The members after the exchange are the former ones, at most with other notes, and the size is on
the same side of the limit. -/
structure Corresponds (c : Cluster) (nodes : List Node) (size : UInt32) (g : Node → Node) :
    Prop where
  onlyNotes : Node.OnlyNotes g
  members : (c.withNodes nodes size).members = c.members.map g
  oversize : (c.withNodes nodes size).oversize = c.oversize

namespace Corresponds

variable {c : Cluster} {nodes : List Node} {size : UInt32} {g : Node → Node}
  (h : c.Corresponds nodes size g)
include h

theorem map_members {α : Type} {f : Node → α} (hf : ∀ n, f n.unnoted = f n) :
    (c.withNodes nodes size).members.map f = c.members.map f := by
  rw [h.members, List.map_map]
  exact List.map_congr_left fun n _ => h.onlyNotes.apply hf n

theorem memberCount : (c.withNodes nodes size).memberCount = c.memberCount := by
  rw [← length_members, ← length_members, h.members, List.length_map]

theorem initialClusterText : (c.withNodes nodes size).initialClusterText = c.initialClusterText := by
  have hentry : (c.withNodes nodes size).memberEntry = c.memberEntry := rfl
  unfold Cluster.initialClusterText
  rw [hentry, h.map_members fun _ => rfl, h.oversize]

theorem clientEndpointsText :
    (c.withNodes nodes size).clientEndpointsText = c.clientEndpointsText := by
  unfold Cluster.clientEndpointsText clientEndpoints
  rw [h.map_members fun _ => rfl]

theorem clientUrlsText : (c.withNodes nodes size).clientUrlsText = c.clientUrlsText := by
  have hsecure : (c.withNodes nodes size).secure = c.secure := rfl
  unfold Cluster.clientUrlsText clientUrls
  rw [hsecure, h.map_members fun _ => rfl]

theorem certificateListing :
    (c.withNodes nodes size).certificateListing = c.certificateListing := by
  unfold Cluster.certificateListing
  rw [h.map_members fun _ => rfl]

theorem flagsText (n : Node) (s : FlagStyle) :
    Daemon.flagsText (c.withNodes nodes size) n s = Daemon.flagsText c n s := by
  have hstart : Daemon.clusterFlags (c.withNodes nodes size) n = Daemon.clusterFlags c n := by
    unfold Daemon.clusterFlags
    rw [h.initialClusterText]
  unfold Daemon.flagsText Daemon.flagTexts Daemon.flags
  rw [hstart]
  rfl

theorem command (n : Node) (s : FlagStyle) :
    Daemon.command (c.withNodes nodes size) n s = Daemon.command c n s := by
  unfold Daemon.command
  rw [h.flagsText]
  rfl

theorem health (n : Node) (containerized : Bool) :
    Daemon.health (c.withNodes nodes size) n containerized = Daemon.health c n containerized := by
  have harguments (dir : String) : Daemon.healthArguments (c.withNodes nodes size) n dir =
      Daemon.healthArguments c n dir := by
    unfold Daemon.healthArguments
    rw [h.clientEndpointsText]
    rfl
  unfold Daemon.health Daemon.hostHealth Daemon.containerHealth
  rw [harguments, harguments]
  rfl

theorem unitScript (kind : UnitKind) (r : Rkt) (n : Node) :
    kind.unitScript (c.withNodes nodes size) r n = kind.unitScript c r n := by
  have hcommand : kind.commandText (c.withNodes nodes size) r n = kind.commandText c r n := by
    unfold UnitKind.commandText
    rw [h.flagsText, h.command]
    rfl
  have hbody : kind.body (c.withNodes nodes size) r n = kind.body c r n := by
    unfold UnitKind.body
    rw [hcommand]
    rfl
  unfold UnitKind.unitScript
  rw [hbody]

theorem operatorScript (o : Operator) : o.script (c.withNodes nodes size) = o.script c := by
  have hversion : Operator.imageVersion (c.withNodes nodes size) = Operator.imageVersion c := rfl
  unfold Operator.script Operator.resource
  rw [h.memberCount, hversion]

end Corresponds
end Cluster

section Rendering

variable {p : Profile} {nodes : List Node} {size : UInt32} {g : Node → Node}
  (h : p.cluster.Corresponds nodes size g)
include h

theorem Guide.steps_of_corresponds (kind : UnitKind) (withOperator : Bool) :
    steps (p.withNodes nodes size) kind withOperator = steps p kind withOperator := by
  have hmember (n : Node) :
      memberSteps (p.withNodes nodes size) kind (g n) = memberSteps p kind n := by
    have hunit : kind.unitScript (p.withNodes nodes size).cluster (p.withNodes nodes size).rkt n =
        kind.unitScript p.cluster p.rkt n := h.unitScript kind p.rkt n
    have hnote (n : Node) := memberSteps_noted (p.withNodes nodes size) kind n ""
    rw [h.onlyNotes.apply hnote]
    unfold memberSteps
    rw [hunit]
    rfl
  have hhealth (n : Node) :
      Daemon.health (p.withNodes nodes size).cluster (g n) kind.isContainerized =
        Daemon.health p.cluster n kind.isContainerized := by
    rw [h.onlyNotes.apply
      (f := fun n => Daemon.health (p.withNodes nodes size).cluster n _) fun _ => rfl]
    exact h.health n _
  have hoperator : operatorSteps (p.withNodes nodes size) = operatorSteps p := by
    have hscript : (p.withNodes nodes size).operator.script (p.withNodes nodes size).cluster =
        p.operator.script p.cluster := h.operatorScript p.operator
    unfold operatorSteps
    rw [hscript]
    rfl
  have hmembers : (p.withNodes nodes size).cluster.members = p.cluster.members.map g := h.members
  exact steps_congr hmembers rfl rfl hmember hhealth hoperator withOperator

namespace Target

variable {name : Option String}
  (hfound : (p.withNodes nodes size).cluster.nodeOrFirst name =
    (p.cluster.nodeOrFirst name).map g)
include hfound

theorem forNode_of_corresponds {script script' : Node → Script}
    (hnote : ∀ n, script' n.unnoted = script' n) (hscript : ∀ n, script' n = script n) :
    forNode (p.withNodes nodes size) name script' = forNode p name script :=
  forNode_congr hfound fun n => (h.onlyNotes.apply hnote n).trans (hscript n)

theorem textForNode_of_corresponds {text text' : Node → String}
    (hnote : ∀ n, text' n.unnoted = text' n) (htext : ∀ n, text' n = text n) :
    textForNode (p.withNodes nodes size) name text' = textForNode p name text :=
  textForNode_congr hfound fun n => (h.onlyNotes.apply hnote n).trans (htext n)

omit hfound

/-- **A target is as before the exchange** if the members are, but for their notes, and if its node
is found as before. -/
theorem script_of_corresponds {t : Target}
    (hnode : (p.cluster.withNodes nodes size).nodeOrFirst t.nodeName? =
      (p.cluster.nodeOrFirst t.nodeName?).map g) :
    t.script (p.withNodes nodes size) = t.script p := by
  have htext {a b : String} (hab : a = b) :
      (Except.ok (Script.ofText a) : Except Error Script) = .ok (.ofText b) := by rw [hab]
  cases t
  case flags name style =>
    exact textForNode_of_corresponds h hnode (fun _ => rfl) fun n => h.flagsText n style
  case command name style =>
    exact textForNode_of_corresponds h hnode (fun _ => rfl) fun n => h.command n style
  case health name containerized =>
    exact textForNode_of_corresponds h hnode (fun _ => rfl) fun n => h.health n containerized
  case unit name kind =>
    exact forNode_of_corresponds h hnode (fun _ => rfl) fun n => h.unitScript kind p.rkt n
  case certificate | certificateCopy | dataDir | control =>
    exact forNode_of_corresponds h hnode (fun _ => rfl) fun _ => rfl
  case certificateFiles name =>
    cases name with
    | none => exact htext h.certificateListing
    | some name => exact forNode_of_corresponds h hnode (fun _ => rfl) fun _ => rfl
  case initialCluster => exact htext h.initialClusterText
  case endpoints withScheme =>
    cases withScheme with
    | true => exact htext h.clientUrlsText
    | false => exact htext h.clientEndpointsText
  case operated => exact congrArg Except.ok (h.operatorScript p.operator)
  case guide kind withOperator =>
    have hsteps := Guide.steps_of_corresponds h kind withOperator
    exact congrArg (fun bs => Except.ok (Block.joined bs)) hsteps
  -- the other targets read nothing of the nodes
  case install origin => cases origin <;> rfl
  all_goals rfl

end Target
end Rendering
end EtcdKit
