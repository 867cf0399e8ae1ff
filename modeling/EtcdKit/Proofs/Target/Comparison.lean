import EtcdKit.Proofs.Guide.Targets
/-!
# Comparison — what two profiles render alike

Two profiles are compared node by node: a function tells which node of the second profile stands for
a node of the first.  A text for one node is the same if the look-up leads to corresponding nodes
(`Target.forNode_congr`), and a guide is the same if its steps are, member by member
(`Guide.steps_congr`).
-/
namespace EtcdKit

variable {p q : Profile} {g : Node → Node}

theorem Target.forNode_congr {name : Option String} {script script' : Node → Script}
    (hnode : q.cluster.nodeOrFirst name = (p.cluster.nodeOrFirst name).map g)
    (hscript : ∀ n, script' (g n) = script n) :
    Target.forNode q name script' = Target.forNode p name script := by
  unfold Target.forNode
  rw [hnode]
  cases p.cluster.nodeOrFirst name with
  | error e => rfl
  | ok n => exact congrArg Except.ok (hscript n)

theorem Target.textForNode_congr {name : Option String} {text text' : Node → String}
    (hnode : q.cluster.nodeOrFirst name = (p.cluster.nodeOrFirst name).map g)
    (htext : ∀ n, text' (g n) = text n) :
    Target.textForNode q name text' = Target.textForNode p name text :=
  forNode_congr hnode fun n => congrArg Script.ofText (htext n)

theorem Target.render_congr {t : Target} (h : t.script q = t.script p) :
    t.render q = t.render p := by
  unfold Target.render
  rw [h]

namespace Guide

/-- The steps go through the members as they are declared. -/
theorem steps_eq_members (p : Profile) (kind : UnitKind) (withOperator : Bool) :
    steps p kind withOperator =
      installSteps p kind ++ authoritySteps p ++ p.cluster.members.flatMap (memberSteps p kind) ++
        healthSteps p kind p.cluster.members ++ (if withOperator then operatorSteps p else []) := by
  rw [steps, p.cluster.flatMap_notedMembers _ (memberSteps_noted p kind), healthSteps_notedMembers]

theorem healthSteps_congr {kind : UnitKind}
    (hhealth : ∀ n, Daemon.health q.cluster (g n) kind.isContainerized =
      Daemon.health p.cluster n kind.isContainerized) :
    ∀ ns : List Node, healthSteps q kind (ns.map g) = healthSteps p kind ns
  | [] => rfl
  | n :: _ => congrArg (fun text => [step "Check endpoint health" text]) (hhealth n)

/-- **A guide is the same if its steps are**, member by member. -/
theorem steps_congr {kind : UnitKind}
    (hmembers : q.cluster.members = p.cluster.members.map g)
    (hinstall : installSteps q kind = installSteps p kind)
    (hauthority : authoritySteps q = authoritySteps p)
    (hmember : ∀ n, memberSteps q kind (g n) = memberSteps p kind n)
    (hhealth : ∀ n, Daemon.health q.cluster (g n) kind.isContainerized =
      Daemon.health p.cluster n kind.isContainerized)
    (hoperator : operatorSteps q = operatorSteps p) (withOperator : Bool) :
    steps q kind withOperator = steps p kind withOperator := by
  have hsteps : (p.cluster.members.map g).flatMap (memberSteps q kind) =
      p.cluster.members.flatMap (memberSteps p kind) := by
    rw [List.flatMap_map]
    exact congrArg (List.flatMap · _) (funext hmember)
  rw [steps_eq_members, steps_eq_members, hmembers, hinstall, hauthority, hsteps,
    healthSteps_congr hhealth, hoperator]

end Guide
end EtcdKit
