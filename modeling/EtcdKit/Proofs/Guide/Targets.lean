import EtcdKit.Proofs.Cluster.Validity
import EtcdKit.Target
/-!
# Targets — every step of a guide is a target of its own

The guide works on copies of the nodes in which the member list is noted, and a single target looks
its node up by name.  Nothing that is written depends on the note (`memberSteps_noted`), and names
stand once each in a valid profile, so both ways give the same texts (`guide_renders_targets`).
-/
namespace EtcdKit

/-- **What is collected from the noted members** is what is collected from the members, if the note
does not count. -/
theorem Cluster.flatMap_notedMembers {α : Type} (c : Cluster) (g : Node → List α)
    (hg : ∀ n text, g { n with initialCluster := text } = g n) :
    c.notedMembers.flatMap g = c.members.flatMap g := by
  rw [notedMembers, withInitialCluster, members]
  split
  · rfl
  · rw [← List.map_take, List.flatMap_map]
    congr 1
    funext n
    exact hg n c.initialClusterText

namespace Guide

/-- The targets that set up a member, named by its name. -/
def memberTargets (secure : Bool) (kind : UnitKind) (n : Node) : List Target :=
  (if secure then [.certificate (some n.name), .certificateCopy (some n.name)] else []) ++
  [.dataDir (some n.name), .unit (some n.name) kind, .control (some n.name) kind]

/-- The targets that a guide goes through, in order. -/
def targets (p : Profile) (kind : UnitKind) (withOperator : Bool) : List Target :=
  [.install .linux] ++
  (if kind = .rkt then [.rkt, .rktTrust] else []) ++
  (if p.cluster.secure then [.certificatePrograms, .authority, .authorityFiles] else []) ++
  (p.cluster.nodes.take p.cluster.memberCount).flatMap (memberTargets p.cluster.secure kind) ++
  (if 0 < p.cluster.memberCount then [.health none (kind == .docker)] else []) ++
  (if withOperator then [.operated, .operatedHealth] else [])

/-- The text of every step's body, as rendering a target would give it. -/
def bodies (steps : List Block) : List (Except Error String) := steps.map fun b => .ok b.body.text

/-- What rendering gives for every target. -/
def rendered (p : Profile) (ts : List Target) : List (Except Error String) := ts.map (·.render p)

theorem bodies_append (bs cs : List Block) : bodies (bs ++ cs) = bodies bs ++ bodies cs :=
  List.map_append

theorem rendered_append (p : Profile) (ts us : List Target) :
    rendered p (ts ++ us) = rendered p ts ++ rendered p us :=
  List.map_append

theorem memberSteps_noted (p : Profile) (kind : UnitKind) (n : Node) (text : String) :
    memberSteps p kind { n with initialCluster := text } = memberSteps p kind n := rfl

/-- The step that checks the health reads one member, and not its note. -/
theorem healthSteps_notedMembers (p : Profile) (kind : UnitKind) :
    healthSteps p kind p.cluster.notedMembers = healthSteps p kind p.cluster.members := by
  rw [Cluster.notedMembers, Cluster.withInitialCluster, Cluster.members]
  split
  · rfl
  · rw [← List.map_take]
    cases p.cluster.nodes.take p.cluster.memberCount <;> rfl

theorem bodies_installSteps (p : Profile) (kind : UnitKind) :
    bodies (installSteps p kind) =
      rendered p ([.install .linux] ++ (if kind = .rkt then [.rkt, .rktTrust] else [])) := by
  cases kind <;>
    simp [bodies, rendered, installSteps, step, Target.render, Target.script, Target.installText,
      Script.text_ofText, Except.map]

theorem bodies_authoritySteps (p : Profile) :
    bodies (authoritySteps p) =
      rendered p (if p.cluster.secure then
        [.certificatePrograms, .authority, .authorityFiles] else []) := by
  rw [authoritySteps]
  cases p.cluster.secure <;>
    simp [bodies, rendered, step, Target.render, Target.script, Script.text_ofText, Except.map]

/-- **The steps of a member** are its targets, once its name finds it. -/
theorem bodies_memberSteps (p : Profile) (kind : UnitKind) (n : Node)
    (hn : p.cluster.node n.name = .ok n) :
    bodies (memberSteps p kind n) = rendered p (memberTargets p.cluster.secure kind n) := by
  rw [memberSteps, certificateSteps, memberTargets]
  cases p.cluster.secure <;>
    simp [bodies, rendered, step, Target.render, Target.script, Target.forNode,
      Target.textForNode, Cluster.nodeOrFirst, hn, Script.text_ofText, Except.map]

theorem bodies_flatMap_memberSteps (p : Profile) (kind : UnitKind) :
    ∀ ns : List Node, (∀ n ∈ ns, p.cluster.node n.name = .ok n) →
      bodies (ns.flatMap (memberSteps p kind)) =
        rendered p (ns.flatMap (memberTargets p.cluster.secure kind))
  | [], _ => rfl
  | n :: ns, h => by
    rw [List.flatMap_cons, List.flatMap_cons, bodies_append, rendered_append,
      bodies_memberSteps p kind n (h n List.mem_cons_self),
      bodies_flatMap_memberSteps p kind ns fun m hm => h m (List.mem_cons_of_mem _ hm)]

/-- The first member is the first node, which is the one that a target without a name means. -/
theorem bodies_healthSteps (p : Profile) (kind : UnitKind) :
    bodies (healthSteps p kind p.cluster.members) =
      rendered p (if 0 < p.cluster.memberCount then [.health none (kind == .docker)] else []) := by
  rw [Cluster.members]
  cases hk : p.cluster.memberCount with
  | zero => rfl
  | succ k =>
    cases hn : p.cluster.nodes with
    | nil =>
      rw [Cluster.memberCount, hn] at hk
      simp at hk
    | cons n ns =>
      simp [bodies, rendered, healthSteps, step, Target.render, Target.script, Target.forNode,
        Target.textForNode, Cluster.nodeOrFirst, hn, Script.text_ofText, Except.map,
        UnitKind.isContainerized]

theorem bodies_operatorSteps (p : Profile) :
    bodies (operatorSteps p) = rendered p [.operated, .operatedHealth] := by
  simp [bodies, rendered, operatorSteps, step, Target.render, Target.script, Script.text_ofText,
    Except.map]

/-- **A guide goes through single targets**: in a valid profile the body of every step is what its
target gives, in the order of `targets` and with nothing else, and the guide is the texts of the
steps with a line end between them. -/
theorem guide_renders_targets (p : Profile) (hp : p.validate = .ok ()) (kind : UnitKind)
    (withOperator : Bool) :
    (steps p kind withOperator).map (fun b => Except.ok b.body.text) =
        (targets p kind withOperator).map (Target.render p) ∧
      (∀ b ∈ steps p kind withOperator, b.text = "# " ++ b.title ++ "\n" ++ b.body.text ++
        (if Block.endsLine b.body.text then "" else "\n")) ∧
      (Target.guide kind withOperator).render p =
        .ok (String.intercalate "\n" ((steps p kind withOperator).map Block.text)) := by
  have hd : p.cluster.nodeNames.Nodup :=
    ((Cluster.fault?_eq_none_iff _).1 ((Profile.validate_eq_ok_iff p).1 hp).1).2.1
  have hmem : ∀ n ∈ p.cluster.members, p.cluster.node n.name = .ok n := fun n hn =>
    p.cluster.node_name_of_mem hd (List.mem_of_mem_take hn)
  refine ⟨?_, fun b _ => b.text_eq, ?_⟩
  · change bodies (steps p kind withOperator) = rendered p (targets p kind withOperator)
    rw [steps, p.cluster.flatMap_notedMembers _ (memberSteps_noted p kind),
      healthSteps_notedMembers, targets]
    simp only [bodies_append, rendered_append]
    rw [bodies_installSteps, bodies_authoritySteps, bodies_flatMap_memberSteps p kind _ hmem,
      bodies_healthSteps, rendered_append, Cluster.members]
    congr 1
    cases withOperator with
    | false => rfl
    | true => exact bodies_operatorSteps p
  · rw [Target.render, Target.script, Except.map, Block.text_joined]

/-- The guide of the sample deployment with Docker goes through these targets. -/
theorem sample_guide_renders_targets :
    Sample.profile.validate = .ok () ∧
      (steps Sample.profile .docker false).map (fun b => Except.ok b.body.text) =
        rendered Sample.profile
          ([.install .linux, .certificatePrograms, .authority, .authorityFiles] ++
            ["s1", "s2", "s3"].flatMap (fun name =>
              [.certificate (some name), .certificateCopy (some name), .dataDir (some name),
                .unit (some name) .docker, .control (some name) .docker]) ++
            [.health none true]) :=
  ⟨by cbv, (guide_renders_targets Sample.profile (by cbv) .docker false).1⟩

end Guide
end EtcdKit
