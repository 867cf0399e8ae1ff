import EtcdKit.Proofs.Script.Templates
/-!
# Failure — rendering fails only for want of a node

A target is rendered from any profile, valid or not.  There are three places where it could fail: the
look-up of a node, the part of the node list that holds the members, and the places of a template.
The last two never do (`members_in_bounds`, `lookup_place_ne_none`), and the first does exactly if no
node has the name, or if the first node is meant and there is none (`render_fails_iff_no_node`).
-/
namespace EtcdKit

/-- The first so many of a list, if there are so many. -/
def leading? {α : Type} (xs : List α) (count : Nat) : Option (List α) :=
  if count ≤ xs.length then some (xs.take count) else none

namespace Cluster

variable (c : Cluster)

/-- **The members are a part of the node list**, also of the list with the notes. -/
theorem members_in_bounds :
    leading? c.nodes c.memberCount = some c.members ∧
      leading? c.withInitialCluster.2 c.memberCount = some c.notedMembers := by
  have hle : c.memberCount ≤ c.nodes.length := Nat.min_le_right _ _
  have hlength : c.withInitialCluster.2.length = c.nodes.length := by
    unfold withInitialCluster
    split
    · rfl
    · exact List.length_map _
  constructor
  · exact if_pos hle
  · exact if_pos (hlength ▸ hle)

theorem node_eq_error_iff {name : String} {e : Error} :
    c.node name = .error e ↔ name ∉ c.nodeNames ∧ e = .nodeNotFound name c.nodeNames := by
  unfold node
  cases hfind : c.nodes.find? (fun n => n.name == name) with
  | none =>
    have hnone : name ∉ c.nodeNames := by
      intro hmem
      obtain ⟨n, hn, rfl⟩ := List.mem_map.1 hmem
      exact List.find?_eq_none.1 hfind n hn (beq_self_eq_true n.name)
    simp [hnone, eq_comm]
  | some n =>
    have hmem : name ∈ c.nodeNames := by
      have hname : n.name = name := by simpa using List.find?_some hfind
      exact hname ▸ List.mem_map_of_mem (List.mem_of_find?_eq_some hfind)
    simp [hmem]

theorem nodeOrFirst_eq_error_iff {node : Option String} {e : Error} :
    c.nodeOrFirst node = .error e ↔
      (∃ name, node = some name ∧ name ∉ c.nodeNames ∧ e = .nodeNotFound name c.nodeNames) ∨
        (node = none ∧ c.nodes = [] ∧ e = .invalidProfile .noNodes) := by
  cases node with
  | some name =>
    rw [nodeOrFirst, node_eq_error_iff]
    simp
  | none =>
    unfold nodeOrFirst
    cases c.nodes with
    | nil => simp [eq_comm]
    | cons n ns => simp

end Cluster

/-! ## What the written files are made of -/

/-- Texts that templates give, each with a value for every place. -/
def MadeBy (contents : List String) (fillings : List Filling) : Prop :=
  contents.map some = fillings.map Filling.text?

theorem madeBy_nil : MadeBy [] [] := rfl

theorem madeBy_singleton {f : Filling} {content : String} (h : f.text? = some content) :
    MadeBy [content] [f] := by
  unfold MadeBy
  rw [List.map_singleton, List.map_singleton, h]

theorem MadeBy.append {cs ds : List String} {fs gs : List Filling} (hc : MadeBy cs fs)
    (hd : MadeBy ds gs) : MadeBy (cs ++ ds) (fs ++ gs) := by
  unfold MadeBy at hc hd ⊢
  rw [List.map_append, List.map_append, hc, hd]

theorem MadeBy.flatMap {α : Type} {contents : α → List String} {fillings : α → List Filling}
    (h : ∀ x, MadeBy (contents x) (fillings x)) : ∀ xs : List α,
      MadeBy (xs.flatMap contents) (xs.flatMap fillings)
  | [] => rfl
  | x :: xs => by
    rw [List.flatMap_cons, List.flatMap_cons]
    exact (h x).append (MadeBy.flatMap h xs)

/-- What the files of a script hold, in order. -/
def Script.contents (s : Script) : List String := s.documents.map (·.body)

namespace Block

/-- What the files hold that blocks write, in order. -/
def contents (bs : List Block) : List String := bs.flatMap fun b => b.body.contents

theorem contents_append (bs cs : List Block) : contents (bs ++ cs) = contents bs ++ contents cs :=
  List.flatMap_append

theorem contents_joined (bs : List Block) : (joined bs).contents = contents bs := by
  rw [Script.contents, documents_joined, List.map_flatMap]
  rfl

end Block

theorem madeBy_rootScript (ca : CertificateAuthority) :
    MadeBy ca.rootScript.contents [ca.rootFilling, ca.policyFilling] :=
  (madeBy_singleton ca.text?_rootFilling).append (madeBy_singleton ca.text?_policyFilling)

theorem madeBy_memberScript (ca : CertificateAuthority) (n : Node) :
    MadeBy (ca.memberScript n).contents [ca.memberFilling n] :=
  madeBy_singleton (ca.text?_memberFilling n)

theorem madeBy_unitScript (kind : UnitKind) (c : Cluster) (r : Rkt) (n : Node) :
    MadeBy (kind.unitScript c r n).contents [kind.filling c r n] :=
  madeBy_singleton (kind.text?_filling c r n)

theorem madeBy_operatorScript (o : Operator) (c : Cluster) :
    MadeBy (o.script c).contents [o.filling c] :=
  madeBy_singleton (o.text?_filling c)

namespace Guide

variable (p : Profile) (kind : UnitKind)

/-- How the files of a member are made. -/
def memberFillings (n : Node) : List Filling :=
  (if p.cluster.secure then [p.certificates.memberFilling n] else []) ++
    [kind.filling p.cluster p.rkt n]

/-- How the files of a guide are made. -/
def fillings (withOperator : Bool) : List Filling :=
  (if p.cluster.secure then [p.certificates.rootFilling, p.certificates.policyFilling] else []) ++
    p.cluster.notedMembers.flatMap (memberFillings p kind) ++
    (if withOperator then [p.operator.filling p.cluster] else [])

theorem contents_installSteps : Block.contents (installSteps p kind) = [] := by
  cases kind <;> rfl

theorem contents_healthSteps (members : List Node) :
    Block.contents (healthSteps p kind members) = [] := by
  cases members <;> rfl

theorem madeBy_authoritySteps :
    MadeBy (Block.contents (authoritySteps p)) (if p.cluster.secure then
      [p.certificates.rootFilling, p.certificates.policyFilling] else []) := by
  unfold authoritySteps
  cases p.cluster.secure with
  | false => exact madeBy_nil
  | true => exact madeBy_rootScript p.certificates

theorem madeBy_memberSteps (n : Node) :
    MadeBy (Block.contents (memberSteps p kind n)) (memberFillings p kind n) := by
  have hunit := madeBy_unitScript kind p.cluster p.rkt n
  unfold memberSteps memberFillings certificateSteps
  rw [Block.contents_append]
  refine MadeBy.append ?_ hunit
  cases p.cluster.secure with
  | false => exact madeBy_nil
  | true => exact madeBy_memberScript p.certificates n

theorem madeBy_operatorSteps (withOperator : Bool) :
    MadeBy (Block.contents (if withOperator then operatorSteps p else []))
      (if withOperator then [p.operator.filling p.cluster] else []) := by
  cases withOperator with
  | false => exact madeBy_nil
  | true => exact madeBy_operatorScript p.operator p.cluster

/-- **Every file of a guide is a filled template.** -/
theorem madeBy_steps (withOperator : Bool) :
    MadeBy (Block.contents (steps p kind withOperator)) (fillings p kind withOperator) := by
  have hmembers : MadeBy (Block.contents (p.cluster.notedMembers.flatMap (memberSteps p kind)))
      (p.cluster.notedMembers.flatMap (memberFillings p kind)) := by
    unfold Block.contents
    rw [List.flatMap_assoc]
    exact MadeBy.flatMap (madeBy_memberSteps p kind) p.cluster.notedMembers
  unfold steps fillings
  simp only [Block.contents_append]
  rw [contents_installSteps, contents_healthSteps, List.nil_append, List.append_nil]
  exact ((madeBy_authoritySteps p).append hmembers).append (madeBy_operatorSteps p withOperator)

end Guide

namespace Target

variable (p : Profile)

/-- The node that a target names. -/
def nodeName? : Target → Option String
  | .certificate node | .certificateCopy node | .certificateFiles node | .dataDir node => node
  | .flags node _ | .command node _ | .health node _ | .unit node _ | .control node _ => node
  | _ => none

/-- The target means the first node: it is about one node, and names none. -/
def meansFirst : Target → Bool
  | .certificate none | .certificateCopy none | .dataDir none => true
  | .flags none _ | .command none _ | .health none _ | .unit none _ | .control none _ => true
  | _ => false

/-- How the files are made that the script of a target writes. -/
def fillings : Target → Except Error (List Filling)
  | .authority => .ok [p.certificates.rootFilling, p.certificates.policyFilling]
  | .certificate node => (p.cluster.nodeOrFirst node).map fun n => [p.certificates.memberFilling n]
  | .unit node kind => (p.cluster.nodeOrFirst node).map fun n => [kind.filling p.cluster p.rkt n]
  | .operated => .ok [p.operator.filling p.cluster]
  | .guide kind withOperator => .ok (Guide.fillings p kind withOperator)
  | t => (t.script p).map fun _ => []

/-- **A target fails as its look-up of a node does**, if it looks one up. -/
theorem script_cases (t : Target) :
    (∃ s, t.script p = .ok s ∧ t.nodeName? = none ∧ t.meansFirst = false) ∨
      ∃ node script, t.script p = forNode p node script ∧ t.nodeName? = node ∧
        t.meansFirst = node.isNone := by
  cases t
  -- the files of all members need no node, those of one member need it by name
  case certificateFiles node =>
    cases node with
    | none => exact .inl ⟨_, rfl, rfl, rfl⟩
    | some name => exact .inr ⟨_, _, rfl, rfl, rfl⟩
  case certificate node | certificateCopy node | dataDir node | flags node _ | command node _
      | health node _ | unit node _ | control node _ =>
    exact .inr ⟨node, _, rfl, rfl, by cases node <;> rfl⟩
  case endpoints withScheme => exact .inl (by cases withScheme <;> exact ⟨_, rfl, rfl, rfl⟩)
  all_goals exact .inl ⟨_, rfl, rfl, rfl⟩

theorem script_eq_error_iff {t : Target} {e : Error} :
    t.script p = .error e ↔
      (∃ name, t.nodeName? = some name ∧ name ∉ p.cluster.nodeNames ∧
          e = .nodeNotFound name p.cluster.nodeNames) ∨
        (t.meansFirst = true ∧ p.cluster.nodes = [] ∧ e = .invalidProfile .noNodes) := by
  obtain ⟨s, hs, hname, hfirst⟩ | ⟨node, script, hs, hname, hfirst⟩ := script_cases p t
  · simp [hs, hname, hfirst]
  · have hnode : forNode p node script = .error e ↔ p.cluster.nodeOrFirst node = .error e := by
      unfold forNode
      cases p.cluster.nodeOrFirst node <;> simp [Except.map]
    rw [hs, hname, hfirst, hnode, Cluster.nodeOrFirst_eq_error_iff, Option.isNone_iff_eq_none]

theorem render_eq_error_iff {t : Target} {e : Error} :
    t.render p = .error e ↔ t.script p = .error e := by
  unfold render
  cases t.script p <;> simp [Except.map]

theorem contents_forNode {script : Node → Script} {made : Node → List Filling}
    (h : ∀ n, MadeBy (script n).contents (made n)) (node : Option String) :
    (forNode p node script).map (fun s => s.contents.map some) =
      ((p.cluster.nodeOrFirst node).map made).map (·.map Filling.text?) := by
  unfold forNode
  cases p.cluster.nodeOrFirst node with
  | error e => rfl
  | ok n => exact congrArg Except.ok (h n)

theorem contents_textForNode (text : Node → String) (node : Option String) :
    (textForNode p node text).map (fun s => s.contents.map some) =
      ((textForNode p node text).map fun _ => []).map (·.map Filling.text?) := by
  unfold textForNode forNode
  cases p.cluster.nodeOrFirst node <;> rfl

/-- **Every file that a target writes is a filled template.** -/
theorem contents_script (t : Target) :
    (t.script p).map (fun s => s.contents.map some) =
      (t.fillings p).map (·.map Filling.text?) := by
  cases t
  case authority => exact congrArg Except.ok (madeBy_rootScript p.certificates)
  case certificate node => exact contents_forNode p (madeBy_memberScript p.certificates) node
  case unit node kind => exact contents_forNode p (madeBy_unitScript kind p.cluster p.rkt) node
  case operated => exact congrArg Except.ok (madeBy_operatorScript p.operator p.cluster)
  case guide kind withOperator =>
    have hguide := Guide.madeBy_steps p kind withOperator
    rw [← Block.contents_joined] at hguide
    exact congrArg Except.ok hguide
  case certificateFiles node =>
    cases node with
    | none => rfl
    | some name => exact contents_textForNode p _ (some name)
  case certificateCopy node | dataDir node | flags node _ | command node _ | health node _
      | control node _ =>
    exact contents_textForNode p _ node
  case endpoints withScheme => cases withScheme <;> rfl
  all_goals rfl

/-- **No place of a template is left without a value**, whatever the profile is. -/
theorem lookup_place_ne_none {t : Target} {fs : List Filling} (h : t.fillings p = .ok fs) :
    ∀ f ∈ fs, ∀ name ∈ f.template.places, f.values.lookup name ≠ none := by
  intro f hf name hname hnone
  have hempty : f.text? = none := Template.fill?_eq_none_iff.2 ⟨name, hname, hnone⟩
  have hcontents := contents_script p t
  rw [h] at hcontents
  cases hs : t.script p with
  | error e =>
    rw [hs] at hcontents
    cases hcontents
  | ok s =>
    rw [hs] at hcontents
    have htexts : s.contents.map some = fs.map Filling.text? := Except.ok.inj hcontents
    have hmem : none ∈ s.contents.map some := by
      rw [htexts, ← hempty]
      exact List.mem_map_of_mem hf
    simp at hmem

/-- **Rendering fails only for want of a node.**  For every profile, valid or not, a target fails in
exactly two ways: no node has the name that it names, and the error tells the name and all that there
are; or it means the first node, and there is none.  In every other case it gives a text, and so a
guide, the files of all members, the member list, the addresses and the texts for the operator always
are one.  The members lie within the node list, and every file that is written is what its template
gives, with a value for every place. -/
theorem render_fails_iff_no_node (p : Profile) (t : Target) :
    (∀ e, t.render p = .error e ↔
      (∃ name, t.nodeName? = some name ∧ name ∉ p.cluster.nodeNames ∧
          e = .nodeNotFound name p.cluster.nodeNames) ∨
        (t.meansFirst = true ∧ p.cluster.nodes = [] ∧ e = .invalidProfile .noNodes)) ∧
    ((∃ text, t.render p = .ok text) ∨
      (∃ name, t.nodeName? = some name ∧ name ∉ p.cluster.nodeNames) ∨
        (t.meansFirst = true ∧ p.cluster.nodes = [])) ∧
    (∀ name, (Error.nodeNotFound name p.cluster.nodeNames).message =
      "Node '" ++ name ++ "' not found. Available: " ++
        String.intercalate ", " (p.cluster.nodes.map (·.name))) ∧
    (∀ kind withOperator withScheme, ∀ u ∈ [.guide kind withOperator, .certificateFiles none,
      .initialCluster, .endpoints withScheme, .operated, .operatedHealth],
        ∃ text, Target.render p u = .ok text) ∧
    leading? p.cluster.nodes p.cluster.memberCount = some p.cluster.members ∧
    leading? p.cluster.withInitialCluster.2 p.cluster.memberCount = some p.cluster.notedMembers ∧
    (t.script p).map (fun s => s.documents.map fun d => some d.body) =
      (t.fillings p).map (·.map Filling.text?) := by
  have hfails : ∀ e, t.render p = .error e ↔ _ := fun e =>
    (render_eq_error_iff p).trans (script_eq_error_iff p)
  have hcontents := contents_script p t
  simp only [Script.contents, List.map_map] at hcontents
  refine ⟨hfails, ?_, fun name => rfl, ?_, p.cluster.members_in_bounds.1,
    p.cluster.members_in_bounds.2, hcontents⟩
  · cases hrender : t.render p with
    | ok text => exact .inl ⟨text, rfl⟩
    | error e =>
      right
      rcases (hfails e).1 hrender with ⟨name, hname, hmissing, -⟩ | ⟨hfirst, hnil, -⟩
      · exact .inl ⟨name, hname, hmissing⟩
      · exact .inr ⟨hfirst, hnil⟩
  · intro kind withOperator withScheme u hu
    simp only [List.mem_cons, List.not_mem_nil, or_false] at hu
    rcases hu with rfl | rfl | rfl | rfl | rfl | rfl
    -- the addresses are computed by cases on the scheme
    case inr.inr.inr.inl => cases withScheme <;> exact ⟨_, rfl⟩
    all_goals exact ⟨_, rfl⟩

/-- A deployment that is not valid: it declares nine members, and has no nodes. -/
def noNodes : Profile := { cluster := { size := 9, nodes := [] }, playground := Sample.playground }

theorem noNodes_render_fails :
    Target.guide .rkt true ∈ [Target.guide .rkt true, .certificateFiles none, .initialCluster,
        .endpoints true, .operated, .operatedHealth] ∧
      (∃ text, (Target.guide .rkt true).render noNodes = .ok text) ∧
      (Target.health none true).render noNodes = .error (.invalidProfile .noNodes) ∧
      (Target.dataDir (some "s9")).render noNodes = .error (.nodeNotFound "s9" []) := by
  obtain ⟨hfirst, -, -, hguide, -⟩ := render_fails_iff_no_node noNodes (.health none true)
  obtain ⟨hnamed, -⟩ := render_fails_iff_no_node noNodes (.dataDir (some "s9"))
  refine ⟨List.mem_cons_self, hguide .rkt true true _ List.mem_cons_self, ?_, ?_⟩
  · exact (hfirst _).2 (.inr ⟨rfl, rfl, rfl⟩)
  · exact (hnamed _).2 (.inl ⟨"s9", rfl, List.not_mem_nil, rfl⟩)

end Target
end EtcdKit
