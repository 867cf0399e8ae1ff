import EtcdKit.Proofs.Target.ExchangedNodes
/-!
# SpareNodes — spare nodes and the exact size leave no trace

A cluster may hold more nodes than its size asks for, and a size above seven counts as seven where
members are taken.  If an exchange of the nodes and the size keeps the members and the side of the limit
that the size is on (`Cluster.KeepsMembers`), everything that is written stays the same, and a member is
found as before, also under a name that a spare node repeats (`nodeOrFirst_eq_of_take_eq`).
-/
namespace EtcdKit
namespace Cluster

/-- Other nodes and another size keep the members, and the side of the limit. -/
structure KeepsMembers (c : Cluster) (nodes : List Node) (size : UInt32) : Prop where
  members : (c.withNodes nodes size).members = c.members
  oversize : (c.withNodes nodes size).oversize = c.oversize

/-- The same members are members with the same notes. -/
theorem KeepsMembers.corresponds {c : Cluster} {nodes : List Node} {size : UInt32}
    (h : c.KeepsMembers nodes size) : c.Corresponds nodes size id where
  onlyNotes := fun _ => rfl
  members := h.members.trans (List.map_id _).symm
  oversize := h.oversize

/-! ## The same first nodes -/

variable {c : Cluster} {nodes : List Node} {size : UInt32} {k : Nat}

/-- **Members are the same** if the sizes ask for the same number of them, from lists that start
alike. -/
theorem keepsMembers_of_take_eq (hc : c.requiredMembers = k)
    (hother : (c.withNodes nodes size).requiredMembers = k)
    (hlimit : c.size.toNat ≤ 7 ↔ size.toNat ≤ 7) (hlength : k ≤ c.nodes.length)
    (hlength' : k ≤ nodes.length) (hnodes : nodes.take k = c.nodes.take k) :
    c.KeepsMembers nodes size where
  members := by
    have hcount : c.memberCount = k := by
      rw [memberCount, hc]
      exact Nat.min_eq_left hlength
    have hcount' : (c.withNodes nodes size).memberCount = k := by
      rw [memberCount, hother]
      exact Nat.min_eq_left hlength'
    rw [members, members, hcount, hcount']
    exact hnodes
  oversize := by
    have hupper : Bounds.clusterSize.upper = 7 := rfl
    have hsize : (c.withNodes nodes size).size = size := rfl
    unfold oversize
    rw [hupper, hsize]
    exact decide_eq_decide.2 (by omega)

theorem nodeOrFirst_none (c : Cluster) :
    c.nodeOrFirst none = match c.nodes.head? with
      | some n => .ok n
      | none => .error (.invalidProfile .noNodes) := by
  unfold nodeOrFirst
  cases c.nodes <;> rfl

theorem node_eq_ok_of_take {name : String} {n : Node}
    (h : (c.nodes.take k).find? (fun m => m.name == name) = some n) : c.node name = .ok n := by
  unfold node
  rw [(List.take_prefix k c.nodes).find?_eq_some h]

/-- **The first nodes are found as before**, whatever the names of the nodes behind them. -/
theorem nodeOrFirst_eq_of_take_eq (hk : 0 < k) (hnodes : nodes.take k = c.nodes.take k)
    {name : Option String} (hname : ∀ s, name = some s → s ∈ (c.nodes.take k).map (·.name)) :
    (c.withNodes nodes size).nodeOrFirst name = c.nodeOrFirst name := by
  cases name with
  | none =>
    have hhead : nodes.head? = c.nodes.head? := by
      have htake := congrArg List.head? hnodes
      rwa [List.head?_take, List.head?_take, if_neg (by omega), if_neg (by omega)] at htake
    rw [nodeOrFirst_none, nodeOrFirst_none, ← hhead]
    rfl
  | some s =>
    obtain ⟨n, hn, rfl⟩ := List.mem_map.1 (hname _ rfl)
    have hfound : ((c.nodes.take k).find? fun m => m.name == n.name).isSome :=
      List.find?_isSome.2 ⟨n, hn, beq_self_eq_true n.name⟩
    obtain ⟨m, hm⟩ := Option.isSome_iff_exists.1 hfound
    have hnode : c.node n.name = .ok m := node_eq_ok_of_take hm
    have hnode' : (c.withNodes nodes size).node n.name = .ok m :=
      node_eq_ok_of_take (c := c.withNodes nodes size) (hnodes ▸ hm)
    exact hnode'.trans hnode.symm

end Cluster

namespace Target

theorem script_withNodes {p : Profile} {nodes : List Node} {size : UInt32}
    (h : p.cluster.KeepsMembers nodes size) {t : Target}
    (hnode : (p.cluster.withNodes nodes size).nodeOrFirst t.nodeName? =
      p.cluster.nodeOrFirst t.nodeName?) :
    t.script (p.withNodes nodes size) = t.script p := by
  refine script_of_corresponds h.corresponds ?_
  rw [Except.map_id]
  exact hnode

/-- **Spare nodes and the exact size leave no trace.**  Two profiles have the same settings but for
their nodes and their size; the sizes ask for the same number of members and are on the same side of
the limit, and both lists start with the same nodes, as many as are asked for.  Then every target is
rendered alike that names no node, or one of these by its name: the texts about the whole cluster,
the guide of every kind, and every text about one of these nodes. -/
theorem spare_nodes_leave_no_trace (p q : Profile) (k : Nat)
    (hrest : p.withNodes [] 0 = q.withNodes [] 0)
    (hp : p.cluster.requiredMembers = k) (hq : q.cluster.requiredMembers = k)
    (hlimit : p.cluster.size.toNat ≤ 7 ↔ q.cluster.size.toNat ≤ 7)
    (hlength : k ≤ p.cluster.nodes.length) (hlength' : k ≤ q.cluster.nodes.length)
    (hnodes : p.cluster.nodes.take k = q.cluster.nodes.take k) (t : Target)
    (ht : ∀ name, t.nodeName? = some name → name ∈ (p.cluster.nodes.take k).map (·.name)) :
    t.render p = t.render q := by
  have hq_eq : q = p.withNodes q.cluster.nodes q.cluster.size :=
    calc q = (q.withNodes [] 0).withNodes q.cluster.nodes q.cluster.size := rfl
      _ = (p.withNodes [] 0).withNodes q.cluster.nodes q.cluster.size := by rw [hrest]
  generalize q.cluster.nodes = nodes at hq_eq hlength' hnodes
  generalize q.cluster.size = size at hq_eq hlimit
  subst hq_eq
  have hk : 0 < k := by
    have hbounds := Bounds.clamp_mem (b := Bounds.clusterSize) (by decide) p.cluster.size.toNat
    exact hp ▸ hbounds.1
  have hkeeps : p.cluster.KeepsMembers nodes size :=
    Cluster.keepsMembers_of_take_eq hp hq hlimit hlength hlength' hnodes.symm
  have hnode : (p.cluster.withNodes nodes size).nodeOrFirst t.nodeName? =
      p.cluster.nodeOrFirst t.nodeName? :=
    Cluster.nodeOrFirst_eq_of_take_eq hk hnodes.symm ht
  exact (render_congr (script_withNodes hkeeps hnode)).symm

/-- Too many members are declared, and seven are there. -/
def crowdedSample : Profile := Sample.profile.withNodes Sample.nodes 8

/-- Far too many are declared, and a spare node repeats the name of a member. -/
def repeatingSample : Profile :=
  Sample.profile.withNodes (Sample.nodes ++ [Sample.node "s3" 1 2, Sample.node "s8" 3 4]) 4000000

theorem repeatingSample_leaves_no_trace :
    crowdedSample.cluster.requiredMembers = 7 ∧
      (guide .rkt true).render crowdedSample = (guide .rkt true).render repeatingSample ∧
      (unit (some "s3") .coreos).render crowdedSample =
        (unit (some "s3") .coreos).render repeatingSample ∧
      (health none true).render crowdedSample = (health none true).render repeatingSample := by
  have halike := spare_nodes_leave_no_trace crowdedSample repeatingSample 7 rfl rfl rfl
    (by decide) (by decide) (by decide) rfl
  exact ⟨rfl, halike _ (by simp [nodeName?]), halike _ (by decide), halike _ (by simp [nodeName?])⟩

end Target
end EtcdKit
