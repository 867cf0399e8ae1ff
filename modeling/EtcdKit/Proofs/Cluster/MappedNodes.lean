import EtcdKit.Cluster
/-!
# MappedNodes — clusters whose nodes are changed one by one

`Cluster.mapNodes` changes every node and nothing else.  The members are then the changed members,
and a node is found under its name as before where names are kept (`node_mapNodes`).  What is derived
from the cluster stays the same if the change keeps what it is derived from.
-/
namespace EtcdKit
namespace Cluster

theorem length_members (c : Cluster) : c.members.length = c.memberCount := by
  unfold members
  rw [List.length_take]
  exact Nat.min_eq_left (Nat.min_le_right _ _)

variable (g : Node → Node) (c : Cluster)

/-- The cluster with every node changed. -/
def mapNodes : Cluster := { c with nodes := c.nodes.map g }

theorem memberCount_mapNodes : (c.mapNodes g).memberCount = c.memberCount := by
  unfold memberCount
  rw [show (c.mapNodes g).nodes = c.nodes.map g from rfl, List.length_map]
  rfl

theorem members_mapNodes : (c.mapNodes g).members = c.members.map g := by
  unfold members
  rw [memberCount_mapNodes, List.map_take]
  rfl

variable {g}

theorem nodeNames_mapNodes (hname : ∀ n, (g n).name = n.name) :
    (c.mapNodes g).nodeNames = c.nodeNames := by
  have hsame : (fun n : Node => n.name) ∘ g = fun n => n.name := funext hname
  unfold nodeNames
  rw [show (c.mapNodes g).nodes = c.nodes.map g from rfl, List.map_map, hsame]

/-- **A node is found under its name as before**, and so is the error if there is none. -/
theorem node_mapNodes (hname : ∀ n, (g n).name = n.name) (name : String) :
    (c.mapNodes g).node name = (c.node name).map g := by
  have htest : (fun n : Node => n.name == name) ∘ g = fun n => n.name == name := by
    funext n
    exact congrArg (· == name) (hname n)
  have hfind : (c.mapNodes g).nodes.find? (fun n => n.name == name) =
      (c.nodes.find? fun n => n.name == name).map g := by
    rw [show (c.mapNodes g).nodes = c.nodes.map g from rfl, List.find?_map, htest]
  unfold node
  rw [hfind, nodeNames_mapNodes c hname]
  cases c.nodes.find? (fun n => n.name == name) <;> rfl

theorem nodeOrFirst_mapNodes (hname : ∀ n, (g n).name = n.name) (name : Option String) :
    (c.mapNodes g).nodeOrFirst name = (c.nodeOrFirst name).map g := by
  cases name with
  | some name => exact node_mapNodes c hname name
  | none =>
    unfold nodeOrFirst
    rw [show (c.mapNodes g).nodes = c.nodes.map g from rfl]
    cases c.nodes <;> rfl

theorem initialClusterText_mapNodes (hentry : ∀ n, c.memberEntry (g n) = c.memberEntry n) :
    (c.mapNodes g).initialClusterText = c.initialClusterText := by
  have hentries : (c.mapNodes g).members.map c.memberEntry = c.members.map c.memberEntry := by
    rw [members_mapNodes, List.map_map]
    exact List.map_congr_left fun n _ => hentry n
  unfold initialClusterText
  rw [show (c.mapNodes g).memberEntry = c.memberEntry from rfl, hentries]
  rfl

theorem clientEndpointsText_mapNodes (hendpoint : ∀ n, (g n).clientEndpoint = n.clientEndpoint) :
    (c.mapNodes g).clientEndpointsText = c.clientEndpointsText := by
  unfold clientEndpointsText clientEndpoints
  rw [members_mapNodes, List.map_map]
  exact congrArg _ (List.map_congr_left fun n _ => hendpoint n)

end Cluster
end EtcdKit
