import EtcdKit.Cluster
import EtcdKit.Proofs.Script.Fragments
import EtcdKit.Tools
/-!
# Unbroken — values that stand on one line each

Commands are made of the values of a cluster, of a node and of the runtime for images.  If none of them
holds a line end, neither does anything that is derived from them on the way to a command.
-/
namespace EtcdKit

open Script

/-- No value of the node that commands are made of holds a line end. -/
structure Node.Unbroken (n : Node) : Prop where
  name : OneLine n.name
  dataDir : ∀ dir, n.dataDir = some dir → OneLine dir
  certsDir : ∀ dir, n.certsDir = some dir → OneLine dir
  address : OneLine n.address
  token : OneLine n.token

/-- The same for a cluster and its nodes. -/
structure Cluster.Unbroken (c : Cluster) : Prop where
  version : OneLine c.version
  execDir : OneLine c.execDir
  rootPrefix : OneLine c.rootPrefix
  nodes : ∀ n ∈ c.nodes, n.Unbroken

structure Rkt.Unbroken (r : Rkt) : Prop where
  version : OneLine r.version
  execDir : OneLine r.execDir
  customImage : OneLine r.customImage

theorem oneLine_url (secure : Bool) {endpoint : String} (h : OneLine endpoint) :
    OneLine (scheme secure ++ "://" ++ endpoint) := by
  have hscheme : OneLine (scheme secure) := by
    unfold scheme
    split <;> exact oneLine_ofList _ rfl
  exact oneLine_append.2 ⟨oneLine_append.2 ⟨hscheme, oneLine_ofList _ rfl⟩, h⟩

theorem bare_part (version : String) :
    (match version.toList with | 'v' :: rest => String.ofList rest | _ => version).toList <:+:
      version.toList := by
  split
  · rename_i rest hrest
    rw [String.toList_ofList, hrest]
    exact (List.suffix_cons 'v' rest).isInfix
  · exact List.infix_rfl

theorem Rkt.Unbroken.bareVersion {r : Rkt} (h : r.Unbroken) : OneLine r.bareVersion :=
  h.version.of_part (bare_part r.version)

namespace Node.Unbroken

variable {n : Node} (h : n.Unbroken)
include h

theorem dataPath : OneLine n.dataPath := oneLine_strip? h.dataDir

theorem certsPath : OneLine n.certsPath := oneLine_strip? h.certsDir

theorem clientUrl (secure : Bool) : OneLine (n.clientUrl secure) := by
  have hport : OneLine (toString n.clientPort.toNat) := (inert_toString _).1
  refine oneLine_url secure ?_
  exact oneLine_append.2 ⟨oneLine_append.2 ⟨h.address, oneLine_ofList _ rfl⟩, hport⟩

theorem peerUrl (secure : Bool) : OneLine (n.peerUrl secure) := by
  have hport : OneLine (toString n.peerPort.toNat) := (inert_toString _).1
  refine oneLine_url secure ?_
  exact oneLine_append.2 ⟨oneLine_append.2 ⟨h.address, oneLine_ofList _ rfl⟩, hport⟩

end Node.Unbroken

theorem Cluster.Unbroken.initialClusterText {c : Cluster} (h : c.Unbroken) :
    OneLine c.initialClusterText := by
  unfold Cluster.initialClusterText
  split
  · exact oneLine_ofList _ rfl
  · refine oneLine_intercalate (oneLine_ofList _ rfl) fun entry hentry => ?_
    obtain ⟨n, hn, rfl⟩ := List.mem_map.1 hentry
    have hnode : n.Unbroken := h.nodes n (List.mem_of_mem_take hn)
    unfold memberEntry
    rw [oneLine_append, oneLine_append]
    exact ⟨⟨hnode.name, oneLine_ofList _ rfl⟩, hnode.peerUrl c.secure⟩

end EtcdKit
