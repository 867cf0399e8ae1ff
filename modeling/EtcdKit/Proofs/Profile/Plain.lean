import EtcdKit.Certificates.Request
import EtcdKit.Profile.Basic
import EtcdKit.Proofs.Profile.Unbroken
import EtcdKit.Service.Operated
/-!
# Plain — profiles whose values stand on one line and redirect nothing

Scripts are made of the values of a profile.  A profile is plain if each of these is inert, but that the
further hosts of its certificates may hold anything: they are taken apart into lines before any of them
is written.
-/
namespace EtcdKit

open Script

/-- The values of a node that scripts are made of are inert. -/
structure Node.Plain (n : Node) : Prop where
  name : Inert n.name
  dataDir : ∀ dir, n.dataDir = some dir → Inert dir
  certsDir : ∀ dir, n.certsDir = some dir → Inert dir
  address : Inert n.address
  token : Inert n.token

/-- The same for a cluster and its nodes. -/
structure Cluster.Plain (c : Cluster) : Prop where
  version : Inert c.version
  execDir : Inert c.execDir
  rootPrefix : Inert c.rootPrefix
  nodes : ∀ n ∈ c.nodes, n.Plain

/-- The same for a certificate authority; its further hosts may stand on any number of lines and hold
anything. -/
structure CertificateAuthority.Plain (ca : CertificateAuthority) : Prop where
  arch : Inert ca.arch
  version : Inert ca.version
  execDir : Inert ca.execDir
  certsDir : Inert ca.certsDir
  rootPrefix : Inert ca.rootPrefix
  signingFile : Inert ca.signingFile
  organization : Inert ca.organization
  organizationUnit : Inert ca.organizationUnit
  city : Inert ca.city
  state : Inert ca.state
  country : Inert ca.country
  keyAlgorithm : Inert ca.keyAlgorithm
  commonName : Inert ca.commonName

structure Rkt.Plain (r : Rkt) : Prop where
  version : Inert r.version
  execDir : Inert r.execDir
  trustPrefix : Inert r.trustPrefix
  trustKey : Inert r.trustKey
  customImage : Inert r.customImage

structure Operator.Plain (o : Operator) : Prop where
  name : Inert o.name
  storageType : Inert o.storageType

/-- No value of the profile that scripts are made of goes over several lines or redirects a
here-document, but that the further hosts of certificates are free. -/
structure Profile.Plain (p : Profile) : Prop where
  cluster : p.cluster.Plain
  certificates : p.certificates.Plain
  rkt : p.rkt.Plain
  operator : p.operator.Plain

namespace Node.Plain

variable {n : Node} (h : n.Plain)
include h

theorem dataPath : Inert n.dataPath := inert_strip? h.dataDir

theorem certsPath : Inert n.certsPath := inert_strip? h.certsDir

theorem quiet_title {word : String} (hword : Calm word) : Quiet (word ++ n.name) :=
  (quiet_calm_append hword).2 h.name.2

theorem clientEndpoint : Inert n.clientEndpoint :=
  h.address.between (inert_toString _) (word_ofList _ rfl)

theorem unbroken : n.Unbroken where
  name := h.name.1
  dataDir := fun dir hdir => (h.dataDir dir hdir).1
  certsDir := fun dir hdir => (h.certsDir dir hdir).1
  address := h.address.1
  token := h.token.1

end Node.Plain

theorem Rkt.Plain.unbroken {r : Rkt} (h : r.Plain) : r.Unbroken where
  version := h.version.1
  execDir := h.execDir.1
  customImage := h.customImage.1

theorem Cluster.mem_of_nodeOrFirst {c : Cluster} {name : Option String} {n : Node}
    (h : c.nodeOrFirst name = .ok n) : n ∈ c.nodes := by
  cases name with
  | none =>
    unfold nodeOrFirst at h
    cases hnodes : c.nodes with
    | nil => simp [hnodes] at h
    | cons m ms =>
      simp only [hnodes, Except.ok.injEq] at h
      exact h ▸ List.mem_cons_self
  | some name =>
    unfold nodeOrFirst node at h
    cases hfind : c.nodes.find? (fun n => n.name == name) with
    | none => simp [hfind] at h
    | some m =>
      simp only [hfind, Except.ok.injEq] at h
      exact h ▸ List.mem_of_find?_eq_some hfind

namespace Cluster.Plain

variable {c : Cluster} (h : c.Plain)
include h

theorem members : ∀ n ∈ c.members, n.Plain := fun n hn => h.nodes n (List.mem_of_mem_take hn)

theorem of_nodeOrFirst {name : Option String} {n : Node} (hn : c.nodeOrFirst name = .ok n) : n.Plain :=
  h.nodes n (Cluster.mem_of_nodeOrFirst hn)

theorem unbroken : c.Unbroken where
  version := h.version.1
  execDir := h.execDir.1
  rootPrefix := h.rootPrefix.1
  nodes := fun n hn => (h.nodes n hn).unbroken

theorem clientEndpointsText : Quiet c.clientEndpointsText := by
  refine (quiet_intercalate (calm_ofList _ rfl) _).2 fun endpoint hendpoint => ?_
  obtain ⟨n, hn, rfl⟩ := List.mem_map.1 hendpoint
  exact (h.members n hn).clientEndpoint.2

theorem imageVersion : Inert (Operator.imageVersion c) := h.version.of_part (bare_part c.version)

end Cluster.Plain

/-- The hosts of a certificate stand on lines of their own, wherever the further ones come from. -/
theorem oneLine_certificateHosts {address extraHosts : String} (h : OneLine address) :
    ∀ host ∈ certificateHosts (address :: Text.lines extraHosts), OneLine host := by
  intro host hhost
  rcases List.mem_append.1 hhost with hloop | hgiven
  · have hloopback : ∀ host ∈ loopbackHosts, OneLine host :=
      List.forall_mem_cons.2 ⟨oneLine_ofList _ rfl,
        List.forall_mem_singleton.2 (oneLine_ofList _ rfl)⟩
    exact hloopback host hloop
  · rcases List.mem_cons.1 (List.mem_filter.1 hgiven).1 with rfl | hline
    · exact h
    · exact Text.not_mem_of_mem_lines hline

end EtcdKit
