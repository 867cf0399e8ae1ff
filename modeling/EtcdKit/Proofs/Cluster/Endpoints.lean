import EtcdKit.Proofs.Cluster.MappedNodes
import EtcdKit.Proofs.Daemon.WrittenFlags
/-!
# Endpoints — one address for clients wherever a member's address is written

The addresses of the members for clients are written in four places: with their scheme and without
it, in the flags of each member, and in the health check, on the host and inside the container.  They
agree member by member (`endpoint_of_lt`, `given_client_urls`), the joined texts give the lists back
(`parts_client_texts`), and the health check asks all members (`given_healthArguments_endpoints`), on
the host and inside the container.
-/
namespace EtcdKit
namespace Cluster

variable {c : Cluster}

/-- A member is a node, and its addresses stand at its place. -/
theorem endpoint_of_lt (c : Cluster) {i : Nat} (hi : i < c.memberCount) :
    ∃ n, c.nodes[i]? = some n ∧ c.clientEndpoints[i]? = some n.clientEndpoint ∧
      c.clientUrls[i]? = some (n.clientUrl c.secure) := by
  have hlength : i < c.nodes.length := Nat.lt_of_lt_of_le hi (Nat.min_le_right _ _)
  have hnode : c.nodes[i]? = some c.nodes[i] := List.getElem?_eq_getElem hlength
  have hmember : c.members[i]? = some c.nodes[i] := by
    unfold members
    rw [List.getElem?_take_of_lt hi, hnode]
  refine ⟨c.nodes[i], hnode, ?_, ?_⟩
  · rw [clientEndpoints, List.getElem?_map, hmember, Option.map_some]
  · rw [clientUrls, List.getElem?_map, hmember, Option.map_some]

/-- **The flags of a member name its own address for clients**, to listen on and to advertise. -/
theorem given_client_urls (c : Cluster) (n : Node) (s : FlagStyle) :
    Flag.given (Daemon.flagTexts c n s) "--advertise-client-urls" = [n.clientUrl c.secure] ∧
      Flag.given (Daemon.flagTexts c n s) "--listen-client-urls" = [n.clientUrl c.secure] := by
  constructor
  all_goals
    apply Daemon.given_flagTexts
    simp [Daemon.flags, Daemon.addressFlags]

/-! ## The joined texts -/

theorem clientEndpoint_ne_empty (n : Node) : n.clientEndpoint ≠ "" := by
  simp [Node.clientEndpoint]

/-- An address for clients has a comma in it only if its host has. -/
theorem comma_not_mem_clientEndpoint {n : Node} (h : ',' ∉ n.address.toList) :
    ',' ∉ n.clientEndpoint.toList := by
  have hport : ',' ∉ (toString n.clientPort.toNat).toList := Text.not_mem_toString (by decide) _
  unfold Node.clientEndpoint
  simp only [String.toList_append, List.mem_append, not_or]
  exact ⟨⟨h, by decide⟩, hport⟩

theorem comma_not_mem_clientUrl (secure : Bool) {n : Node} (h : ',' ∉ n.address.toList) :
    ',' ∉ (n.clientUrl secure).toList := by
  have hscheme : ',' ∉ (scheme secure).toList := by cases secure <;> decide
  unfold Node.clientUrl
  simp only [String.toList_append, List.mem_append, not_or]
  exact ⟨⟨hscheme, by decide⟩, comma_not_mem_clientEndpoint h⟩

/-- **The joined texts give the addresses back** if no host has a comma in it. -/
theorem parts_client_texts (h : ∀ n ∈ c.members, ',' ∉ n.address.toList) :
    Text.parts ',' c.clientEndpointsText = c.clientEndpoints ∧
      Text.parts ',' c.clientUrlsText = c.clientUrls := by
  constructor
  · refine Text.parts_intercalate rfl (fun t ht => ?_) fun t ht => ?_
    all_goals obtain ⟨n, hn, rfl⟩ := List.mem_map.1 ht
    · exact comma_not_mem_clientEndpoint (h n hn)
    · exact clientEndpoint_ne_empty n
  · refine Text.parts_intercalate rfl (fun t ht => ?_) fun t ht => ?_
    all_goals obtain ⟨n, hn, rfl⟩ := List.mem_map.1 ht
    · exact comma_not_mem_clientUrl c.secure (h n hn)
    · simp [Node.clientUrl]

end Cluster

/-! ## The health check -/

namespace Daemon

/-- The health check on the host, segment by segment. -/
def hostSegments (c : Cluster) (n : Node) : List String :=
  ("ETCDCTL_API=3 " ++ Directory.executable c.execDir "etcdctl") ::
    healthArguments c n n.certsPath

/-- The health check inside the container, word by word as far as its values have no blanks. -/
def containerWords (c : Cluster) (n : Node) : List String :=
  "export ETCDCTL_API=3 &&" :: "/usr/local/bin/etcdctl" ::
    healthArguments c n Container.certsDir

/-- The check asks all members, wherever the certificates are. -/
theorem given_healthArguments_endpoints (c : Cluster) (n : Node) (dir : String) :
    Flag.given (healthArguments c n dir) "--endpoints" = [c.clientEndpointsText] :=
  given_healthArguments c n List.mem_cons_self

theorem given_hostSegments (c : Cluster) (n : Node) {name : String} (h : "ETCDCTL_API=3" ≠ name) :
    Flag.given (hostSegments c n) name = Flag.given (healthArguments c n n.certsPath) name := by
  have hblank : ' ' ∉ "ETCDCTL_API=3".toList := by decide
  have hstart : Flag.ofText ("ETCDCTL_API=3 " ++ Directory.executable c.execDir "etcdctl") =
      ⟨"ETCDCTL_API=3", some (Directory.executable c.execDir "etcdctl")⟩ :=
    Flag.ofText_text (f := ⟨"ETCDCTL_API=3", some _⟩) hblank
  unfold Flag.given
  rw [hostSegments, List.map_cons, hstart, Flag.valuesOf_cons_of_ne h]

theorem given_containerWords (c : Cluster) (n : Node) {name : String}
    (h : name ∉ ["export", "/usr/local/bin/etcdctl"]) :
    Flag.given (containerWords c n) name =
      Flag.given (healthArguments c n Container.certsDir) name := by
  rw [List.mem_pair, not_or] at h
  have hstart : Flag.ofText "export ETCDCTL_API=3 &&" = ⟨"export", some "ETCDCTL_API=3 &&"⟩ := by
    decide
  have hprogram : Flag.ofText "/usr/local/bin/etcdctl" = ⟨"/usr/local/bin/etcdctl", none⟩ := by
    decide
  unfold Flag.given
  rw [containerWords, List.map_cons, List.map_cons, hstart, hprogram,
    Flag.valuesOf_cons_of_ne (Ne.symm h.1), Flag.valuesOf_cons_of_ne (Ne.symm h.2)]

/-- The text of the check: that on the host, and for a container that inside it. -/
theorem health_eq (c : Cluster) (n : Node) :
    health c n false = Script.command (hostSegments c n) ∧
      health c n true = Script.command (hostSegments c n) ++
        "\n\n\n# to use 'docker' command to check the status\n" ++
        Script.command ["/usr/bin/docker", "exec", containerName c,
          "/bin/sh -c \"" ++ String.intercalate " " (containerWords c n) ++ "\""] ++ "\n\n" :=
  ⟨rfl, rfl⟩

end Daemon

/-- **Clients are told the same addresses everywhere.**  In every cluster there are as many addresses
as members; the i-th one is that of the i-th node, its form with a scheme is the plain one behind the
scheme, and the flags of that node advertise it and listen on it, in every style.  The texts join the
addresses by commas, and give them back if no host of a member has a comma in it.  A health check, in
the name of whatever node, asks once for the plain text on the host, and once for it in the command
that is run inside the container. -/
theorem Cluster.endpoint_texts_agree (c : Cluster) :
    c.clientEndpoints.length = c.memberCount ∧ c.clientUrls.length = c.memberCount ∧
    (∀ i < c.memberCount, ∃ n endpoint url,
      c.nodes[i]? = some n ∧ c.clientEndpoints[i]? = some endpoint ∧ c.clientUrls[i]? = some url ∧
      url = scheme c.secure ++ "://" ++ endpoint ∧
      ∀ s : FlagStyle,
        Flag.given (Daemon.flagTexts c n s) "--advertise-client-urls" = [url] ∧
        Flag.given (Daemon.flagTexts c n s) "--listen-client-urls" = [url]) ∧
    c.clientEndpointsText = String.intercalate "," c.clientEndpoints ∧
    c.clientUrlsText = String.intercalate "," c.clientUrls ∧
    ((∀ n ∈ c.members, ',' ∉ n.address.toList) →
      Text.parts ',' c.clientEndpointsText = c.clientEndpoints ∧
      Text.parts ',' c.clientUrlsText = c.clientUrls) ∧
    ∀ n : Node, ∃ segments words,
      Flag.given segments "--endpoints" = [c.clientEndpointsText] ∧
      Flag.given words "--endpoints" = [c.clientEndpointsText] ∧
      Daemon.health c n false = Script.command segments ∧
      Daemon.health c n true = Script.command segments ++
        "\n\n\n# to use 'docker' command to check the status\n" ++
        Script.command ["/usr/bin/docker", "exec", Daemon.containerName c,
          "/bin/sh -c \"" ++ String.intercalate " " words ++ "\""] ++ "\n\n" := by
  refine ⟨?_, ?_, fun i hi => ?_, rfl, rfl, parts_client_texts, fun n => ?_⟩
  · rw [clientEndpoints, List.length_map, length_members]
  · rw [clientUrls, List.length_map, length_members]
  · obtain ⟨n, hnode, hendpoint, hurl⟩ := c.endpoint_of_lt hi
    exact ⟨n, _, _, hnode, hendpoint, hurl, rfl, c.given_client_urls n⟩
  · obtain ⟨hhost, hcontainer⟩ := Daemon.health_eq c n
    refine ⟨_, _, ?_, ?_, hhost, hcontainer⟩
    · rw [Daemon.given_hostSegments c n (by decide), Daemon.given_healthArguments_endpoints]
    · rw [Daemon.given_containerWords c n (by decide), Daemon.given_healthArguments_endpoints]

/-- A cluster that declares no member and so has one, with spare nodes of which one lists two hosts. -/
def Cluster.undeclared : Cluster where
  size := 0
  secure := false
  nodes :=
    [{ name := "one", address := "--endpoints x", clientPort := 2379, peerPort := 2380 },
      { name := "two", address := "a,b", clientPort := 4379, peerPort := 4380 }]

theorem Cluster.undeclared_texts_agree :
    (0 < undeclared.memberCount ∧ ∀ n ∈ undeclared.members, ',' ∉ n.address.toList) ∧
      Text.parts ',' undeclared.clientUrlsText = ["http://--endpoints x:2379"] ∧
      ∃ n, undeclared.nodes[0]? = some n ∧
        Flag.given (Daemon.flagTexts undeclared n {}) "--advertise-client-urls" =
          ["http://--endpoints x:2379"] := by
  obtain ⟨-, -, hplaces, -, -, hparts, -⟩ := endpoint_texts_agree undeclared
  have hfirst : 0 < undeclared.memberCount := by decide
  have hplain : ∀ n ∈ undeclared.members, ',' ∉ n.address.toList := by decide
  obtain ⟨n, endpoint, url, hn, -, hurl, -, hgiven⟩ := hplaces 0 hfirst
  cases hurl
  exact ⟨⟨hfirst, hplain⟩, (hparts hplain).2, n, hn, (hgiven _).1⟩

end EtcdKit
