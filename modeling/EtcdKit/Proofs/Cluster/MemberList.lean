import EtcdKit.Proofs.Cluster.Validity
import EtcdKit.Proofs.Daemon.WrittenFlags
/-!
# MemberList — the member list names each member once, with its own address

The members write their names and addresses into one text, and a daemon that starts looks its own
entry up in it.  The text is read back entry by entry (`memberList?_initialClusterText`), so the
daemon finds its entry, finds it once, and finds there the address that it was told to listen on.
The note that stands in place of the list of a cluster that is too large is never such a text.
-/
namespace EtcdKit
namespace Cluster

/-- The names and addresses that a member list writes; none if an entry has no name. -/
def memberList? (text : String) : Option (List (String × String)) :=
  (Text.splitAll ',' text).mapM (Text.splitFirst? '=')

variable {c : Cluster}

/-! ## The list and the note -/

theorem initialClusterText_of_le (h : c.size.toNat ≤ 7) :
    c.initialClusterText = String.intercalate "," (c.members.map c.memberEntry) := by
  unfold initialClusterText
  rw [oversize_eq_false_iff.2 h]
  rfl

/-- Every list has a joint between a name and an address in it. -/
theorem equals_mem_intercalate (c : Cluster) : ∀ {ns : List Node}, ns ≠ [] →
    '=' ∈ (String.intercalate "," (ns.map c.memberEntry)).toList
  | [n], _ => by simp [memberEntry]
  | n :: m :: ns, _ => by simp [memberEntry]

/-- **The note is no member list**: it stands exactly where the declared size is too large. -/
theorem initialClusterText_eq_note_iff (hc : c.fault? = none) :
    c.initialClusterText = oversizeNote ↔ 7 < c.size.toNat := by
  constructor
  · intro he
    by_contra hsize
    have h : c.size.toNat ≤ 7 := Nat.not_lt.1 hsize
    have hmem := equals_mem_intercalate c (members_ne_nil hc h)
    rw [← initialClusterText_of_le h, he] at hmem
    exact absurd hmem (by decide)
  · intro hsize
    unfold initialClusterText
    rw [oversize_eq_true_iff.2 hsize]
    rfl

/-! ## Reading the list -/

/-- An address has a comma in it only if its host has. -/
theorem comma_not_mem_peerUrl (secure : Bool) {n : Node} (h : ',' ∉ n.address.toList) :
    ',' ∉ (n.peerUrl secure).toList := by
  have hport : ',' ∉ (toString n.peerPort.toNat).toList := Text.not_mem_toString (by decide) _
  unfold Node.peerUrl Node.peerEndpoint scheme
  simp only [String.toList_append, List.mem_append, not_or]
  refine ⟨⟨?_, by decide⟩, ⟨h, by decide⟩, hport⟩
  cases secure <;> decide

theorem splitFirst?_memberEntry (c : Cluster) {n : Node} (h : '=' ∉ n.name.toList) :
    Text.splitFirst? '=' (c.memberEntry n) = some (n.name, n.peerUrl c.secure) :=
  Text.splitFirst?_append rfl h _

theorem mapM_splitFirst?_memberEntry (c : Cluster) : ∀ {ns : List Node},
    (∀ n ∈ ns, '=' ∉ n.name.toList) →
      (ns.map c.memberEntry).mapM (Text.splitFirst? '=') =
        some (ns.map fun n => (n.name, n.peerUrl c.secure))
  | [], _ => rfl
  | n :: ns, h => by
    have hn := splitFirst?_memberEntry c (h n List.mem_cons_self)
    have hns := mapM_splitFirst?_memberEntry c fun m hm => h m (List.mem_cons_of_mem n hm)
    rw [List.map_cons, List.mapM_cons, hn, hns]
    rfl

/-- **A member list is read back**: its entries are the names and addresses of the members. -/
theorem memberList?_initialClusterText (hc : c.fault? = none) (h : c.size.toNat ≤ 7)
    (hplain : ∀ n ∈ c.nodes, ',' ∉ n.name.toList ∧ '=' ∉ n.name.toList ∧ ',' ∉ n.address.toList) :
    memberList? c.initialClusterText =
      some (c.members.map fun n => (n.name, n.peerUrl c.secure)) := by
  have hmember : ∀ n ∈ c.members, n ∈ c.nodes := fun n hn => List.mem_of_mem_take hn
  unfold memberList?
  rw [initialClusterText_of_le h, Text.splitAll_intercalate rfl]
  · exact mapM_splitFirst?_memberEntry c fun n hn => (hplain n (hmember n hn)).2.1
  · simpa using members_ne_nil hc h
  · intro entry he
    obtain ⟨n, hn, rfl⟩ := List.mem_map.1 he
    obtain ⟨hname, -, haddress⟩ := hplain n (hmember n hn)
    unfold memberEntry
    simp only [String.toList_append, List.mem_append, not_or]
    exact ⟨⟨hname, by decide⟩, comma_not_mem_peerUrl c.secure haddress⟩

/-- **A member has one entry** among those of the members, if names stand once each. -/
theorem filter_name_entries (secure : Bool) {n : Node} : ∀ {ns : List Node},
    (ns.map (·.name)).Nodup → n ∈ ns →
      (ns.map fun m => (m.name, m.peerUrl secure)).filter (fun entry => entry.1 == n.name) =
        [(n.name, n.peerUrl secure)]
  | m :: ns, hd, hn => by
    rw [List.map_cons, List.nodup_cons] at hd
    rw [List.map_cons, List.filter_cons]
    rcases List.mem_cons.1 hn with rfl | hn
    · have hrest : (ns.map fun m => (m.name, m.peerUrl secure)).filter
          (fun entry => entry.1 == n.name) = [] := by
        rw [List.filter_eq_nil_iff]
        intro entry he heq
        obtain ⟨m, hm, rfl⟩ := List.mem_map.1 he
        exact hd.1 (List.mem_map.2 ⟨m, hm, by simpa using heq⟩)
      rw [hrest, if_pos (beq_self_eq_true n.name)]
    · have hne : ¬ (m.name == n.name) = true := by
        intro heq
        exact hd.1 (List.mem_map.2 ⟨n, hn, (by simpa using heq : m.name = n.name).symm⟩)
      rw [if_neg hne]
      exact filter_name_entries secure hd.2 hn

/-- **Every member finds itself in the member list.**  In a valid cluster the note stands in place
of the list exactly if the declared size is too large.  Otherwise, if no name has a comma or an
equals sign in it and no address a comma, the list gives back the names and addresses of the first
nodes, as many as declared and one at least, under different names; and the flags of each of these
members, in any style, give it this one list, in which its own name stands once, with the address
that the member listens on and advertises. -/
theorem initialCluster_names_members (c : Cluster) (hc : c.fault? = none) :
    (c.initialClusterText = oversizeNote ↔ 7 < c.size.toNat) ∧
    (c.size.toNat ≤ 7 →
      (∀ n ∈ c.nodes, ',' ∉ n.name.toList ∧ '=' ∉ n.name.toList ∧ ',' ∉ n.address.toList) →
      let members := c.nodes.take (max c.size.toNat 1)
      let entries := members.map fun n => (n.name, n.peerUrl c.secure)
      memberList? c.initialClusterText = some entries ∧
        members.length = max c.size.toNat 1 ∧
        (entries.map Prod.fst).Nodup ∧
        ∀ n ∈ members, ∀ s : FlagStyle,
          let given := Flag.given (Daemon.flagTexts c n s)
          ∃ url,
            given "--name" = [n.name] ∧
            given "--initial-cluster" = [c.initialClusterText] ∧
            entries.filter (fun entry => entry.1 == n.name) = [(n.name, url)] ∧
            given "--initial-advertise-peer-urls" = [url] ∧
            given "--listen-peer-urls" = [url]) := by
  refine ⟨initialClusterText_eq_note_iff hc, fun h hplain => ?_⟩
  obtain ⟨hmembers, hle⟩ := members_eq_take hc h
  have hnames := nodup_names_members hc
  have hlist := memberList?_initialClusterText hc h hplain
  rw [hmembers] at hnames hlist
  intro members entries
  refine ⟨hlist, ?_, ?_, fun n hn s => ?_⟩
  · exact List.length_take_of_le hle
  · have hfst : entries.map Prod.fst = members.map (·.name) := by
      rw [List.map_map]
      rfl
    rw [hfst]
    exact hnames
  · refine ⟨n.peerUrl c.secure, ?_, ?_, filter_name_entries c.secure hnames hn, ?_, ?_⟩
    all_goals
      apply Daemon.given_flagTexts
      simp [Daemon.flags, Daemon.memberFlags, Daemon.addressFlags, Daemon.clusterFlags]

/-- Two members whose names and addresses look like flags and entries, and a spare node. -/
def lookalikes : Cluster where
  size := 2
  secure := false
  nodes :=
    [{ name := "east 1", address := "[::1]", clientPort := 2379, peerPort := 2380 },
      { name := "--name", address := "zone=b", clientPort := 4379, peerPort := 4380 },
      { name := "spare", address := "localhost", clientPort := 5379, peerPort := 5380 }]

theorem lookalikes_names_members :
    lookalikes.fault? = none ∧ lookalikes.size.toNat ≤ 7 ∧
      (∀ n ∈ lookalikes.nodes,
        ',' ∉ n.name.toList ∧ '=' ∉ n.name.toList ∧ ',' ∉ n.address.toList) ∧
      memberList? lookalikes.initialClusterText =
        some [("east 1", "http://[::1]:2380"), ("--name", "http://zone=b:4380")] :=
  ⟨by decide, by decide, by decide,
    ((initialCluster_names_members lookalikes (by decide)).2 (by decide) (by decide)).1⟩

end Cluster
end EtcdKit
