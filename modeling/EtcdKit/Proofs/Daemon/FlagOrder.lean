import EtcdKit.Proofs.Daemon.WrittenFlags
/-!
# FlagOrder — which flags are written, and in which order

Five switches decide which flags a member has; the values of the cluster and of the node decide none of
them (`names_flags`).  What is written keeps the names apart from the values, since a value stands behind
its name and a blank, so a value that looks like a flag is never taken for one (`map_name_flagTexts`,
`not_prefix_of_mem_flagTexts`).
-/
namespace EtcdKit

theorem Flag.exists_text_eq (f : Flag) : ∃ rest, f.text = f.name ++ rest := by
  obtain ⟨name, value⟩ := f
  cases value with
  | none => exact ⟨"", String.append_empty.symm⟩
  | some value => exact ⟨" " ++ value, String.append_assoc⟩

namespace Daemon

def memberNames : List String := ["--name", "--data-dir"]

def addressNames : List String :=
  ["--listen-client-urls", "--advertise-client-urls", "--listen-peer-urls",
    "--initial-advertise-peer-urls"]

def clusterNames : List String :=
  ["--initial-cluster", "--initial-cluster-token", "--initial-cluster-state"]

/-- The names of the flags for encrypted traffic, in order. -/
def encryptionNames : List String :=
  ["--trusted-ca-file", "--cert-file", "--key-file",
    "--peer-trusted-ca-file", "--peer-cert-file", "--peer-key-file",
    "--client-cert-auth", "--peer-client-cert-auth"]

def diagnosisNames : List String := ["--enable-pprof", "--debug", "--auto-compaction-retention"]

theorem flagNames_eq :
    flagNames = memberNames ++ addressNames ++ clusterNames ++ encryptionNames ++ diagnosisNames :=
  rfl

/-- The settings that decide which flags are written. -/
structure Switches where
  dataDir : Bool
  encryption : Bool
  profiling : Bool
  debug : Bool
  compaction : Bool
  deriving DecidableEq, Repr

def switches (c : Cluster) (s : FlagStyle) : Switches where
  dataDir := !s.skipDataDir
  encryption := c.secure
  profiling := c.enableProfile
  debug := c.debug
  compaction := decide (0 < c.compactionRetention)

namespace Switches

/-- The flag of that name is switched on; one that has no switch always is. -/
def allows (w : Switches) (name : String) : Bool :=
  if name = "--data-dir" then w.dataDir
  else if name ∈ encryptionNames then w.encryption
  else if name = "--enable-pprof" then w.profiling
  else if name = "--debug" then w.debug
  else if name = "--auto-compaction-retention" then w.compaction
  else true

variable (w : Switches)

theorem allows_of_mem_encryptionNames {name : String} (h : name ∈ encryptionNames) :
    w.allows name = w.encryption := by
  have hdata : name ≠ "--data-dir" := by
    rintro rfl
    exact absurd h (by decide)
  rw [allows, if_neg hdata, if_pos h]

/-- Flags that are written with every switch off are always written. -/
theorem filter_allows_eq_self {names : List String}
    (h : ∀ name ∈ names, allows ⟨false, false, false, false, false⟩ name = true) :
    names.filter w.allows = names := by
  rw [List.filter_eq_self]
  intro name hname
  have hoff := h name hname
  -- a name with a switch is not written when all are off, which leaves those without
  unfold allows at hoff ⊢
  split_ifs at hoff ⊢
  rfl

theorem filter_encryptionNames :
    encryptionNames.filter w.allows = if w.encryption then encryptionNames else [] := by
  rw [List.filter_congr fun name hname => w.allows_of_mem_encryptionNames hname]
  cases w.encryption <;> rfl

/-- The flags for encrypted traffic stand behind the one for the state of the cluster. -/
theorem filter_flagNames :
    flagNames.filter w.allows =
      (memberNames.filter w.allows ++ addressNames ++
          ["--initial-cluster", "--initial-cluster-token"]) ++
        "--initial-cluster-state" ::
          ((if w.encryption then encryptionNames else []) ++ diagnosisNames.filter w.allows) := by
  have haddress : addressNames.filter w.allows = addressNames :=
    w.filter_allows_eq_self (by decide)
  have hcluster : clusterNames.filter w.allows = clusterNames :=
    w.filter_allows_eq_self (by decide)
  rw [flagNames_eq]
  simp only [List.filter_append, haddress, hcluster, filter_encryptionNames]
  simp [clusterNames]

end Switches

section Member

variable (c : Cluster) (n : Node) (s : FlagStyle)

theorem names_memberFlags :
    (memberFlags n s).map (·.name) = memberNames.filter (switches c s).allows := by
  unfold memberFlags
  cases hs : s.skipDataDir <;>
    simp [memberNames, Switches.allows, encryptionNames, switches, hs]

theorem names_encryptionFlags (dir : String) :
    (encryptionFlags c n dir).map (·.name) = if c.secure then encryptionNames else [] := by
  unfold encryptionFlags
  cases c.secure <;> rfl

theorem names_diagnosisFlags :
    (diagnosisFlags c).map (·.name) = diagnosisNames.filter (switches c s).allows := by
  unfold diagnosisFlags
  by_cases hr : c.compactionRetention = 0
  · cases hp : c.enableProfile <;> cases hd : c.debug <;>
      simp [diagnosisNames, Switches.allows, encryptionNames, switches, hr, hp, hd]
  · have hpos : 0 < c.compactionRetention := UInt32.pos_iff_ne_zero.2 hr
    cases hp : c.enableProfile <;> cases hd : c.debug <;>
      simp [diagnosisNames, Switches.allows, encryptionNames, switches, hr, hpos, hp, hd]

/-- **The switches decide which flags there are**, in the one order of all flags. -/
theorem names_flags : (flags c n s).map (·.name) = flagNames.filter (switches c s).allows := by
  have haddress : (addressFlags c n).map (·.name) = addressNames := rfl
  have hcluster : (clusterFlags c n).map (·.name) = clusterNames := rfl
  have hencryption : (switches c s).encryption = c.secure := rfl
  unfold flags
  simp only [List.map_append, names_memberFlags c n s, haddress, hcluster,
    names_encryptionFlags, names_diagnosisFlags c s]
  rw [Switches.filter_flagNames, hencryption]
  simp [clusterNames]

/-- **The first blank ends the name**, whatever stands behind it. -/
theorem map_name_flagTexts :
    (flagTexts c n s).map (fun t => (Flag.ofText t).name) =
      flagNames.filter (switches c s).allows := by
  have hread := map_ofText_flagTexts c n s
  have hnames := names_flags c n s
  rw [← hread, List.map_map] at hnames
  exact hnames

/-- Every written flag starts with the name of one that is switched on. -/
theorem exists_name_of_mem_flagTexts {t : String} (ht : t ∈ flagTexts c n s) :
    ∃ name ∈ flagNames.filter (switches c s).allows, ∃ rest, t = name ++ rest := by
  obtain ⟨f, hf, rfl⟩ := List.mem_map.1 ht
  refine ⟨f.name, ?_, f.exists_text_eq⟩
  rw [← names_flags c n s]
  exact List.mem_map_of_mem hf

/-- **No flag of a cluster without encryption starts like one for encrypted traffic.** -/
theorem not_prefix_of_mem_flagTexts (hs : c.secure = false) {t name : String}
    (ht : t ∈ flagTexts c n s) (hname : name ∈ encryptionNames) : ¬ name.toList <+: t.toList := by
  obtain ⟨other, hother, rest, rfl⟩ := exists_name_of_mem_flagTexts c n s ht
  obtain ⟨hflag, hallowed⟩ := List.mem_filter.1 hother
  have hplain : other ∉ encryptionNames := by
    intro hin
    have hsecure : c.secure = true := by
      rw [Switches.allows_of_mem_encryptionNames _ hin] at hallowed
      exact hallowed
    rw [hs] at hsecure
    cases hsecure
  have hapart : ∀ a ∈ encryptionNames, ∀ b ∈ flagNames, b ∉ encryptionNames → Text.Apart a b := by
    decide
  exact Text.not_prefix_append (hapart name hname other hflag hplain) rest

end Member

/-- **The names of the written flags follow the switches and nothing else.**  Up to the first blank of
each, the flags of a member are those of the one order that are switched on, once each; the flags for
encrypted traffic stand together behind the one for the state of the cluster, exactly in a secure cluster,
and in any other no flag starts like one of them.  Clusters, nodes and styles with the same switches have
the same names. -/
theorem flag_names_follow_switches (c : Cluster) (n : Node) (s : FlagStyle) :
    let names := (flagTexts c n s).map fun t => (Flag.ofText t).name
    names = flagNames.filter (switches c s).allows ∧
      names.Nodup ∧
      (c.secure = true ↔
        ∃ front back, names = front ++ "--initial-cluster-state" :: (encryptionNames ++ back)) ∧
      (c.secure = false →
        ∀ t ∈ flagTexts c n s, ∀ name ∈ encryptionNames, ¬ name.toList <+: t.toList) ∧
      ∀ (c' : Cluster) (n' : Node) (s' : FlagStyle), switches c' s' = switches c s →
        ((flagTexts c' n' s').map fun t => (Flag.ofText t).name) = names := by
  intro names
  have hnames : names = flagNames.filter (switches c s).allows := map_name_flagTexts c n s
  have horder : flagNames.Nodup := by decide
  refine ⟨hnames, ?_, ⟨fun hs => ?_, ?_⟩, fun hs t ht name hname => ?_, fun c' n' s' hsame => ?_⟩
  · rw [hnames]
    exact horder.filter _
  · rw [hnames, Switches.filter_flagNames]
    have hon : (switches c s).encryption = true := hs
    rw [if_pos hon]
    exact ⟨_, _, rfl⟩
  · rintro ⟨front, back, hsplit⟩
    have hroot : "--trusted-ca-file" ∈ encryptionNames := List.mem_cons_self
    have hmem : "--trusted-ca-file" ∈ flagNames.filter (switches c s).allows := by
      rw [← hnames, hsplit]
      simp [hroot]
    have hallowed := (List.mem_filter.1 hmem).2
    rw [Switches.allows_of_mem_encryptionNames _ hroot] at hallowed
    exact hallowed
  · exact not_prefix_of_mem_flagTexts c n s hs ht hname
  · rw [map_name_flagTexts c' n' s', hsame, hnames]

/-- A node whose values look like flags. -/
def disguisedNode : Node where
  name := "--cert-file /x --key-file"
  dataDir := some "--peer-cert-file"
  address := "--trusted-ca-file"
  clientPort := 2379
  peerPort := 2380
  token := "--client-cert-auth"

def disguised : Cluster where
  size := 1
  secure := false
  debug := true
  compactionRetention := 1
  nodes := [disguisedNode]

theorem disguised_names_follow_switches :
    (disguised.secure = false ∧
      "--initial-cluster-token --client-cert-auth" ∈ flagTexts disguised disguisedNode {} ∧
      "--client-cert-auth" ∈ encryptionNames ∧
      switches { disguised with compactionRetention := 9 } { containerized := true } =
        switches disguised {}) ∧
    ((flagTexts disguised disguisedNode {}).map fun t => (Flag.ofText t).name) =
      ["--name", "--data-dir", "--listen-client-urls", "--advertise-client-urls",
        "--listen-peer-urls", "--initial-advertise-peer-urls", "--initial-cluster",
        "--initial-cluster-token", "--initial-cluster-state", "--debug",
        "--auto-compaction-retention"] ∧
    ¬ "--client-cert-auth".toList <+: "--initial-cluster-token --client-cert-auth".toList ∧
    ((flagTexts { disguised with compactionRetention := 9 } disguisedNode
        { containerized := true }).map fun t => (Flag.ofText t).name) =
      (flagTexts disguised disguisedNode {}).map fun t => (Flag.ofText t).name := by
  obtain ⟨hnames, -, -, hplain, hsame⟩ := flag_names_follow_switches disguised disguisedNode {}
  have htoken : "--initial-cluster-token --client-cert-auth" ∈
      flagTexts disguised disguisedNode {} := by decide
  have hencryption : "--client-cert-auth" ∈ encryptionNames := by decide
  have hswitches : switches { disguised with compactionRetention := 9 } { containerized := true } =
      switches disguised {} := by decide
  refine ⟨⟨rfl, htoken, hencryption, hswitches⟩, ?_, ?_, ?_⟩
  · rw [hnames]
    decide
  · exact hplain rfl _ htoken _ hencryption
  · exact hsame _ _ _ hswitches

end Daemon
end EtcdKit
