import EtcdKit.Daemon.Flags
import EtcdKit.Proofs.Profile.Unbroken
import EtcdKit.Proofs.Text.Separators
/-!
# Continuation — flags on many lines and on one are the same flags

The flags of a member stand on one line each where a command is continued from line to line, and on one
line together where it is not.  The line end in a continuation tells it apart from everything that the
values of a profile could be mistaken for, so the flags are read back from the lines
(`splitText_flagsText`), and a blank in place of every continuation makes one text of the other.
-/
namespace EtcdKit
namespace Daemon

open Script

variable {c : Cluster} {n : Node}

theorem oneLine_flagTexts (hc : c.Unbroken) (hn : n.Unbroken) (s : FlagStyle) :
    ∀ t ∈ flagTexts c n s, OneLine t := by
  have hdata : OneLine (dataDir n s) := by
    unfold dataDir
    split
    · exact oneLine_ofList _ rfl
    · exact hn.dataPath
  have hcerts : OneLine (certsDir n s) := by
    unfold certsDir
    split
    · exact oneLine_ofList _ rfl
    · exact hn.certsPath
  have hname := hn.name
  have htoken := hn.token
  have hroot := hc.rootPrefix
  have hstart := hc.initialClusterText
  have hclient := hn.clientUrl c.secure
  have hpeer := hn.peerUrl c.secure
  have hretention : OneLine c.compactionRetention.toNat.repr := (inert_toString _).1
  have hstate : OneLine n.state.text := by cases n.state <;> exact oneLine_ofList _ rfl
  simp only [flagTexts, flags, memberFlags, addressFlags, clusterFlags, encryptionFlags,
    diagnosisFlags, List.map_append, List.forall_mem_append]
  -- a goal for each group of flags, and two for a group that only some clusters have
  refine ⟨⟨⟨⟨?_, ?_⟩, ?_⟩, ?_⟩, ⟨?_, ?_⟩, ?_⟩
  all_goals try split
  all_goals
    simp (disch := first | assumption | exact oneLine_ofList _ rfl) [Flag.text, Cluster.rootFile,
      Node.certFile, Node.keyFile, oneLine_append, oneLine_true]

theorem flagTexts_ne_nil (c : Cluster) (n : Node) (s : FlagStyle) : flagTexts c n s ≠ [] :=
  List.cons_ne_nil _ _

/-- The segments of the command: the program stands in front of the first flag. -/
def commandTexts (c : Cluster) (n : Node) (s : FlagStyle) : List String :=
  match flagTexts c n s with
  | [] => [Directory.executable c.execDir "etcd"]
  | first :: rest => (Directory.executable c.execDir "etcd" ++ " " ++ first) :: rest

theorem command_eq (c : Cluster) (n : Node) (s : FlagStyle) :
    command c n s = String.intercalate s.separator (commandTexts c n s) := by
  obtain ⟨first, rest, hrest⟩ := List.exists_cons_of_ne_nil (flagTexts_ne_nil c n s)
  unfold command flagsText commandTexts
  rw [hrest, String.intercalate_cons_append]

theorem oneLine_commandTexts (hc : c.Unbroken) (hn : n.Unbroken) (s : FlagStyle) :
    ∀ t ∈ commandTexts c n s, OneLine t := by
  have hprogram : OneLine (Directory.executable c.execDir "etcd") :=
    oneLine_executable hc.execDir (oneLine_ofList _ rfl)
  have hflags := oneLine_flagTexts hc hn s
  obtain ⟨first, rest, hrest⟩ := List.exists_cons_of_ne_nil (flagTexts_ne_nil c n s)
  rw [hrest, List.forall_mem_cons] at hflags
  unfold commandTexts
  rw [hrest, List.forall_mem_cons]
  refine ⟨oneLine_append.2 ⟨oneLine_append.2 ⟨hprogram, oneLine_ofList _ rfl⟩, hflags.1⟩, hflags.2⟩

theorem lineEnd_mem_continuation : '\n' ∈ continuation.toList := by decide

theorem separator_of_many {s : FlagStyle} (hs : s.oneLine = false) : s.separator = continuation := by
  unfold FlagStyle.separator
  rw [hs]
  rfl

/-- **The flags are read back** from the lines that they stand on. -/
theorem splitText_flagsText (hc : c.Unbroken) (hn : n.Unbroken) {s : FlagStyle}
    (hs : s.oneLine = false) :
    Text.splitText continuation (flagsText c n s) = flagTexts c n s := by
  unfold flagsText
  rw [separator_of_many hs]
  exact Text.splitText_intercalate lineEnd_mem_continuation (flagTexts_ne_nil c n s)
    (oneLine_flagTexts hc hn s)

/-- **Flags on many lines and on one are the same flags.**  If no value of the cluster or of the node
holds a line end, then the flags that are written on many lines are given back by taking the text apart
at the continuations, and a blank in place of each of them gives the text on one line, which holds no
line end; it makes the command on one line of the command on many, too. -/
theorem continued_flags_read_back (hc : c.Unbroken) (hn : n.Unbroken) {many one : FlagStyle}
    (hmany : many.oneLine = false) (hone : one = { many with oneLine := true }) :
    Text.splitText continuation (flagsText c n many) = flagTexts c n many ∧
      flagTexts c n one = flagTexts c n many ∧
      Text.replaceText continuation " " (flagsText c n many) = flagsText c n one ∧
      '\n' ∉ (flagsText c n one).toList ∧
      Text.replaceText continuation " " (command c n many) = command c n one := by
  have hflags : flagTexts c n one = flagTexts c n many := by
    rw [hone]
    rfl
  have hcommand : commandTexts c n one = commandTexts c n many := by
    unfold commandTexts
    rw [hflags]
  have hblank : one.separator = " " := by
    rw [hone]
    rfl
  have hlines := oneLine_flagTexts hc hn many
  refine ⟨splitText_flagsText hc hn hmany, hflags, ?_, ?_, ?_⟩
  · unfold flagsText
    rw [separator_of_many hmany, hblank, hflags]
    exact Text.replaceText_intercalate lineEnd_mem_continuation " " hlines
  · unfold flagsText
    rw [hblank, hflags]
    exact oneLine_intercalate (oneLine_ofList _ rfl) hlines
  · have hsegments := oneLine_commandTexts hc hn many
    rw [command_eq, command_eq, separator_of_many hmany, hblank, hcommand]
    exact Text.replaceText_intercalate lineEnd_mem_continuation " " hsegments

/-- A node whose values end like the front of a continuation, or start like its end. -/
def raggedNode : Node where
  name := "east \\"
  dataDir := some "    /data \\"
  address := "\\ "
  clientPort := 2379
  peerPort := 2380
  token := "    \\ "

def ragged : Cluster where
  size := 1
  execDir := "/opt/etcd \\"
  secure := false
  nodes := [raggedNode]

theorem unbroken_raggedNode : raggedNode.Unbroken where
  name := by decide
  dataDir := by simp [raggedNode, OneLine]
  certsDir := by simp [raggedNode]
  address := by decide
  token := by decide

theorem unbroken_ragged : ragged.Unbroken where
  version := by decide
  execDir := by decide
  rootPrefix := by decide
  nodes := List.forall_mem_singleton.2 unbroken_raggedNode

theorem ragged_flags_read_back :
    (ragged.Unbroken ∧ raggedNode.Unbroken ∧ FlagStyle.oneLine {} = false ∧
      ({ oneLine := true } : FlagStyle) = { ({} : FlagStyle) with oneLine := true }) ∧
    Text.splitText continuation (flagsText ragged raggedNode {}) =
      ["--name east \\", "--data-dir     /data \\", "--listen-client-urls http://\\ :2379",
        "--advertise-client-urls http://\\ :2379", "--listen-peer-urls http://\\ :2380",
        "--initial-advertise-peer-urls http://\\ :2380",
        "--initial-cluster east \\=http://\\ :2380", "--initial-cluster-token     \\ ",
        "--initial-cluster-state new"] ∧
    Text.replaceText continuation " " (command ragged raggedNode {}) =
      command ragged raggedNode { oneLine := true } := by
  obtain ⟨hread, -, -, -, hcommand⟩ :=
    @continued_flags_read_back _ _ unbroken_ragged unbroken_raggedNode {} _ rfl rfl
  exact ⟨⟨unbroken_ragged, unbroken_raggedNode, rfl, rfl⟩, hread, hcommand⟩

end Daemon
end EtcdKit
