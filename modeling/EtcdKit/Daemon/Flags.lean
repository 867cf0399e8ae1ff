import EtcdKit.Cluster
import EtcdKit.Script.Basic
/-!
# Flags — the flags that the daemon of a member is started with

The flags stand in one order: the member, its addresses, the cluster, encrypted traffic, and what is
switched on for diagnosis.
-/
namespace EtcdKit

structure Flag where
  name : String
  value : Option String := none
  deriving DecidableEq, Repr

def Flag.text (f : Flag) : String :=
  match f.value with
  | none => f.name
  | some value => f.name ++ " " ++ value

structure FlagStyle where
  skipDataDir : Bool := false
  oneLine : Bool := false
  /-- Directories are those inside the container of the daemon. -/
  containerized : Bool := false
  deriving DecidableEq, Repr

def FlagStyle.separator (s : FlagStyle) : String :=
  if s.oneLine then " " else Script.continuation

namespace Container

def dataDir : String := "/etcd-data"

def certsDir : String := "/etcd-ssl-certs-dir"

end Container

namespace Daemon

def dataDir (n : Node) (s : FlagStyle) : String :=
  if s.containerized then Container.dataDir else n.dataPath

def certsDir (n : Node) (s : FlagStyle) : String :=
  if s.containerized then Container.certsDir else n.certsPath

def memberFlags (n : Node) (s : FlagStyle) : List Flag :=
  ⟨"--name", some n.name⟩ ::
    (if s.skipDataDir then [] else [⟨"--data-dir", some (dataDir n s)⟩])

def addressFlags (c : Cluster) (n : Node) : List Flag :=
  [⟨"--listen-client-urls", some (n.clientUrl c.secure)⟩,
    ⟨"--advertise-client-urls", some (n.clientUrl c.secure)⟩,
    ⟨"--listen-peer-urls", some (n.peerUrl c.secure)⟩,
    ⟨"--initial-advertise-peer-urls", some (n.peerUrl c.secure)⟩]

/-- The flags for the start of the cluster; the member list is that of the cluster, never the one
noted in the node. -/
def clusterFlags (c : Cluster) (n : Node) : List Flag :=
  [⟨"--initial-cluster", some c.initialClusterText⟩,
    ⟨"--initial-cluster-token", some n.token⟩,
    ⟨"--initial-cluster-state", some n.state.text⟩]

def encryptionFlags (c : Cluster) (n : Node) (dir : String) : List Flag :=
  if c.secure then
    let root := dir ++ "/" ++ c.rootFile
    let certificate := dir ++ "/" ++ n.certFile
    let key := dir ++ "/" ++ n.keyFile
    [⟨"--trusted-ca-file", some root⟩,
      ⟨"--cert-file", some certificate⟩,
      ⟨"--key-file", some key⟩,
      ⟨"--peer-trusted-ca-file", some root⟩,
      ⟨"--peer-cert-file", some certificate⟩,
      ⟨"--peer-key-file", some key⟩,
      ⟨"--client-cert-auth", none⟩,
      ⟨"--peer-client-cert-auth", none⟩]
  else []

def diagnosisFlags (c : Cluster) : List Flag :=
  (if c.enableProfile then [⟨"--enable-pprof", none⟩] else []) ++
  (if c.debug then [⟨"--debug", none⟩] else []) ++
  (if c.compactionRetention = 0 then []
    else [⟨"--auto-compaction-retention", some (toString c.compactionRetention.toNat)⟩])

def flags (c : Cluster) (n : Node) (s : FlagStyle) : List Flag :=
  memberFlags n s ++ addressFlags c n ++ clusterFlags c n ++
    encryptionFlags c n (certsDir n s) ++ diagnosisFlags c

def flagTexts (c : Cluster) (n : Node) (s : FlagStyle) : List String :=
  (flags c n s).map Flag.text

def flagsText (c : Cluster) (n : Node) (s : FlagStyle) : String :=
  String.intercalate s.separator (flagTexts c n s)

def command (c : Cluster) (n : Node) (s : FlagStyle) : String :=
  Directory.executable c.execDir "etcd" ++ " " ++ flagsText c n s

end Daemon
end EtcdKit
