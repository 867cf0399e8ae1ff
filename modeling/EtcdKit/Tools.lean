import EtcdKit.Bounds
import EtcdKit.Directory
/-!
# Tools — the programs that are installed beside the daemon
-/
namespace EtcdKit

structure GoToolchain where
  version : String := "1.10"
  deriving DecidableEq, Repr

structure SourceBuild where
  gitUser : String := "coreos"
  gitBranch : String := "master"
  deriving DecidableEq, Repr

structure Rkt where
  version : String := "v1.18.0"
  execDir : String := "/"
  /-- Prefix of the images whose signing key is trusted. -/
  trustPrefix : String := "coreos.com/etcd"
  trustKey : String := "https://coreos.com/dist/pubkeys/app-signing-pubkey.gpg"
  /-- An image of one's own; empty for the official one. -/
  customImage : String := ""
  deriving DecidableEq, Repr

def Rkt.bareVersion (r : Rkt) : String :=
  match r.version.toList with
  | 'v' :: rest => String.ofList rest
  | _ => r.version

structure Kubernetes where
  version : String := "v1.5.1"
  os : String := "linux"
  arch : String := "amd64"
  execDir : String := "/usr/local/bin"
  deriving DecidableEq, Repr

structure Operator where
  name : String := "example-etcd-cluster"
  snapshotInterval : UInt64 := 1800
  maxSnapshots : UInt64 := 5
  backupVolume : UInt64 := 512
  storageType : String := "PersistentVolume"
  deriving DecidableEq, Repr

namespace Operator

def writtenSnapshotInterval (o : Operator) : Nat :=
  Bounds.snapshotInterval.clamp o.snapshotInterval.toNat

def writtenMaxSnapshots (o : Operator) : Nat := Bounds.maxSnapshots.clamp o.maxSnapshots.toNat

def writtenBackupVolume (o : Operator) : Nat := Bounds.backupVolume.clamp o.backupVolume.toNat

end Operator
end EtcdKit
