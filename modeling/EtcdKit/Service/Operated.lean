import EtcdKit.Cluster
import EtcdKit.Script.Basic
import EtcdKit.Tools
/-!
# Operated — clusters that an operator keeps on Kubernetes
-/
namespace EtcdKit.Operator

/-- The release of the daemon without its leading letter. -/
def imageVersion (c : Cluster) : String :=
  match c.version.toList with
  | 'v' :: rest => String.ofList rest
  | _ => c.version

def resource (o : Operator) (c : Cluster) : String :=
  Script.lines [
    "apiVersion: \"etcd.coreos.com/v1beta1\"",
    "kind: \"Cluster\"",
    "metadata:",
    "  name: \"" ++ o.name ++ "\"",
    "spec:",
    "  size: " ++ toString c.memberCount,
    "  version: \"" ++ imageVersion c ++ "\"",
    "  backup:",
    "    backupIntervalInSecond: " ++ toString o.writtenSnapshotInterval,
    "    maxBackups: " ++ toString o.writtenMaxSnapshots,
    "    storageType: \"" ++ o.storageType ++ "\"",
    "    pv:",
    "      volumeSizeInMB: " ++ toString o.writtenBackupVolume]

/-- Writes the resource and hands it to the operator. -/
def script (o : Operator) (c : Cluster) : Script :=
  let path := "/tmp/" ++ o.name ++ ".yaml"
  [.document ⟨path, o.resource c⟩, .plain (Script.lines ["kubectl create -f " ++ path])]

def clientPort : Nat := 2379

def healthCheck (o : Operator) (c : Cluster) : String :=
  let endpoint := "http://" ++ o.name ++ "-client:" ++ toString clientPort
  Script.lines [
    Script.command [
      "kubectl run " ++ o.name ++ "-health",
      "--rm",
      "--stdin",
      "--tty",
      "--restart=Never",
      "--image quay.io/coreos/etcd:" ++ c.version,
      "--",
      "/bin/sh -c \"ETCDCTL_API=3 etcdctl --endpoints " ++ endpoint ++ " endpoint health\""]]

end EtcdKit.Operator
