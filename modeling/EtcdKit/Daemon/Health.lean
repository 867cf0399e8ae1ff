import EtcdKit.Daemon.Flags
/-!
# Health — asking all members of a cluster whether they are well
-/
namespace EtcdKit.Daemon

def clientFlags (c : Cluster) (n : Node) (dir : String) : List Flag :=
  if c.secure then
    [⟨"--cacert", some (dir ++ "/" ++ c.rootFile)⟩,
      ⟨"--cert", some (dir ++ "/" ++ n.certFile)⟩,
      ⟨"--key", some (dir ++ "/" ++ n.keyFile)⟩]
  else []

/-- What a health check says after the name of the client program. -/
def healthArguments (c : Cluster) (n : Node) (dir : String) : List String :=
  (⟨"--endpoints", some c.clientEndpointsText⟩ :: clientFlags c n dir).map Flag.text ++
    ["endpoint health"]

def hostHealth (c : Cluster) (n : Node) : String :=
  Script.command
    (("ETCDCTL_API=3 " ++ Directory.executable c.execDir "etcdctl") ::
      healthArguments c n n.certsPath)

def containerName (c : Cluster) : String := "etcd-" ++ c.version

def containerHealth (c : Cluster) (n : Node) : String :=
  let inner := ["export ETCDCTL_API=3 &&", "/usr/local/bin/etcdctl"] ++
    healthArguments c n Container.certsDir
  Script.command [
    "/usr/bin/docker",
    "exec",
    containerName c,
    "/bin/sh -c \"" ++ String.intercalate " " inner ++ "\""]

/-- Checks the health of all members, in the name of one of them; for a daemon in a container, the
check inside the container follows. -/
def health (c : Cluster) (n : Node) (containerized : Bool) : String :=
  if containerized then
    hostHealth c n ++ "\n\n\n# to use 'docker' command to check the status\n" ++
      containerHealth c n ++ "\n\n"
  else hostHealth c n

end EtcdKit.Daemon
