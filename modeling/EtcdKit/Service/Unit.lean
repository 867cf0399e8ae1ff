import EtcdKit.Daemon.Health
import EtcdKit.Service.Kind
import EtcdKit.Tools
/-!
# Unit — the file that makes the daemon a system service

The file holds the command of the daemon: the segments of the launcher, then all flags.  A script
writes the file and moves it to its place.
-/
namespace EtcdKit.UnitKind

def flagStyle : UnitKind → FlagStyle
  | .systemd => {}
  | .docker => { containerized := true }
  | .rkt => { skipDataDir := true }
  | .coreos => { skipDataDir := true }

def dockerProgram : String := Directory.executable "/usr/bin" "docker"

/-- Runs the image with the directories of the member bound to those of the container. -/
def dockerLauncher (c : Cluster) (n : Node) : List String :=
  [dockerProgram,
    "run",
    "--net=host",
    "--name " ++ Daemon.containerName c,
    "--volume=" ++ n.dataPath ++ ":" ++ Container.dataDir] ++
  (if c.secure then ["--volume=" ++ n.certsPath ++ ":" ++ Container.certsDir] else []) ++
  ["quay.io/coreos/etcd:" ++ c.version, "/usr/local/bin/etcd"]

def rktImage (c : Cluster) (r : Rkt) : List String :=
  if r.customImage = "" then ["coreos.com/etcd:" ++ c.version ++ " --"]
  else ["--insecure-options=image", r.customImage ++ " --"]

/-- Runs the image with the directories of the member at their own places. -/
def rktLauncher (c : Cluster) (r : Rkt) (n : Node) : List String :=
  [Directory.executable (Directory.strip r.execDir) "rkt",
    "--trust-keys-from-https",
    "--dir=/var/lib/rkt",
    "run",
    "--stage1-name coreos.com/rkt/stage1-fly:" ++ r.bareVersion,
    "--net=host",
    "--volume data-dir,kind=host,source=" ++ n.dataPath] ++
  (if c.secure then
    ["--volume etcd-ssl-certs-dir,kind=host,source=" ++ n.certsPath,
      "--mount volume=etcd-ssl-certs-dir,target=" ++ n.certsPath]
  else []) ++
  rktImage c r

/-- The command text of the service; the service that the operating system brings along has a
command of its own, and is given the flags only. -/
def commandText (kind : UnitKind) (c : Cluster) (r : Rkt) (n : Node) : String :=
  let flags := Daemon.flagsText c n kind.flagStyle
  match kind with
  | .systemd => Daemon.command c n kind.flagStyle
  | .docker => Script.command (dockerLauncher c n ++ [flags])
  | .rkt => Script.command (rktLauncher c r n ++ [flags])
  | .coreos => flags

def installSection : List String := ["[Install]", "WantedBy=multi-user.target"]

def body (kind : UnitKind) (c : Cluster) (r : Rkt) (n : Node) : String :=
  let start := "ExecStart=" ++ kind.commandText c r n
  match kind with
  | .systemd => Script.lines <|
    ["[Unit]",
      "Description=etcd",
      "Documentation=https://github.com/coreos/etcd",
      "Conflicts=etcd.service",
      "Conflicts=etcd2.service",
      "",
      "[Service]",
      "Type=notify",
      "Restart=always",
      "RestartSec=5s",
      "LimitNOFILE=40000",
      "TimeoutStartSec=0",
      "",
      start,
      ""] ++ installSection
  | .docker => Script.lines <|
    ["[Unit]",
      "Description=etcd with Docker",
      "Documentation=https://github.com/coreos/etcd",
      "",
      "[Service]",
      "Restart=always",
      "RestartSec=5s",
      "TimeoutStartSec=0",
      "LimitNOFILE=40000",
      "",
      start,
      "",
      "ExecStop=" ++ dockerProgram ++ " stop " ++ Daemon.containerName c,
      ""] ++ installSection
  | .rkt => Script.lines <|
    ["[Unit]",
      "Description=etcd with rkt",
      "Documentation=https://github.com/coreos/rkt",
      "",
      "[Service]",
      "Restart=always",
      "RestartSec=5s",
      "TimeoutStartSec=0",
      "LimitNOFILE=40000",
      "",
      start,
      ""] ++ installSection
  | .coreos => Script.lines
    ["[Service]",
      "Environment=\"ETCD_IMAGE_TAG=" ++ c.version ++ "\"",
      "Environment=\"ETCD_DATA_DIR=" ++ n.dataPath ++ "\"",
      "Environment=\"ETCD_SSL_DIR=" ++ n.certsPath ++ "\"",
      "Environment=\"ETCD_OPTS=" ++ kind.commandText c r n ++ "\""]

def systemDir : String := "/etc/systemd/system"

def draftFile (kind : UnitKind) (n : Node) : String :=
  match kind with
  | .coreos => "/tmp/override-" ++ n.name ++ ".conf"
  | _ => "/tmp/" ++ n.name ++ ".service"

def installedFile (kind : UnitKind) (n : Node) : String :=
  let service := systemDir ++ "/" ++ kind.serviceName n ++ ".service"
  match kind with
  | .coreos => service ++ ".d/override.conf"
  | _ => service

def introduction : UnitKind → String
  | .systemd => "# to write service file for etcd"
  | .docker => "# to write service file for etcd with Docker"
  | .rkt => "# to write service file for etcd with rkt"
  | .coreos => "# to write " ++ bundledService ++ " drop-in for etcd"

def moveLines (kind : UnitKind) (n : Node) : List String :=
  let move := "sudo mv " ++ kind.draftFile n ++ " " ++ kind.installedFile n
  match kind with
  | .coreos =>
    ["sudo mkdir -p " ++ systemDir ++ "/" ++ bundledService ++ ".service.d",
      move,
      "# sudo systemd-delta --type=extended"]
  | _ => [move]

def unitScript (kind : UnitKind) (c : Cluster) (r : Rkt) (n : Node) : Script :=
  [.plain (Script.lines [kind.introduction]),
    .document ⟨kind.draftFile n, kind.body c r n⟩,
    .plain (Script.lines (kind.moveLines n))]

end EtcdKit.UnitKind
