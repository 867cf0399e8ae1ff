import EtcdKit.Node
import EtcdKit.Script.Basic
/-!
# Control — starting, watching and stopping a system service
-/
namespace EtcdKit.Service

def control (service : String) : String :=
  let unit := service ++ ".service"
  Script.lines [
    "# to start service",
    "sudo systemctl daemon-reload",
    "sudo systemctl cat " ++ unit,
    "sudo systemctl enable " ++ unit,
    "sudo systemctl start " ++ unit,
    "",
    "# to get logs from service",
    "sudo systemctl status " ++ unit ++ " -l --no-pager",
    "sudo journalctl -u " ++ unit ++ " -l --no-pager|less",
    "sudo journalctl -f -u " ++ unit,
    "",
    "# to stop service",
    "sudo systemctl stop " ++ unit,
    "sudo systemctl disable " ++ unit]

/-- What to do with the data directory of a member before it starts. -/
def prepareData (n : Node) : String :=
  Script.lines [
    "# make sure etcd process has write access to this directory",
    "# remove this directory if the cluster is new; keep if restarting etcd",
    "# sudo rm -rf " ++ n.dataPath]

end EtcdKit.Service
