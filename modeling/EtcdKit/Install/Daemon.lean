import EtcdKit.Cluster
import EtcdKit.Directory
import EtcdKit.Script.Basic
import EtcdKit.Tools
/-!
# Daemon — scripts that install the daemon itself

A release is unpacked, or a fork is built, and its programs are copied into the directory of the
cluster.
-/
namespace EtcdKit.Install

open Script (value)

/-- A comment for the root directory only: the same move into a directory for local programs. -/
def localHint (verb source dir : String) (indent : String) : String :=
  if Directory.isRoot dir then indent ++ "# sudo " ++ verb ++ " " ++ source ++ " /usr/local/bin\n"
  else ""

def copyPrograms (source dir : String) : String :=
  localHint "cp" source dir "" ++
  Script.lines [
    "sudo cp " ++ source ++ " " ++ dir,
    "",
    Directory.executable dir "etcd" ++ " --version",
    Directory.executable dir "etcdctl" ++ " --version",
    ""]

/-- The release tag, and the two places to load it from. -/
def releaseHeader (version : String) : String :=
  Script.lines [
    "ETCD_VER=" ++ version,
    "",
    "# choose either URL",
    "GOOGLE_URL=https://storage.googleapis.com/etcd",
    "GITHUB_URL=https://github.com/coreos/etcd/releases/download",
    "DOWNLOAD_URL=" ++ value "GOOGLE_URL",
    ""]

def unpackDir : String := "/tmp/test-etcd"

/-- Loads a release archive whose name ends in that way, and unpacks it. -/
def loadRelease (ending : String) (unpack : String → List String) : String :=
  let archive := "etcd-" ++ value "ETCD_VER" ++ "-" ++ ending
  Script.lines <|
    ["rm -f /tmp/" ++ archive,
      "rm -rf " ++ unpackDir ++ " && mkdir -p " ++ unpackDir,
      "",
      "curl -L " ++ value "DOWNLOAD_URL" ++ "/" ++ value "ETCD_VER" ++ "/" ++ archive ++
        " -o /tmp/" ++ archive] ++
    unpack ("/tmp/" ++ archive) ++ [""]

def linux (c : Cluster) : String :=
  releaseHeader c.version ++
  loadRelease "linux-amd64.tar.gz" (fun archive =>
    ["tar xzvf " ++ archive ++ " -C " ++ unpackDir ++ " --strip-components=1"]) ++
  copyPrograms (unpackDir ++ "/etcd*") (Directory.strip c.execDir)

def mac (c : Cluster) : String :=
  releaseHeader c.version ++
  loadRelease "darwin-amd64.zip" (fun archive =>
    ["unzip " ++ archive ++ " -d /tmp",
      "mv /tmp/etcd-" ++ value "ETCD_VER" ++ "-darwin-amd64/* " ++ unpackDir]) ++
  copyPrograms (unpackDir ++ "/etcd*") (Directory.strip c.execDir)

def fromSource (c : Cluster) (s : SourceBuild) : String :=
  let checkout := value "GOPATH" ++ "/src/" ++ value "GIT_PATH"
  Script.lines [
    "if [ \"" ++ value "GOPATH" ++ "\" == \"\" ]; then",
    "    echo \"GOPATH does not exist!\"",
    "    exit 255",
    "else",
    "    echo \"GOPATH: " ++ value "GOPATH" ++ "\"",
    "fi",
    "",
    "GIT_PATH=github.com/coreos/etcd",
    "",
    "USER_NAME=" ++ s.gitUser,
    "BRANCH_NAME=" ++ s.gitBranch,
    "",
    "rm -rf " ++ checkout,
    Script.command [
      "git clone https://github.com/" ++ value "USER_NAME" ++ "/etcd",
      "--branch " ++ value "BRANCH_NAME",
      checkout],
    "",
    "cd " ++ checkout ++ " && ./build",
    ""] ++
  copyPrograms (checkout ++ "/bin/etcd*") (Directory.strip c.execDir)

end EtcdKit.Install
