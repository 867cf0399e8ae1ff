import EtcdKit.Certificates
import EtcdKit.Install.Daemon
/-!
# Tools — scripts that install the programs around the daemon
-/
namespace EtcdKit.Install

open Script (value)

def goToolchain (g : GoToolchain) : String :=
  Script.lines [
    "GO_VERSION=" ++ g.version,
    "",
    "sudo rm -f /usr/local/go/bin/go && sudo rm -rf /usr/local/go",
    "",
    "GOOGLE_URL=https://storage.googleapis.com/golang",
    "DOWNLOAD_URL=" ++ value "GOOGLE_URL",
    "",
    "sudo curl -s " ++ value "DOWNLOAD_URL" ++
      "/go$GO_VERSION.linux-amd64.tar.gz | sudo tar -v -C /usr/local/ -xz",
    "",
    "if grep -q GOPATH \"$(echo $HOME)/.bashrc\"; then",
    "    echo \"bashrc already has GOPATH\";",
    "else",
    "    echo \"adding GOPATH to bashrc\";",
    "    echo \"export GOPATH=$(echo $HOME)/go\" >> $HOME/.bashrc;",
    "    PATH_VAR=$PATH\":/usr/local/go/bin:$(echo $HOME)/go/bin\";",
    "    echo \"export PATH=$(echo $PATH_VAR)\" >> $HOME/.bashrc;",
    "    source $HOME/.bashrc;",
    "fi",
    "",
    "mkdir -p $GOPATH/bin/",
    "go version"]

def kubernetesPrograms : List String :=
  ["kubelet", "kube-apiserver", "kube-controller-manager", "kube-scheduler", "kube-proxy",
    "kubectl"]

def versionArgument (program : String) : String :=
  if program = "kubectl" then "version" else "--version"

def kubernetes (k : Kubernetes) : String :=
  let dir := Directory.strip k.execDir
  let loaded := "/tmp/" ++ value "K8S_BIN"
  Script.lines [
    "K8S_VER=" ++ k.version,
    "",
    "GOOS=" ++ k.os,
    "GOARCH=" ++ k.arch,
    "",
    "DOWNLOAD_URL=https://storage.googleapis.com/kubernetes-release/release",
    "",
    "BINS='" ++ String.intercalate " " kubernetesPrograms ++ "'",
    "",
    "for K8S_BIN in " ++ value "BINS" ++ "; do",
    "    echo \"Downloading\" " ++ value "K8S_BIN",
    "    rm -f " ++ loaded,
    "    curl -L " ++ value "DOWNLOAD_URL" ++ "/" ++ value "K8S_VER" ++ "/bin/" ++ value "GOOS" ++
      "/" ++ value "GOARCH" ++ "/" ++ value "K8S_BIN" ++ " -o " ++ loaded,
    "    sudo chmod +x " ++ loaded] ++
  localHint "mv" loaded dir "    " ++
  Script.lines (["    sudo mv " ++ loaded ++ " " ++ dir, "done", ""] ++
    kubernetesPrograms.map fun program =>
      Directory.executable dir program ++ " " ++ versionArgument program)

def rkt (r : Rkt) : String :=
  let dir := Directory.strip r.execDir
  let version := value "RKT_VERSION"
  let unpacked := "/tmp/test-rkt-" ++ version
  Script.lines [
    "RKT_VERSION=" ++ r.version,
    "",
    "GITHUB_URL=https://github.com/coreos/rkt/releases/download",
    "DOWNLOAD_URL=" ++ value "GITHUB_URL",
    "",
    "rm -f /tmp/rkt-" ++ version ++ ".tar.gz",
    "rm -rf " ++ unpacked ++ " && mkdir -p " ++ unpacked,
    "",
    "curl -L " ++ value "DOWNLOAD_URL" ++ "/" ++ version ++ "/rkt-" ++ version ++
      ".tar.gz -o /tmp/rkt-" ++ version ++ ".tar.gz",
    "tar xzvf /tmp/rkt-" ++ version ++ ".tar.gz -C " ++ unpacked ++ " --strip-components=1",
    ""] ++
  localHint "cp" (unpacked ++ "/rkt") dir "" ++
  Script.lines [
    "sudo cp " ++ unpacked ++ "/rkt " ++ dir,
    "",
    Directory.executable dir "rkt" ++ " version"]

def trustImages (r : Rkt) : String :=
  Script.lines [
    Script.command [
      "sudo " ++ Directory.executable (Directory.strip r.execDir) "rkt" ++ " trust",
      "--prefix " ++ r.trustPrefix,
      "'" ++ r.trustKey ++ "'"]]

def certificateProgram (ca : CertificateAuthority) (dir program : String) : String :=
  Script.lines [
    "curl -L https://pkg.cfssl.org/" ++ ca.version ++ "/" ++ program ++ "_" ++ ca.arch ++
      " -o /tmp/" ++ program,
    "chmod +x /tmp/" ++ program,
    "sudo mv /tmp/" ++ program ++ " " ++ Directory.executable dir program,
    ""]

def certificatePrograms (ca : CertificateAuthority) : String :=
  let dir := Directory.strip ca.execDir
  Script.lines ["rm -f /tmp/cfssl* && rm -rf /tmp/certs && mkdir -p /tmp/certs", ""] ++
  certificateProgram ca dir "cfssl" ++
  certificateProgram ca dir "cfssljson" ++
  Script.lines [
    Directory.executable dir "cfssl" ++ " version",
    Directory.executable dir "cfssljson" ++ " -h",
    "",
    "mkdir -p " ++ Directory.strip ca.certsDir]

end EtcdKit.Install
