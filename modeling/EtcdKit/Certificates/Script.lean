import EtcdKit.Certificates.Request
import EtcdKit.Cluster
import EtcdKit.Directory
/-!
# Script — scripts that make certificates, and the files they leave behind

The authority makes its own certificate first.  Each member's certificate is signed by it, in the
authority's directory, and copied to the member afterwards.
-/
namespace EtcdKit

namespace CertificateAuthority

def directory (ca : CertificateAuthority) : String := Directory.strip ca.certsDir

def file (ca : CertificateAuthority) (name : String) : String := ca.directory ++ "/" ++ name

def rootRequestFile (ca : CertificateAuthority) : String := ca.file (ca.rootPrefix ++ "-csr.json")

def rootFile (ca : CertificateAuthority) : String := ca.file (ca.rootPrefix ++ ".pem")

def rootKeyFile (ca : CertificateAuthority) : String := ca.file (ca.rootPrefix ++ "-key.pem")

/-- Makes the authority's certificate, shows it, and writes the signing policy. -/
def rootScript (ca : CertificateAuthority) : Script :=
  [.plain (Script.lines ["mkdir -p " ++ ca.directory, ""]),
    .document ⟨ca.rootRequestFile, ca.rootRequest⟩,
    .plain (Script.lines [
      "cfssl gencert --initca=true " ++ ca.rootRequestFile ++ " | cfssljson --bare " ++
        ca.file ca.rootPrefix,
      "",
      "# verify",
      "openssl x509 -in " ++ ca.rootFile ++ " -text -noout",
      "",
      "",
      "# cert-generation configuration"]),
    .document ⟨ca.file ca.signingFile, ca.signingPolicy⟩,
    .plain "\n"]

/-- What `rootScript` leaves behind. -/
def rootListing (ca : CertificateAuthority) : String :=
  Script.lines [
    "# CSR configuration",
    ca.rootRequestFile,
    "",
    "# CSR",
    ca.file (ca.rootPrefix ++ ".csr"),
    "",
    "# self-signed root CA public key",
    ca.rootFile,
    "",
    "# self-signed root CA private key",
    ca.rootKeyFile,
    "",
    "# cert-generation configuration for other TLS assets",
    ca.file ca.signingFile]

/-- Makes a certificate of that name, valid on a host and on every further host of the list. -/
def certificateScript (ca : CertificateAuthority) (name commonName host extraHosts : String) :
    Script :=
  let request := ca.file (name ++ "-ca-csr.json")
  let hosts := certificateHosts (host :: Text.lines extraHosts)
  [.plain (Script.lines ["mkdir -p " ++ ca.directory, ""]),
    .document ⟨request, ca.memberRequest commonName hosts⟩,
    .plain (Script.lines [
      Script.command [
        "cfssl gencert",
        "--ca " ++ ca.rootFile,
        "--ca-key " ++ ca.rootKeyFile,
        "--config " ++ ca.file ca.signingFile,
        request ++ " | cfssljson --bare " ++ ca.file name],
      ""])]

def memberScript (ca : CertificateAuthority) (n : Node) : Script :=
  ca.certificateScript n.name n.name n.address ca.extraHosts

def copyScript (ca : CertificateAuthority) (dir : String) : String :=
  Script.lines [
    "# after transferring certs to remote machines",
    "mkdir -p " ++ Directory.strip dir,
    "cp " ++ ca.directory ++ "/* " ++ Directory.strip dir]

end CertificateAuthority

/-- The files of a certificate of that name, as they are found in a directory. -/
def certificateFiles (dir name : String) : List String :=
  ["-ca-csr.json", ".csr", "-key.pem", ".pem"].map fun ending =>
    Directory.strip dir ++ "/" ++ name ++ ending

def certificateListing (dir name : String) : String :=
  String.intercalate "\n" (certificateFiles dir name)

def Cluster.certificateListing (c : Cluster) : String :=
  String.intercalate "\n" (c.members.map fun n => EtcdKit.certificateListing n.certsPath n.name)

end EtcdKit
