import EtcdKit.Bounds
import EtcdKit.Directory
import EtcdKit.Text.Lines
/-!
# Certificates — the parameters of the certificate authority

The authority signs one certificate for every member.  Every certificate is valid on the loopback
hosts first, then on the hosts of its member.
-/
namespace EtcdKit

structure CertificateAuthority where
  /-- Platform suffix of the tool's release, as in `linux-amd64`. -/
  arch : String := "linux-amd64"
  version : String := "R1.2"
  execDir : String := "/usr/local/bin"
  certsDir : String := "/tmp/certs"
  rootPrefix : String := "etcd-root-ca"
  signingFile : String := "etcd-gencert.json"
  organization : String := "etcd"
  organizationUnit : String := "etcd Security"
  city : String := "San Francisco"
  state : String := "California"
  country : String := "USA"
  keyAlgorithm : String := "rsa"
  keySize : UInt64 := 2048
  keyExpiryHours : UInt64 := 87600
  commonName : String := "etcd-root-ca"
  /-- Further hosts of every certificate, one on each line. -/
  extraHosts : String := ""
  deriving DecidableEq, Repr

namespace CertificateAuthority

def writtenKeySize (ca : CertificateAuthority) : Nat := Bounds.keySize.clamp ca.keySize.toNat

def writtenExpiryHours (ca : CertificateAuthority) : Nat :=
  Bounds.keyExpiryHours.clamp ca.keyExpiryHours.toNat

end CertificateAuthority

def loopbackHosts : List String := ["127.0.0.1", "localhost"]

/-- The hosts of a certificate: the loopback hosts, then the given ones that are not empty and not
among them by name. -/
def certificateHosts (hosts : List String) : List String :=
  loopbackHosts ++ hosts.filter fun host => host != "" && host != "localhost"

end EtcdKit
