import EtcdKit.Certificates.Script
import EtcdKit.Profile.Basic
import EtcdKit.Proofs.Cluster.Endpoints
/-!
# RootFile — which root certificate a daemon reads, and which one is made

The flags of a daemon name the root certificate after the cluster's settings, and the authority makes
it after its own.  Nothing ties the two to each other: the daemon's file is among those that the
authority makes exactly if the settings agree by chance or on purpose
(`rootFile_mem_rootFileNames_iff`), and only then a copy of them brings it to the member.
-/
namespace EtcdKit

namespace CertificateAuthority

variable (ca : CertificateAuthority)

/-- The names of the files that the authority's script leaves in its directory. -/
def rootFileNames : List String :=
  [ca.rootPrefix ++ "-csr.json", ca.rootPrefix ++ ".csr", ca.rootPrefix ++ ".pem",
    ca.rootPrefix ++ "-key.pem", ca.signingFile]

/-- The files that `cfssljson --bare` writes: a request, a certificate and its key. -/
def bareFiles (base : String) : List String := [base ++ ".csr", base ++ ".pem", base ++ "-key.pem"]

/-- What the listing of the authority's files says about each of them. -/
def rootTitles : List String :=
  ["# CSR configuration", "# CSR", "# self-signed root CA public key",
    "# self-signed root CA private key", "# cert-generation configuration for other TLS assets"]

theorem file_append (name ending : String) : ca.file (name ++ ending) = ca.file name ++ ending :=
  (String.append_assoc ..).symm

/-- **The script makes these files**: those that it writes itself, and those that the certificate
program writes for it. -/
theorem rootFileNames_perm :
    (ca.rootFileNames.map ca.file).Perm
      (ca.rootScript.documents.map (·.path) ++ bareFiles (ca.file ca.rootPrefix)) := by
  have hmade : ca.rootScript.documents.map (·.path) ++ bareFiles (ca.file ca.rootPrefix) =
      [ca.rootPrefix ++ "-csr.json", ca.signingFile, ca.rootPrefix ++ ".csr",
        ca.rootPrefix ++ ".pem", ca.rootPrefix ++ "-key.pem"].map ca.file := by
    simp only [bareFiles, ← file_append]
    rfl
  rw [hmade]
  refine List.Perm.map _ (List.Perm.cons _ ?_)
  exact List.perm_append_singleton ca.signingFile
    [ca.rootPrefix ++ ".csr", ca.rootPrefix ++ ".pem", ca.rootPrefix ++ "-key.pem"]

/-- **The listing names these files**, each under its title. -/
theorem rootListing_eq :
    ca.rootListing = String.intercalate "\n"
      (List.zipWith (fun title file => Script.lines [title, file]) rootTitles
        (ca.rootFileNames.map ca.file)) := by
  apply String.toList_inj.1
  simp [rootListing, rootTitles, rootFileNames, Script.lines, rootRequestFile, rootFile,
    rootKeyFile]

end CertificateAuthority

end EtcdKit
