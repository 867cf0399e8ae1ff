import EtcdKit.Proofs.Certificates.RootFile
import EtcdKit.Proofs.Cluster.Endpoints
import EtcdKit.Proofs.Cluster.Validity
import EtcdKit.Proofs.Directory.Stripping
import EtcdKit.Proofs.Script.Reading
import EtcdKit.Target
/-!
# MemberFiles — one name for each file of a member's certificate

The files of a member's certificate are named in five places: where they are made, where they are listed,
where they are copied to, in the flags of the daemon and in the health check.  The directory is stripped
once in some of these places and twice in others; the names agree wherever that makes no difference
(`strip_certsPath`, `certificatePaths`).
-/
namespace EtcdKit

open Script

/-- How the names of the files of a certificate end. -/
def certificateEndings : List String := ["-ca-csr.json", ".csr", "-key.pem", ".pem"]

namespace Node

/-- The directory of certificates keeps its name when it is stripped again. -/
def CertsPathSettled (n : Node) : Prop :=
  ∀ dir, n.certsDir = some dir → ¬ Directory.Doubled dir

variable {n : Node} (h : n.CertsPathSettled)
include h

theorem strip_certsPath : Directory.strip n.certsPath = n.certsPath := by
  unfold certsPath
  cases hdir : n.certsDir with
  | none => rfl
  | some dir => exact (Directory.strip_strip_iff dir).2 (h dir hdir)

/-- **The listing names the files in the directory of the member.** -/
theorem certificateFiles_certsPath :
    certificateFiles n.certsPath n.name =
      certificateEndings.map (n.certsPath ++ "/" ++ n.name ++ ·) := by
  unfold certificateFiles
  rw [strip_certsPath h]
  rfl

theorem copyScript_certsPath (ca : CertificateAuthority) :
    ca.copyScript n.certsPath =
      "# after transferring certs to remote machines\nmkdir -p " ++ n.certsPath ++ "\ncp " ++
        ca.directory ++ "/* " ++ n.certsPath ++ "\n" := by
  unfold CertificateAuthority.copyScript
  rw [strip_certsPath h]
  apply String.toList_inj.1
  simp [lines_cons, lines_nil]

end Node

namespace CertificateAuthority

variable (ca : CertificateAuthority) (n : Node)

/-- A line of a script hands a request over to the program that makes certificates, which gives its files
names that start with `base`. -/
def HandsOver (text request base : String) : Prop :=
  ∃ front back, text = front ++ request ++ " | cfssljson --bare " ++ base ++ "\n" ++ back

/-- **The script of a member makes these files**: it writes the request, and the program makes the others
of it. -/
theorem memberFiles_perm :
    (certificateEndings.map (ca.file n.name ++ ·)).Perm
      ((ca.memberScript n).documents.map (·.path) ++ bareFiles (ca.file n.name)) := by
  have hwritten : (ca.memberScript n).documents.map (·.path) = [ca.file n.name ++ "-ca-csr.json"] := by
    rw [← file_append]
    rfl
  rw [hwritten]
  -- the program names the certificate before its key
  exact List.Perm.cons _ (List.Perm.cons _ (List.Perm.swap _ _ _))

theorem handsOver_memberScript :
    HandsOver (ca.memberScript n).text (ca.file n.name ++ "-ca-csr.json") (ca.file n.name) := by
  let request := ca.file (n.name ++ "-ca-csr.json")
  let hosts := certificateHosts (n.address :: Text.lines ca.extraHosts)
  let options := ["cfssl gencert", "--ca " ++ ca.rootFile, "--ca-key " ++ ca.rootKeyFile,
    "--config " ++ ca.file ca.signingFile]
  let call := request ++ " | cfssljson --bare " ++ ca.file n.name
  let before := lines ["mkdir -p " ++ ca.directory, ""] ++
    HereDocument.text ⟨request, ca.memberRequest n.name hosts⟩
  have hparts : (ca.memberScript n).text = before ++ lines [command (options ++ [call]), ""] := by
    have hnone : Script.text [] = "" := rfl
    unfold memberScript certificateScript
    rw [text_cons, text_cons, text_cons, hnone, String.append_empty, ← String.append_assoc]
    rfl
  have hcall : command (options ++ [call]) = command options ++ continuation ++ call :=
    command_concat (List.cons_ne_nil _ _) call
  refine ⟨before ++ command options ++ continuation, "\n", ?_⟩
  rw [hparts, hcall, lines_cons, lines_cons, lines_nil, ← file_append]
  simp only [call, request, String.append_assoc, String.append_empty, String.empty_append]

theorem handsOver_rootScript :
    HandsOver ca.rootScript.text ca.rootRequestFile (ca.file ca.rootPrefix) := by
  let before := lines ["mkdir -p " ++ ca.directory, ""] ++
    HereDocument.text ⟨ca.rootRequestFile, ca.rootRequest⟩
  let call := "cfssl gencert --initca=true " ++ ca.rootRequestFile ++ " | cfssljson --bare " ++
    ca.file ca.rootPrefix
  let behind := ["", "# verify", "openssl x509 -in " ++ ca.rootFile ++ " -text -noout", "", "",
    "# cert-generation configuration"]
  let rest := Script.text [.document ⟨ca.file ca.signingFile, ca.signingPolicy⟩, .plain "\n"]
  have hparts : ca.rootScript.text = before ++ (lines (call :: behind) ++ rest) := by
    unfold rootScript
    rw [text_cons, text_cons, text_cons, ← String.append_assoc]
    rfl
  refine ⟨before ++ "cfssl gencert --initca=true ", lines behind ++ rest, ?_⟩
  rw [hparts, lines_cons]
  simp only [call, String.append_assoc]

end CertificateAuthority

/-! ## What daemons and health checks are told -/

section Told

variable {c : Cluster} (hs : c.secure = true) (n : Node)
include hs

theorem given_certificate_flags {s : FlagStyle} (hstyle : s.containerized = false) :
    let texts := Daemon.flagTexts c n s
    Flag.given texts "--cert-file" = [n.certsPath ++ "/" ++ n.name ++ ".pem"] ∧
      Flag.given texts "--peer-cert-file" = [n.certsPath ++ "/" ++ n.name ++ ".pem"] ∧
      Flag.given texts "--key-file" = [n.certsPath ++ "/" ++ n.name ++ "-key.pem"] ∧
      Flag.given texts "--peer-key-file" = [n.certsPath ++ "/" ++ n.name ++ "-key.pem"] := by
  have hdir : Daemon.certsDir n s = n.certsPath := by
    unfold Daemon.certsDir
    rw [hstyle]
    rfl
  refine ⟨?_, ?_, ?_, ?_⟩
  all_goals
    apply Daemon.given_flagTexts
    simp [Daemon.flags, Daemon.encryptionFlags, hs, hdir, Node.certFile, Node.keyFile,
      String.append_assoc]

theorem given_certificate_options (dir : String) :
    Flag.given (Daemon.healthArguments c n dir) "--cert" = [dir ++ "/" ++ n.name ++ ".pem"] ∧
      Flag.given (Daemon.healthArguments c n dir) "--key" = [dir ++ "/" ++ n.name ++ "-key.pem"] := by
  constructor
  all_goals
    apply Daemon.given_healthArguments
    simp [Daemon.clientFlags, hs, Node.certFile, Node.keyFile, String.append_assoc]

end Told

/-! ## One name in all places -/

/-- All places name the files of a member's certificate alike. -/
structure CertificatePaths (p : Profile) (n : Node) : Prop where
  /-- The listing has one line for each file, in the directory of the member. -/
  listing : certificateListing n.certsPath n.name =
    String.intercalate "\n" (certificateEndings.map (n.certsPath ++ "/" ++ n.name ++ ·))
  listed : ∀ name, p.cluster.node name = .ok n →
    Target.render p (.certificateFiles (some name)) = .ok (certificateListing n.certsPath n.name)
  /-- The members of a valid profile are found under their own names. -/
  found : p.validate = .ok () → n ∈ p.cluster.members → p.cluster.node n.name = .ok n
  /-- A daemon on the host is told the certificate and the key. -/
  told : p.cluster.secure = true → ∀ s : FlagStyle, s.containerized = false →
    let texts := Daemon.flagTexts p.cluster n s
    Flag.given texts "--cert-file" = [n.certsPath ++ "/" ++ n.name ++ ".pem"] ∧
      Flag.given texts "--peer-cert-file" = [n.certsPath ++ "/" ++ n.name ++ ".pem"] ∧
      Flag.given texts "--key-file" = [n.certsPath ++ "/" ++ n.name ++ "-key.pem"] ∧
      Flag.given texts "--peer-key-file" = [n.certsPath ++ "/" ++ n.name ++ "-key.pem"]
  /-- So is the health check on the host, which comes first for a container, too. -/
  asked : p.cluster.secure = true → ∃ program options inside,
    Daemon.health p.cluster n false = Script.command (program :: options) ∧
      Daemon.health p.cluster n true = Script.command (program :: options) ++ inside ∧
      Flag.given options "--cert" = [n.certsPath ++ "/" ++ n.name ++ ".pem"] ∧
      Flag.given options "--key" = [n.certsPath ++ "/" ++ n.name ++ "-key.pem"]
  /-- Files of the same names are made in the directory of the authority. -/
  made : (certificateEndings.map (p.certificates.file n.name ++ ·)).Perm
    ((p.certificates.memberScript n).documents.map (·.path) ++
      CertificateAuthority.bareFiles (p.certificates.file n.name))
  handed : CertificateAuthority.HandsOver (p.certificates.memberScript n).text
    (p.certificates.file n.name ++ "-ca-csr.json") (p.certificates.file n.name)
  script : ∀ name, p.cluster.nodeOrFirst name = .ok n →
    Target.render p (.certificate name) = .ok (p.certificates.memberScript n).text
  /-- They are copied into the directory of the member. -/
  copied : ∀ name, p.cluster.nodeOrFirst name = .ok n →
    Target.render p (.certificateCopy name) =
      .ok ("# after transferring certs to remote machines\nmkdir -p " ++ n.certsPath ++ "\ncp " ++
        p.certificates.directory ++ "/* " ++ n.certsPath ++ "\n")

theorem certificatePaths (p : Profile) {n : Node} (h : n.CertsPathSettled) :
    CertificatePaths p n where
  listing := congrArg (String.intercalate "\n") (Node.certificateFiles_certsPath h)
  listed name hname := by
    simp [Target.render, Target.script, Target.textForNode, Target.forNode, Cluster.nodeOrFirst, hname,
      text_ofText, Except.map]
  found hvalid hmember := by
    have hfault := ((Profile.validate_eq_ok_iff p).1 hvalid).1
    obtain ⟨-, hnodup, -⟩ := (Cluster.fault?_eq_none_iff p.cluster).1 hfault
    exact p.cluster.node_name_of_mem hnodup (List.mem_of_mem_take hmember)
  told hs s hstyle := given_certificate_flags hs n hstyle
  asked hs := by
    obtain ⟨hhost, hinside⟩ := Daemon.health_eq p.cluster n
    rw [String.append_assoc, String.append_assoc] at hinside
    exact ⟨_, _, _, hhost, hinside, given_certificate_options hs n n.certsPath⟩
  made := p.certificates.memberFiles_perm n
  handed := p.certificates.handsOver_memberScript n
  script name hname := by
    simp [Target.render, Target.script, Target.forNode, hname, Except.map]
  copied name hname := by
    rw [← Node.copyScript_certsPath h]
    simp [Target.render, Target.script, Target.textForNode, Target.forNode, hname, text_ofText,
      Except.map]

/-- The listing of the authority's files names those that its script makes. -/
structure AuthorityPaths (ca : CertificateAuthority) : Prop where
  listing : ca.rootListing = String.intercalate "\n"
    (List.zipWith (fun title file => Script.lines [title, file]) CertificateAuthority.rootTitles
      (ca.rootFileNames.map ca.file))
  made : (ca.rootFileNames.map ca.file).Perm
    (ca.rootScript.documents.map (·.path) ++
      CertificateAuthority.bareFiles (ca.file ca.rootPrefix))
  handed : CertificateAuthority.HandsOver ca.rootScript.text ca.rootRequestFile
    (ca.file ca.rootPrefix)

/-- **Every place names the files of a certificate alike.**  If two separators do not end the directory of
a member, the listing of its certificate names four files in this directory; the flags of its daemon on the
host and the health check name the certificate and the key among them, files of the same four names are made
for the member, and this is the directory that they are copied into.  The listing for all members joins
theirs.  The listing of the authority's files names those that its script writes and hands over. -/
theorem every_place_names_files_alike (p : Profile) :
    (∀ n : Node, n.CertsPathSettled → CertificatePaths p n) ∧
      Target.render p (.certificateFiles none) = .ok (String.intercalate "\n"
        (p.cluster.members.map fun n => certificateListing n.certsPath n.name)) ∧
      AuthorityPaths p.certificates := by
  refine ⟨fun n h => certificatePaths p h, congrArg Except.ok (text_ofText _), ?_⟩
  exact ⟨p.certificates.rootListing_eq, p.certificates.rootFileNames_perm,
    p.certificates.handsOver_rootScript⟩

/-- A member whose certificates are in the root of the file system, written with two separators, and whose
name ends like a key. -/
def rootKeeper : Node where
  name := "a b-key"
  certsDir := some "//"
  address := "localhost"
  clientPort := 2379
  peerPort := 2380

def rootKept : Profile :=
  { Sample.profile with cluster := { size := 1, nodes := [rootKeeper] } }

theorem rootKeeper_files_named_alike :
    let n := rootKeeper
    let cert := "//a b-key.pem"
    (n.CertsPathSettled ∧ rootKept.validate = .ok () ∧ n ∈ rootKept.cluster.members ∧
      rootKept.cluster.node "a b-key" = .ok n ∧ rootKept.cluster.secure = true) ∧
    Target.render rootKept (.certificateFiles (some "a b-key")) =
      .ok "//a b-key-ca-csr.json\n//a b-key.csr\n//a b-key-key.pem\n//a b-key.pem" ∧
    Flag.given (Daemon.flagTexts rootKept.cluster n {}) "--cert-file" = [cert] ∧
    Target.render rootKept (.certificateCopy none) =
      .ok "# after transferring certs to remote machines\nmkdir -p /\ncp /tmp/certs/* /\n" ∧
    (["-ca-csr.json", ".csr", "-key.pem", ".pem"].map ("/tmp/certs/a b-key" ++ ·)).Perm
      ((rootKept.certificates.memberScript n).documents.map (·.path) ++
        CertificateAuthority.bareFiles "/tmp/certs/a b-key") := by
  intro n cert
  have hsettled : n.CertsPathSettled := by
    rintro dir hdir ⟨x, hx, he⟩
    have hempty : "" ++ "//" = x ++ "//" := (Option.some.inj hdir).trans he
    exact hx ((String.append_left_inj _).1 hempty).symm
  have hvalid : rootKept.validate = .ok () :=
    (Profile.validate_eq_ok_iff rootKept).2 ⟨by decide, by decide⟩
  have hmember : n ∈ rootKept.cluster.members := by decide
  have hpaths := (every_place_names_files_alike rootKept).1 n hsettled
  have hfound : rootKept.cluster.node "a b-key" = .ok n := hpaths.found hvalid hmember
  refine ⟨⟨hsettled, hvalid, hmember, hfound, rfl⟩, ?_, ?_, hpaths.copied none rfl, hpaths.made⟩
  · rw [hpaths.listed _ hfound, hpaths.listing]
    rfl
  · exact (hpaths.told rfl {} rfl).1

end EtcdKit
