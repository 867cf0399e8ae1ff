import EtcdKit.Proofs.Certificates.RequestFiles
import EtcdKit.Proofs.Script.Blocks
import EtcdKit.Proofs.Script.QuietTexts
import EtcdKit.Proofs.Service.UnitFiles
import EtcdKit.Proofs.Target.Comparison
import EtcdKit.Proofs.Target.Failure
/-!
# HereDocuments — a shell finds the files of a target as they were written

The files that a script writes are told apart from each other, and from the commands between them, only
by the lines of its text.  A shell that reads the text of a target finds them again, each under its path
and with the lines of its template, for every plain profile (`here_documents_read_back`): every part of
a script is sound, every step of a guide is read on its own (`Guide.reads_steps`), and joining the steps
moves no file.
-/
namespace EtcdKit

open Script

namespace Guide

variable {p : Profile} (hp : p.Plain) (kind : UnitKind)

/-- Where the files of a member go. -/
def memberPaths (p : Profile) (kind : UnitKind) (n : Node) : List String :=
  (if p.cluster.secure then [p.certificates.file (n.name ++ "-ca-csr.json")] else []) ++
    [kind.draftFile n]

/-- Where the files of a guide go. -/
def paths (p : Profile) (kind : UnitKind) (withOperator : Bool) : List String :=
  (if p.cluster.secure then
    [p.certificates.rootRequestFile, p.certificates.file p.certificates.signingFile] else []) ++
  p.cluster.members.flatMap (memberPaths p kind) ++
  (if withOperator then ["/tmp/" ++ p.operator.name ++ ".yaml"] else [])

theorem paths_steps (p : Profile) (withOperator : Bool) :
    Block.paths (steps p kind withOperator) = paths p kind withOperator := by
  have hinstall : Block.paths (installSteps p kind) = [] := by cases kind <;> rfl
  have hhealth (ns : List Node) : Block.paths (healthSteps p kind ns) = [] := by
    cases ns <;> rfl
  have hauthority : Block.paths (authoritySteps p) = if p.cluster.secure then
      [p.certificates.rootRequestFile, p.certificates.file p.certificates.signingFile] else [] := by
    unfold authoritySteps
    split <;> rfl
  have hmember (n : Node) : Block.paths (memberSteps p kind n) = memberPaths p kind n := by
    unfold memberSteps memberPaths certificateSteps
    rw [Block.paths_append]
    split <;> rfl
  have hmembers : Block.paths (p.cluster.members.flatMap (memberSteps p kind)) =
      p.cluster.members.flatMap (memberPaths p kind) := by
    rw [Block.paths, List.flatMap_assoc]
    exact congrArg (List.flatMap · _) (funext hmember)
  have hoperator : Block.paths (if withOperator then operatorSteps p else []) =
      if withOperator then ["/tmp/" ++ p.operator.name ++ ".yaml"] else [] := by
    cases withOperator <;> rfl
  rw [steps_eq_members]
  simp only [Block.paths_append]
  rw [hinstall, hauthority, hmembers, hhealth, hoperator, List.nil_append, List.append_nil]
  rfl

include hp

theorem reads_installSteps : ∀ b ∈ installSteps p kind, b.Reads := by
  have hlinux : (step "Install etcd" (Install.linux p.cluster)).Reads :=
    Block.reads_of_quiet (quiet_ofList _ rfl) (Install.quiet_linux hp.cluster)
  have hrkt : (step "Install rkt" (Install.rkt p.rkt)).Reads :=
    Block.reads_of_quiet (quiet_ofList _ rfl) (Install.quiet_rkt hp.rkt)
  have htrust : (step "Trust etcd image signing key" (Install.trustImages p.rkt)).Reads :=
    Block.reads_of_quiet (quiet_ofList _ rfl) (Install.quiet_trustImages hp.rkt)
  unfold installSteps
  split
  · simp [hlinux, hrkt, htrust]
  · simp [hlinux]

theorem reads_authoritySteps : ∀ b ∈ authoritySteps p, b.Reads := by
  have hprograms : (step "Install cfssl" (Install.certificatePrograms p.certificates)).Reads :=
    Block.reads_of_quiet (quiet_ofList _ rfl) (Install.quiet_certificatePrograms hp.certificates)
  have hroot : Block.Reads ⟨"Generate root CA", p.certificates.rootScript⟩ :=
    Block.reads_of_sound (quiet_ofList _ rfl) hp.certificates.sound_rootScript
  have hfiles : (step "Root CA files" p.certificates.rootListing).Reads :=
    Block.reads_of_quiet (quiet_ofList _ rfl) hp.certificates.quiet_rootListing
  unfold authoritySteps
  split
  · simp [hprograms, hroot, hfiles]
  · simp

theorem reads_certificateSteps {n : Node} (hn : n.Plain) : ∀ b ∈ certificateSteps p n, b.Reads := by
  have hmake : Block.Reads ⟨"Generate certificate for " ++ n.name, p.certificates.memberScript n⟩ :=
    Block.reads_of_sound (hn.quiet_title (calm_ofList _ rfl)) (hp.certificates.sound_memberScript hn)
  have hcopy : (step ("Copy certificates to " ++ n.name)
      (p.certificates.copyScript n.certsPath)).Reads :=
    Block.reads_of_quiet (hn.quiet_title (calm_ofList _ rfl))
      (hp.certificates.quiet_copyScript hn.certsPath)
  unfold certificateSteps
  split
  · simp [hmake, hcopy]
  · simp

theorem reads_memberSteps {n : Node} (hn : n.Plain) : ∀ b ∈ memberSteps p kind n, b.Reads := by
  have htitle : Quiet (kind.text ++ " unit for " ++ n.name) := by
    have hkind : Quiet kind.text := by cases kind <;> exact quiet_ofList _ rfl
    rw [String.append_assoc, quiet_append_append (calm_ofList _ rfl)]
    exact ⟨hkind, hn.name.2⟩
  have hservice : Quiet (kind.serviceName n) := by
    cases kind with
    | coreos => exact quiet_ofList _ rfl
    | systemd | docker | rkt => exact hn.name.2
  have hdata : (step ("Prepare data directory for " ++ n.name) (Service.prepareData n)).Reads :=
    Block.reads_of_quiet (hn.quiet_title (calm_ofList _ rfl)) (Service.quiet_prepareData hn)
  have hunit : Block.Reads ⟨kind.text ++ " unit for " ++ n.name,
      kind.unitScript p.cluster p.rkt n⟩ :=
    Block.reads_of_sound htitle (kind.sound_unitScript hp.cluster hn hp.rkt)
  have hstart : (step ("Start " ++ n.name) (Service.control (kind.serviceName n))).Reads :=
    Block.reads_of_quiet (hn.quiet_title (calm_ofList _ rfl)) (Service.quiet_control hservice)
  unfold memberSteps
  rw [List.forall_mem_append]
  refine ⟨reads_certificateSteps hp hn, ?_⟩
  simp [hdata, hunit, hstart]

theorem reads_healthSteps {ns : List Node} (hns : ∀ n ∈ ns, n.Plain) :
    ∀ b ∈ healthSteps p kind ns, b.Reads := by
  cases ns with
  | nil => simp [healthSteps]
  | cons n ns =>
    have hhealth := Daemon.quiet_health hp.cluster (hns n List.mem_cons_self) kind.isContainerized
    exact List.forall_mem_singleton.2 (Block.reads_of_quiet (quiet_ofList _ rfl) hhealth)

theorem reads_operatorSteps : ∀ b ∈ operatorSteps p, b.Reads := by
  have hscript : Block.Reads ⟨"etcd-operator cluster", p.operator.script p.cluster⟩ :=
    Block.reads_of_sound (quiet_ofList _ rfl) (Operator.sound_script hp.operator hp.cluster)
  have hcheck : (step "Check etcd-operator cluster health"
      (p.operator.healthCheck p.cluster)).Reads :=
    Block.reads_of_quiet (quiet_ofList _ rfl)
      (Operator.quiet_healthCheck hp.operator hp.cluster)
  unfold operatorSteps
  simp [hscript, hcheck]

/-- **Every step of a guide is read as it was written.** -/
theorem reads_steps (withOperator : Bool) : ∀ b ∈ steps p kind withOperator, b.Reads := by
  have hmembers := hp.cluster.members
  rw [steps_eq_members]
  simp only [List.forall_mem_append]
  refine ⟨⟨⟨⟨reads_installSteps hp kind, reads_authoritySteps hp⟩, ?_⟩,
    reads_healthSteps hp kind hmembers⟩, ?_⟩
  · intro b hb
    obtain ⟨n, hn, hb⟩ := List.mem_flatMap.1 hb
    exact reads_memberSteps hp kind (hmembers n hn) b hb
  · cases withOperator with
    | false => simp
    | true => exact reads_operatorSteps hp

end Guide

namespace Target

variable (p : Profile)

/-- The scripts of these targets write files. -/
def writesFiles : Target → Bool
  | .authority | .certificate _ | .unit .. | .operated | .guide .. => true
  | _ => false

/-- Where the files go that the script of a target writes. -/
def paths : Target → Except Error (List String)
  | .authority =>
    .ok [p.certificates.rootRequestFile, p.certificates.file p.certificates.signingFile]
  | .certificate node => (p.cluster.nodeOrFirst node).map fun n =>
    [p.certificates.file (n.name ++ "-ca-csr.json")]
  | .unit node kind => (p.cluster.nodeOrFirst node).map fun n => [kind.draftFile n]
  | .operated => .ok ["/tmp/" ++ p.operator.name ++ ".yaml"]
  | .guide kind withOperator => .ok (Guide.paths p kind withOperator)
  | t => (t.script p).map fun _ => []

theorem paths_forNode {script : Node → Script} {goesTo : Node → List String}
    (h : ∀ n, (script n).documents.map (·.path) = goesTo n) (node : Option String) :
    (forNode p node script).map (fun s => s.documents.map (·.path)) =
      (p.cluster.nodeOrFirst node).map goesTo := by
  unfold forNode
  cases p.cluster.nodeOrFirst node with
  | error e => rfl
  | ok n => exact congrArg Except.ok (h n)

theorem paths_script {t : Target} (ht : t.writesFiles = true) :
    (t.script p).map (fun s => s.documents.map (·.path)) = t.paths p := by
  cases t
  case authority | operated => rfl
  case certificate node => exact paths_forNode p (fun _ => rfl) node
  case unit node kind => exact paths_forNode p (fun _ => rfl) node
  case guide kind withOperator =>
    have hpaths := Guide.paths_steps kind p withOperator
    rw [← Block.paths_joined] at hpaths
    exact congrArg Except.ok hpaths
  all_goals cases ht

theorem readsAs_forNode {p : Profile} (hp : p.Plain) {name : Option String} {script : Node → Script}
    (hscript : ∀ n : Node, n.Plain → ∀ part ∈ script n, SoundPart part) {s : Script}
    (hs : forNode p name script = .ok s) : ReadsAs s.text s.documents := by
  unfold forNode at hs
  cases hnode : p.cluster.nodeOrFirst name with
  | error e =>
    rw [hnode] at hs
    cases hs
  | ok n =>
    rw [hnode] at hs
    cases hs
    exact readsAs_text (hscript n (hp.cluster.of_nodeOrFirst hnode))

theorem readsAs_script {p : Profile} (hp : p.Plain) {t : Target} (ht : t.writesFiles = true)
    {s : Script} (hs : t.script p = .ok s) : ReadsAs s.text s.documents := by
  cases t
  case authority =>
    cases hs
    exact readsAs_text hp.certificates.sound_rootScript
  case certificate node =>
    exact readsAs_forNode hp (fun n hn => hp.certificates.sound_memberScript hn) hs
  case unit node kind =>
    exact readsAs_forNode hp (fun n hn => kind.sound_unitScript hp.cluster hn hp.rkt) hs
  case operated =>
    cases hs
    exact readsAs_text (Operator.sound_script hp.operator hp.cluster)
  case guide kind withOperator =>
    cases hs
    exact Block.readsAs_joined (Guide.reads_steps hp kind withOperator)
  all_goals cases ht

/-- **Here-documents are read back.**  No value of the profile goes over several lines or holds a
redirection, but that the further hosts of certificates may.  Then a shell that reads the text of a
target line by line finds exactly the files that its script writes, in order, and none is left open:
each goes where it should, and holds what its template gives for the values of the profile, up to and
with the last line end. -/
theorem here_documents_read_back (p : Profile) (hp : p.Plain) (t : Target)
    (ht : t.writesFiles = true) {text : String} (htext : t.render p = .ok text) :
    ∃ s, t.script p = .ok s ∧ text = s.text ∧
      Script.read text = { closed := s.documents, open? := none } ∧
      t.paths p = .ok (s.documents.map (·.path)) ∧
      (t.fillings p).map (·.map Filling.text?) = .ok (s.documents.map fun d => some d.body) ∧
      ∀ d ∈ s.documents, Block.endsLine d.body = true := by
  unfold render at htext
  cases hs : t.script p with
  | error e =>
    rw [hs] at htext
    cases htext
  | ok s =>
    rw [hs] at htext
    cases htext
    have hreads := readsAs_script hp ht hs
    have hpaths := paths_script p ht
    have hcontents := contents_script p t
    rw [hs] at hpaths hcontents
    refine ⟨s, rfl, rfl, hreads.read_eq, hpaths.symm, ?_, hreads.ends⟩
    rw [← hcontents]
    simp [Except.map, Script.contents]

/-- Two members whose values look like parts of a here-document, and further hosts that hold all
of it. -/
def lookalikes : Profile where
  cluster :=
    { size := 2
      nodes :=
        [{ name := "EOF", certsDir := some "cat > /keys/<", address := "<EOF", clientPort := 2379,
           peerPort := 2380 },
         { name := "cat > x", dataDir := some "EOF", address := "localhost", clientPort := 4379,
           peerPort := 4380, token := "EOF" }] }
  certificates := { commonName := "EOF", extraHosts := "EOF\ncat > y <<EOF\r\nEOF" }
  playground := Sample.playground

set_option maxRecDepth 1024 in
theorem lookalikes_plain : lookalikes.Plain where
  cluster :=
    { version := inert_ofList _ rfl
      execDir := inert_ofList _ rfl
      rootPrefix := inert_ofList _ rfl
      nodes := List.forall_mem_cons.2
        ⟨{ name := inert_ofList _ rfl
           dataDir := by simp
           certsDir := by
             rintro dir ⟨⟩
             decide
           address := by decide
           token := inert_ofList _ rfl },
         List.forall_mem_singleton.2
         { name := inert_ofList _ rfl
           dataDir := by
             rintro dir ⟨⟩
             exact inert_ofList _ rfl
           certsDir := by simp
           address := inert_ofList _ rfl
           token := inert_ofList _ rfl }⟩ }
  certificates := by constructor <;> exact inert_ofList _ rfl
  rkt := by constructor <;> exact inert_ofList _ rfl
  operator := by constructor <;> exact inert_ofList _ rfl

theorem lookalikes_read_back :
    lookalikes.Plain ∧ (guide .docker true).writesFiles = true ∧
      ∃ text ds, (guide .docker true).render lookalikes = .ok text ∧
        Script.read text = { closed := ds, open? := none } ∧
        ds.map (·.path) = ["/tmp/certs/etcd-root-ca-csr.json", "/tmp/certs/etcd-gencert.json",
          "/tmp/certs/EOF-ca-csr.json", "/tmp/EOF.service", "/tmp/certs/cat > x-ca-csr.json",
          "/tmp/cat > x.service", "/tmp/example-etcd-cluster.yaml"] := by
  obtain ⟨s, -, -, hread, hpaths, -, -⟩ :=
    here_documents_read_back lookalikes lookalikes_plain (guide .docker true) rfl rfl
  refine ⟨lookalikes_plain, rfl, _, s.documents, rfl, hread, ?_⟩
  exact (Except.ok.inj hpaths).symm.trans (by cbv)

end Target
end EtcdKit
