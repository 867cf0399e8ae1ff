import EtcdKit.Daemon.Health
import EtcdKit.Install.Daemon
import EtcdKit.Install.Tools
import EtcdKit.Proofs.Profile.Plain
import EtcdKit.Service.Control
/-!
# QuietTexts — the scripts that write no file

How programs are installed, a data directory prepared, a service controlled and a member asked for its
health: none of these texts opens a here-document, since every value in them is quiet and a fixed word
stands between any two of them.
-/
namespace EtcdKit

open Script

namespace Install

theorem whole_localHint (verb source dir indent : String) :
    Whole (localHint verb source dir indent) := by
  have hend : " /usr/local/bin\n" = " /usr/local/bin" ++ "\n" := by decide
  unfold localHint
  split
  · rw [hend, ← String.append_assoc]
    exact whole_concat _
  · exact whole_empty

theorem quiet_localHint {source indent : String} (hsource : Quiet source) (hindent : Quiet indent)
    (dir : String) : Quiet (localHint "cp" source dir indent) := by
  unfold localHint
  split
  · simp (disch := first | assumption | exact calm_ofList _ rfl) [String.append_assoc, quiet_true]
  · exact quiet_empty

theorem quiet_localHint_append (verb source dir indent rest : String) :
    Quiet (localHint verb source dir indent ++ rest) ↔
      Quiet (localHint verb source dir indent) ∧ Quiet rest :=
  (whole_localHint verb source dir indent).quiet_append

theorem quiet_copyPrograms {source dir : String} (hsource : Quiet source) (hdir : Inert dir) :
    Quiet (copyPrograms source dir) := by
  have hdirectory := hdir.2
  have hhint := quiet_localHint hsource quiet_empty dir
  have hetcd : Quiet (Directory.executable dir "etcd") :=
    (inert_executable hdir (word_ofList _ rfl)).2
  have hetcdctl : Quiet (Directory.executable dir "etcdctl") :=
    (inert_executable hdir (word_ofList _ rfl)).2
  unfold copyPrograms
  simp (disch := first | assumption | exact calm_ofList _ rfl) [quiet_localHint_append,
    String.append_assoc, quiet_true]

set_option maxRecDepth 1024 in
theorem quiet_linux {c : Cluster} (hc : c.Plain) : Quiet (linux c) := by
  have hversion := hc.version.2
  have hcopy : Quiet (copyPrograms "/tmp/test-etcd/etcd*" (Directory.strip c.execDir)) :=
    quiet_copyPrograms (quiet_ofList _ rfl) (inert_strip hc.execDir)
  unfold linux
  simp (disch := first | assumption | exact calm_ofList _ rfl) [releaseHeader, loadRelease,
    value, unpackDir, String.append_assoc, quiet_true]

set_option maxRecDepth 1024 in
theorem quiet_rkt {r : Rkt} (hr : r.Plain) : Quiet (rkt r) := by
  have hdirectory := (inert_strip hr.execDir).2
  have hversion := hr.version.2
  have hhint : Quiet (localHint "cp" "/tmp/test-rkt-$\x7bRKT_VERSION\x7d/rkt"
      (Directory.strip r.execDir) "") :=
    quiet_localHint (quiet_ofList _ rfl) quiet_empty _
  have hrkt : Quiet (Directory.executable (Directory.strip r.execDir) "rkt") :=
    (inert_executable (inert_strip hr.execDir) (word_ofList _ rfl)).2
  unfold rkt
  simp (disch := first | assumption | exact calm_ofList _ rfl) [value, quiet_localHint_append,
    String.append_assoc, quiet_true]

theorem quiet_trustImages {r : Rkt} (hr : r.Plain) : Quiet (trustImages r) := by
  have htrust := hr.trustPrefix.2
  have hkey := hr.trustKey.2
  have hrkt : Quiet (Directory.executable (Directory.strip r.execDir) "rkt") :=
    (inert_executable (inert_strip hr.execDir) (word_ofList _ rfl)).2
  simp (disch := first | assumption | exact calm_ofList _ rfl) [trustImages, String.append_assoc,
    quiet_true]

theorem quiet_certificatePrograms {ca : CertificateAuthority} (h : ca.Plain) :
    Quiet (certificatePrograms ca) := by
  have hdirectory := (inert_strip h.certsDir).2
  have hcfssl : Quiet (Directory.executable (Directory.strip ca.execDir) "cfssl") :=
    (inert_executable (inert_strip h.execDir) (word_ofList _ rfl)).2
  have hjson : Quiet (Directory.executable (Directory.strip ca.execDir) "cfssljson") :=
    (inert_executable (inert_strip h.execDir) (word_ofList _ rfl)).2
  have hversion := h.version.2
  have harch := h.arch.2
  simp (disch := first | assumption | exact calm_ofList _ rfl) [certificatePrograms,
    certificateProgram, String.append_assoc, quiet_true]

end Install

theorem Service.quiet_prepareData {n : Node} (hn : n.Plain) : Quiet (prepareData n) := by
  have hdata := hn.dataPath.2
  simp (disch := first | assumption | exact calm_ofList _ rfl) [prepareData, quiet_true]

theorem Service.quiet_control {service : String} (h : Quiet service) : Quiet (control service) := by
  simp (disch := first | assumption | exact calm_ofList _ rfl) [control, String.append_assoc,
    quiet_true]

namespace Daemon

variable {c : Cluster} {n : Node} (hc : c.Plain) (hn : n.Plain)
include hc hn

theorem quiet_healthArguments {dir : String} (hdir : Inert dir) :
    ∀ argument ∈ healthArguments c n dir, Quiet argument := by
  have hdirectory := hdir.2
  have hname := hn.name.2
  have hroot := hc.rootPrefix.2
  have hendpoints := hc.clientEndpointsText
  simp only [healthArguments, clientFlags, List.map_cons, List.forall_mem_append, List.forall_mem_cons]
  refine ⟨⟨?_, ?_⟩, ?_⟩
  all_goals try split
  all_goals
    simp (disch := first | assumption | exact calm_ofList _ rfl) [Flag.text, Cluster.rootFile,
      Node.certFile, Node.keyFile, String.append_assoc, quiet_true]

theorem quiet_hostHealth : Quiet (hostHealth c n) := by
  have hversion := hc.version.2
  have hprogram : Quiet (Directory.executable c.execDir "etcdctl") :=
    (inert_executable hc.execDir (word_ofList _ rfl)).2
  unfold hostHealth
  rw [quiet_command, List.forall_mem_cons]
  refine ⟨?_, quiet_healthArguments hc hn hn.certsPath⟩
  simp (disch := first | assumption | exact calm_ofList _ rfl) [quiet_true]

theorem quiet_containerHealth : Quiet (containerHealth c n) := by
  have hversion := hc.version.2
  have hdirectory : Inert Container.certsDir := ⟨oneLine_ofList _ rfl, quiet_ofList _ rfl⟩
  have hblank : Calm " " := calm_ofList _ rfl
  have hshell {text : String} (htext : Quiet text) : Quiet (Script.command [
      "/usr/bin/docker", "exec", containerName c, "/bin/sh -c \"" ++ text ++ "\""]) := by
    simp (disch := first | assumption | exact calm_ofList _ rfl) [containerName, String.append_assoc,
      quiet_true]
  apply hshell
  rw [quiet_intercalate hblank, List.forall_mem_append]
  refine ⟨?_, quiet_healthArguments hc hn hdirectory⟩
  simp (disch := exact calm_ofList _ rfl)

theorem quiet_health (containerized : Bool) : Quiet (health c n containerized) := by
  have hhost := quiet_hostHealth hc hn
  have hcontainer := quiet_containerHealth hc hn
  unfold health
  split
  · simp (disch := first | assumption | exact calm_ofList _ rfl) [String.append_assoc, quiet_true]
  · exact hhost

end Daemon

theorem Operator.quiet_healthCheck {o : Operator} {c : Cluster} (ho : o.Plain) (hc : c.Plain) :
    Quiet (o.healthCheck c) := by
  have hname := ho.name.2
  have hversion := hc.version.2
  have hport : Quiet clientPort.repr := (inert_toString _).2
  simp (disch := first | assumption | exact calm_ofList _ rfl) [healthCheck, String.append_assoc,
    quiet_true]

end EtcdKit
