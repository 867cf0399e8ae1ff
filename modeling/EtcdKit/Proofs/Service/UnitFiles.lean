import EtcdKit.Proofs.Daemon.Continuation
import EtcdKit.Proofs.Profile.Plain
import EtcdKit.Service.Unit
/-!
# UnitFiles — no line of a service file or of a manifest closes its here-document

The command of a service goes over as many lines as it has flags.  Each flag stands on one line, and a
further line starts with the blanks behind the line end of a continuation, so the command is folded
(`folded_commandText`) and no line of a service file is the end marker (`endMarker_not_mem_body`),
whatever the flags hold.
-/
namespace EtcdKit

open Script

/-! ## Service files -/

theorem UnitKind.oneLine_dockerProgram : OneLine dockerProgram :=
  oneLine_ofList "/usr/bin/docker".toList rfl

/-- A command that launches another one goes over as many lines as its own segments and the flags. -/
theorem UnitKind.folded_launched {launcher : List String} {flags : String}
    (hlauncher : ∀ segment ∈ launcher, OneLine segment) (hflags : Folded flags) :
    Folded (command (launcher ++ [flags])) := by
  apply folded_command
  rw [List.forall_mem_append, List.forall_mem_singleton]
  exact ⟨fun segment hsegment => (hlauncher segment hsegment).folded, hflags⟩

section Member

variable {c : Cluster} {n : Node} (hc : c.Unbroken) (hn : n.Unbroken)
include hc hn

theorem Daemon.folded_flagsText (s : FlagStyle) : Folded (flagsText c n s) := by
  have hseparator : Folded s.separator := by
    unfold FlagStyle.separator
    split
    · exact (oneLine_ofList _ rfl).folded
    · exact folded_continuation
  exact folded_intercalate hseparator fun t ht => (oneLine_flagTexts hc hn s t ht).folded

namespace UnitKind

theorem oneLine_dockerLauncher : ∀ segment ∈ dockerLauncher c n, OneLine segment := by
  have hprogram := oneLine_dockerProgram
  have hdata := hn.dataPath
  have hcerts := hn.certsPath
  have hversion := hc.version
  simp only [dockerLauncher, List.forall_mem_append]
  refine ⟨⟨?_, ?_⟩, ?_⟩
  all_goals try split
  all_goals
    simp (disch := first | assumption | exact oneLine_ofList _ rfl) [Daemon.containerName,
      Container.dataDir, Container.certsDir, oneLine_append, oneLine_true]

theorem oneLine_rktLauncher {r : Rkt} (hr : r.Unbroken) :
    ∀ segment ∈ rktLauncher c r n, OneLine segment := by
  have hprogram : OneLine (Directory.executable (Directory.strip r.execDir) "rkt") :=
    oneLine_executable (oneLine_strip hr.execDir) (oneLine_ofList _ rfl)
  have hdata := hn.dataPath
  have hcerts := hn.certsPath
  have hversion := hc.version
  have hbare := hr.bareVersion
  have himage := hr.customImage
  simp only [rktLauncher, rktImage, List.forall_mem_append]
  refine ⟨⟨?_, ?_⟩, ?_⟩
  all_goals try split
  all_goals
    simp (disch := first | assumption | exact oneLine_ofList _ rfl) [oneLine_append, oneLine_true]

theorem folded_commandText {r : Rkt} (hr : r.Unbroken) (kind : UnitKind) :
    Folded (kind.commandText c r n) := by
  have hflags := Daemon.folded_flagsText hc hn kind.flagStyle
  unfold commandText
  cases kind with
  | systemd =>
    have hprogram : OneLine (Directory.executable c.execDir "etcd") :=
      oneLine_executable hc.execDir (oneLine_ofList _ rfl)
    exact (hprogram.folded.append (oneLine_ofList _ rfl).folded).append hflags
  | docker => exact folded_launched (oneLine_dockerLauncher hc hn) hflags
  | rkt => exact folded_launched (oneLine_rktLauncher hc hn hr) hflags
  | coreos => exact hflags

/-- **No line of a service file is the end marker**, though its command goes over many lines. -/
theorem endMarker_not_mem_body {r : Rkt} (hr : r.Unbroken) (kind : UnitKind) :
    Block.endsLine (kind.body c r n) = true ∧ endMarker ∉ splitLines (kind.body c r n) := by
  have hcommand := kind.folded_commandText hc hn hr
  have hoptions : Folded (kind.commandText c r n ++ "\"") :=
    hcommand.append (oneLine_ofList _ rfl).folded
  have hprogram := oneLine_dockerProgram
  have hversion := hc.version
  have hdata := hn.dataPath
  have hcerts := hn.certsPath
  unfold body
  cases kind
  all_goals
    refine ⟨endsLine_lines (by simp), endMarker_not_mem_lines ?_⟩
    simp (disch := first | assumption | exact lead_ofList _ rfl | exact oneLine_ofList _ rfl) [
      installSection, Daemon.containerName, String.append_assoc, hcommand, hoptions]

omit hc hn in
theorem sound_unitScript {r : Rkt} (hc : c.Plain) (hn : n.Plain) (hr : r.Plain) (kind : UnitKind) :
    ∀ part ∈ kind.unitScript c r n, SoundPart part := by
  have hname := hn.name.1
  have hquiet := hn.name.2
  obtain ⟨hend, hmarker⟩ :=
    kind.endMarker_not_mem_body hc.unbroken hn.unbroken hr.unbroken
  have hintroduction : Quiet (lines [kind.introduction]) := by
    cases kind
    all_goals simp (disch := exact calm_ofList _ rfl) [introduction, bundledService]
  have hdraft : OneLine (kind.draftFile n) := by
    cases kind
    all_goals
      simp (disch := first | assumption | exact oneLine_ofList _ rfl) [draftFile, oneLine_true]
  have hmove : Quiet (lines (kind.moveLines n)) := by
    cases kind
    all_goals
      simp (disch := first | assumption | exact calm_ofList _ rfl) [moveLines, draftFile,
        installedFile, serviceName, systemDir, bundledService, String.append_assoc, quiet_true]
  simp only [unitScript, List.forall_mem_cons]
  exact ⟨⟨whole_lines _, hintroduction⟩, ⟨hdraft, hend, hmarker⟩, ⟨whole_lines _, hmove⟩, by simp⟩

end UnitKind

end Member

/-! ## The manifest of the operator -/

theorem Operator.sound_script {o : Operator} {c : Cluster} (ho : o.Plain) (hc : c.Plain) :
    ∀ part ∈ o.script c, SoundPart part := by
  have hname := ho.name.1
  have hquiet := ho.name.2
  have hstorage := ho.storageType.1
  have hversion := hc.imageVersion.1
  have hcount : OneLine c.memberCount.repr := (inert_toString _).1
  have hinterval : OneLine o.writtenSnapshotInterval.repr := (inert_toString _).1
  have hsnapshots : OneLine o.writtenMaxSnapshots.repr := (inert_toString _).1
  have hvolume : OneLine o.writtenBackupVolume.repr := (inert_toString _).1
  simp only [script, List.forall_mem_cons]
  refine ⟨⟨?_, endsLine_lines (by simp), endMarker_not_mem_lines ?_⟩, ⟨whole_lines _, ?_⟩, by simp⟩
  · have hpath : OneLine ("/tmp/" ++ o.name ++ ".yaml") := by
      simp (disch := first | assumption | exact oneLine_ofList _ rfl) [oneLine_true]
    exact hpath
  · simp (disch := first | assumption | exact lead_ofList _ rfl | exact oneLine_ofList _ rfl) [
      String.append_assoc]
  · simp (disch := first | assumption | exact calm_ofList _ rfl) [String.append_assoc, quiet_true]

end EtcdKit
