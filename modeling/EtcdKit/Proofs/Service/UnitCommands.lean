import EtcdKit.Proofs.Script.Paragraphs
import EtcdKit.Proofs.Service.Operations
import EtcdKit.Proofs.Service.UnitFiles
/-!
# UnitCommands — the command of a service, found in the file that a script installs

A service file holds the command of the daemon in a paragraph of its own, which ends at an empty line or
with the file.  The lines in front of it start with other words, whatever values they hold, and no line of
the command is empty, so the command is found again (`command?_body`).  It is taken apart at the
continuations into the segments of the launcher and the flags (`splitText_commandText`).

The script around the file moves it to the place of a service, and the commands that start, watch and
stop a service are about this one.
-/
namespace EtcdKit

open Script

/-! ## Files at their place -/

/-- A shell that runs the script writes one file, and a command behind it moves this file to its
place. -/
def Script.Installs (text path content : String) : Prop :=
  ∃ draft front back, text = front ++ lines back ∧ Whole front ∧
    read front = { closed := [⟨draft, content⟩] } ∧
    read text = { closed := [⟨draft, content⟩] } ∧
    "sudo mv " ++ draft ++ " " ++ path ∈ back

namespace UnitKind

/-- Where the file of a service is kept; what is added to a service has a directory of its own. -/
def place (kind : UnitKind) (service : String) : String :=
  match kind with
  | .coreos => "/etc/systemd/system/" ++ service ++ ".d/override.conf"
  | _ => "/etc/systemd/system/" ++ service

theorem installedFile_eq (kind : UnitKind) (n : Node) :
    kind.installedFile n = kind.place (kind.serviceName n ++ ".service") := by
  have hservice : systemDir ++ "/" ++ kind.serviceName n ++ ".service" =
      "/etc/systemd/system/" ++ (kind.serviceName n ++ ".service") := String.append_assoc
  cases kind
  case coreos => exact congrArg (· ++ ".d/override.conf") hservice
  all_goals exact hservice

/-- The segments of the command: those of the launcher, then the flags. -/
def segments (kind : UnitKind) (c : Cluster) (r : Rkt) (n : Node) : List String :=
  match kind with
  | .systemd => Daemon.commandTexts c n kind.flagStyle
  | .docker => dockerLauncher c n ++ Daemon.flagTexts c n kind.flagStyle
  | .rkt => rktLauncher c r n ++ Daemon.flagTexts c n kind.flagStyle
  | .coreos => Daemon.flagTexts c n kind.flagStyle

theorem oneLine_draftFile {n : Node} (hn : n.Unbroken) (kind : UnitKind) :
    OneLine (kind.draftFile n) := by
  have hname := hn.name
  cases kind
  all_goals
    simp (disch := first | assumption | exact oneLine_ofList _ rfl) [draftFile, oneLine_true]

theorem oneLine_serviceName {n : Node} (hn : n.Unbroken) (kind : UnitKind) :
    OneLine (kind.serviceName n) := by
  cases kind
  case coreos => exact oneLine_ofList _ rfl
  all_goals exact hn.name

theorem oneLine_place (kind : UnitKind) {service : String} (h : OneLine service) :
    OneLine (kind.place service) := by
  unfold place
  cases kind
  all_goals
    simp (disch := first | assumption | exact oneLine_ofList _ rfl) [oneLine_true]

theorem readsAs_moveLines {n : Node} (hn : n.Unbroken) (kind : UnitKind) :
    ReadsAs (lines (kind.moveLines n)) [] := by
  let move := "sudo mv " ++ kind.draftFile n ++ " " ++ kind.installedFile n
  have hdraft := kind.oneLine_draftFile hn
  have hinstalled : OneLine (kind.installedFile n) := by
    rw [installedFile_eq]
    exact kind.oneLine_place (oneLine_append.2 ⟨kind.oneLine_serviceName hn, oneLine_ofList _ rfl⟩)
  have hmove : OneLine move ∧ openedPath? move = none := by
    constructor
    · simp (disch := first | assumption | exact oneLine_ofList _ rfl) [move, oneLine_true]
    · unfold move
      rw [String.append_assoc, String.append_assoc]
      exact openedPath?_eq_none (by decide) _
  apply readsAs_lines
  unfold moveLines
  cases kind
  case coreos =>
    simp only [List.forall_mem_cons]
    refine ⟨?_, hmove, ?_, List.forall_mem_nil _⟩ <;> decide
  all_goals exact List.forall_mem_singleton.2 hmove

section Member

variable {c : Cluster} {r : Rkt} {n : Node} (hc : c.Unbroken) (hr : r.Unbroken) (hn : n.Unbroken)
include hc hr hn

/-- **The script of a service installs its file**, as a shell reads it. -/
theorem installs_unitScript (kind : UnitKind) :
    Installs (kind.unitScript c r n).text (kind.installedFile n) (kind.body c r n) := by
  let file : HereDocument := ⟨kind.draftFile n, kind.body c r n⟩
  obtain ⟨hend, hmarker⟩ := kind.endMarker_not_mem_body hc hn hr
  have hdraft : OneLine file.path := kind.oneLine_draftFile hn
  have hfront : ReadsAs (lines [kind.introduction] ++ file.text) [file] := by
    refine ReadsAs.append (readsAs_lines ?_) (readsAs_document hdraft hend hmarker)
    rw [List.forall_mem_singleton]
    cases kind <;> decide
  have htext : (kind.unitScript c r n).text =
      lines [kind.introduction] ++ file.text ++ lines (kind.moveLines n) := by
    have hnone : Script.text [] = "" := rfl
    unfold unitScript
    rw [text_cons, text_cons, text_cons, hnone, String.append_empty, String.append_assoc]
    rfl
  refine ⟨file.path, _, kind.moveLines n, htext, hfront.whole, hfront.read_eq, ?_, ?_⟩
  · rw [htext]
    exact (hfront.append (kind.readsAs_moveLines hn)).read_eq
  · cases kind <;> simp [moveLines, file]

/-! ## The command in the file -/

/-- What stands in front of the command in a service file. -/
def commandWord : UnitKind → String
  | .coreos => "Environment=\"ETCD_OPTS="
  | _ => "ExecStart="

/-- What closes the command. -/
def commandEnd : UnitKind → String
  | .coreos => "\""
  | _ => ""

/-- The command that stands in a service file. -/
def command? (kind : UnitKind) (file : String) : Option String :=
  Text.between? kind.commandWord kind.commandEnd (paragraph kind.commandWord file)

/-- **The command is found again in the file.** -/
theorem command?_body (kind : UnitKind) :
    kind.command? (kind.body c r n) = some (kind.commandText c r n) := by
  have hcommand := kind.folded_commandText hc hn hr
  unfold command?
  rw [Text.between?_eq_some_iff]
  unfold body commandWord commandEnd
  cases kind
  -- the lines in front of these options hold values, those of a service do not
  case coreos =>
    have hquoted : Folded (commandText .coreos c r n ++ "\"") :=
      hcommand.append (oneLine_ofList _ rfl).folded
    have hquote : OneLine "\"" := oneLine_ofList _ rfl
    rw [paragraph_skip (oneLine_ofList _ rfl) (by simp),
      paragraph_skip_between (oneLine_ofList _ rfl) hquote hc.version (by decide),
      paragraph_skip_between (oneLine_ofList _ rfl) hquote hn.dataPath (by decide),
      paragraph_skip_between (oneLine_ofList _ rfl) hquote hn.certsPath (by decide), String.append_assoc]
    exact paragraph_found (oneLine_ofList _ rfl) (by decide) hquoted (by simp)
  all_goals
    simp (disch := first | exact oneLine_ofList _ rfl | simp) only [List.cons_append,
      paragraph_skip, String.append_empty]
    exact paragraph_found (oneLine_ofList _ rfl) (by decide) hcommand (by simp)

/-! ## The segments of the command -/

omit hc hr hn in
theorem commandText_eq (kind : UnitKind) :
    kind.commandText c r n = Script.command (kind.segments c r n) := by
  have hflags := Daemon.flagTexts_ne_nil c n
  have hlaunched {launcher : List String} (hlauncher : launcher ≠ []) (s : FlagStyle)
      (hs : s.oneLine = false) : Script.command (launcher ++ [Daemon.flagsText c n s]) =
        Script.command (launcher ++ Daemon.flagTexts c n s) := by
    rw [command_concat hlauncher, Daemon.flagsText, Daemon.separator_of_many hs]
    exact (String.intercalate_append_of_ne_nil hlauncher (hflags s)).symm
  cases kind with
  | systemd => exact Daemon.command_eq c n _
  | docker => exact hlaunched (List.cons_ne_nil _ _) _ rfl
  | rkt => exact hlaunched (List.cons_ne_nil _ _) _ rfl
  | coreos => rfl

theorem oneLine_segments (kind : UnitKind) : ∀ t ∈ kind.segments c r n, OneLine t := by
  have hflags := Daemon.oneLine_flagTexts hc hn kind.flagStyle
  cases kind with
  | systemd => exact Daemon.oneLine_commandTexts hc hn _
  | docker => exact List.forall_mem_append.2 ⟨oneLine_dockerLauncher hc hn, hflags⟩
  | rkt => exact List.forall_mem_append.2 ⟨oneLine_rktLauncher hc hn hr, hflags⟩
  | coreos => exact hflags

/-- **The command is taken apart into its segments** at the continuations. -/
theorem splitText_commandText (kind : UnitKind) :
    Text.splitText continuation (kind.commandText c r n) = kind.segments c r n := by
  have hne : kind.segments c r n ≠ [] := by
    cases kind <;> exact List.cons_ne_nil _ _
  rw [commandText_eq]
  exact Text.splitText_intercalate Daemon.lineEnd_mem_continuation hne
    (kind.oneLine_segments hc hr hn)

omit hc hr hn in
theorem exists_commandText_eq (kind : UnitKind) :
    ∃ front, kind.commandText c r n = front ++ Daemon.flagsText c n kind.flagStyle := by
  unfold commandText
  cases kind with
  | systemd => exact ⟨_, rfl⟩
  | docker => exact ⟨_, command_concat (List.cons_ne_nil _ _) _⟩
  | rkt => exact ⟨_, command_concat (List.cons_ne_nil _ _) _⟩
  | coreos => exact ⟨"", String.empty_append.symm⟩

end Member

end UnitKind

/-! ## From the flags to the service -/

/-- A command is made of the segments of a launcher and the flags of a member, and ends with the text of
the flags. -/
structure Launches (launcher : List String) (c : Cluster) (n : Node) (s : FlagStyle)
    (command : String) : Prop where
  segments : Text.splitText continuation command = launcher ++ Daemon.flagTexts c n s
  verbatim : ∃ front, command = front ++ Daemon.flagsText c n s

namespace UnitKind

/-- What a service that runs the image with docker says before the flags. -/
def dockerWords (c : Cluster) (n : Node) : List String :=
  ["/usr/bin/docker", "run", "--net=host", "--name etcd-" ++ c.version,
    "--volume=" ++ n.dataPath ++ ":/etcd-data"] ++
  (if c.secure then ["--volume=" ++ n.certsPath ++ ":/etcd-ssl-certs-dir"] else []) ++
  ["quay.io/coreos/etcd:" ++ c.version, "/usr/local/bin/etcd"]

/-- What a service that runs the image with rkt says before the flags; an image of one's own is run
without a signature. -/
def rktWords (c : Cluster) (r : Rkt) (n : Node) : List String :=
  [Directory.executable (Directory.strip r.execDir) "rkt", "--trust-keys-from-https",
    "--dir=/var/lib/rkt", "run", "--stage1-name coreos.com/rkt/stage1-fly:" ++ r.bareVersion,
    "--net=host", "--volume data-dir,kind=host,source=" ++ n.dataPath] ++
  (if c.secure then
    ["--volume etcd-ssl-certs-dir,kind=host,source=" ++ n.certsPath,
      "--mount volume=etcd-ssl-certs-dir,target=" ++ n.certsPath]
  else []) ++
  if r.customImage = "" then ["coreos.com/etcd:" ++ c.version ++ " --"]
  else ["--insecure-options=image", r.customImage ++ " --"]

/-- What the command of a service has to be. -/
def Commands (kind : UnitKind) (c : Cluster) (r : Rkt) (n : Node) (command : String) : Prop :=
  match kind with
  | .systemd => command = Daemon.command c n {}
  | .docker => Launches (dockerWords c n) c n { containerized := true } command
  | .rkt => Launches (rktWords c r n) c n { skipDataDir := true } command
  | .coreos => Launches [] c n { skipDataDir := true } command

theorem dockerLauncher_eq (c : Cluster) (n : Node) : dockerLauncher c n = dockerWords c n := by
  have hname : "--name " ++ Daemon.containerName c = "--name etcd-" ++ c.version :=
    String.append_assoc.symm
  have hplace (dir place : String) : "--volume=" ++ dir ++ ":" ++ place =
      "--volume=" ++ dir ++ (":" ++ place) := String.append_assoc
  unfold dockerLauncher
  rw [hname, hplace, hplace]
  rfl

theorem rktLauncher_eq (c : Cluster) (r : Rkt) (n : Node) : rktLauncher c r n = rktWords c r n := rfl

variable {c : Cluster} {r : Rkt} {n : Node}

/-- **A service runs the daemon with its flags, and is the one that is started, watched and stopped.**  If
no value of the cluster, of the runtime and of the node holds a line end, then a shell that reads the script
writes one file and moves it to the place of the service of the node.  The command in this file is that of
the daemon, or is taken apart at the continuations into the segments of a launcher and the flags of the
member, as they are written.  All commands on the service of the node are about this one. -/
theorem service_runs_written_flags (hc : c.Unbroken) (hr : r.Unbroken) (hn : n.Unbroken)
    (kind : UnitKind) :
    ∃ file command,
      Installs (kind.unitScript c r n).text (kind.place (kind.serviceName n ++ ".service")) file ∧
      kind.command? file = some command ∧
      kind.Commands c r n command ∧
      (splitLines (Service.control (kind.serviceName n))).filterMap Service.serviceOf? =
        List.replicate 8 (kind.serviceName n ++ ".service") := by
  have hinstalls := installs_unitScript hc hr hn kind
  rw [installedFile_eq] at hinstalls
  have hsegments := splitText_commandText hc hr hn kind
  have hverbatim := exists_commandText_eq (c := c) (r := r) (n := n) kind
  refine ⟨_, _, hinstalls, command?_body hc hr hn kind, ?_,
    Service.services_control (kind.oneLine_serviceName hn)⟩
  cases kind with
  | systemd => rfl
  | docker => exact ⟨dockerLauncher_eq c n ▸ hsegments, hverbatim⟩
  | rkt => exact ⟨rktLauncher_eq c r n ▸ hsegments, hverbatim⟩
  | coreos => exact ⟨hsegments, hverbatim⟩

/-- A node whose name looks like a place in a template, and whose token like a continuation. -/
def bracedNode : Node where
  name := "\x7b\x7b exec_start \x7d\x7d"
  dataDir := some "/data/\x7b% x %\x7d"
  address := "localhost"
  clientPort := 2379
  peerPort := 2380
  token := " \\"

def braced : Cluster where
  version := "\x7b\x7b version \x7d\x7d"
  size := 1
  secure := false
  nodes := [bracedNode]

theorem unbroken_bracedNode : bracedNode.Unbroken where
  name := by decide
  dataDir := by simp [bracedNode, OneLine]
  certsDir := by simp [bracedNode]
  address := by decide
  token := by decide

theorem unbroken_braced : braced.Unbroken where
  version := by decide
  execDir := by decide
  rootPrefix := by decide
  nodes := List.forall_mem_singleton.2 unbroken_bracedNode

/-- A runtime that runs an image of one's own. -/
def bracedRkt : Rkt where
  execDir := "/opt/rkt/"
  customImage := "docker://{{ image }}"

theorem unbroken_bracedRkt : bracedRkt.Unbroken where
  version := by decide
  execDir := by decide
  customImage := by decide

theorem braced_service_runs_written_flags :
    (braced.Unbroken ∧ bracedRkt.Unbroken ∧ bracedNode.Unbroken) ∧
    (∃ file command,
      Installs (docker.unitScript braced bracedRkt bracedNode).text
        "/etc/systemd/system/\x7b\x7b exec_start \x7d\x7d.service" file ∧
      docker.command? file = some command ∧
      Text.splitText continuation command =
        ["/usr/bin/docker", "run", "--net=host", "--name etcd-\x7b\x7b version \x7d\x7d",
          "--volume=/data/\x7b% x %\x7d:/etcd-data",
          "quay.io/coreos/etcd:\x7b\x7b version \x7d\x7d", "/usr/local/bin/etcd",
          "--name \x7b\x7b exec_start \x7d\x7d", "--data-dir /etcd-data",
          "--listen-client-urls http://localhost:2379",
          "--advertise-client-urls http://localhost:2379",
          "--listen-peer-urls http://localhost:2380",
          "--initial-advertise-peer-urls http://localhost:2380",
          "--initial-cluster \x7b\x7b exec_start \x7d\x7d=http://localhost:2380",
          "--initial-cluster-token  \\", "--initial-cluster-state new"]) ∧
    ∃ file command,
      Installs (rkt.unitScript braced bracedRkt bracedNode).text
        "/etc/systemd/system/\x7b\x7b exec_start \x7d\x7d.service" file ∧
      rkt.command? file = some command ∧
      Text.splitText continuation command =
        ["/opt/rkt/rkt", "--trust-keys-from-https", "--dir=/var/lib/rkt", "run",
          "--stage1-name coreos.com/rkt/stage1-fly:1.18.0", "--net=host",
          "--volume data-dir,kind=host,source=/data/\x7b% x %\x7d", "--insecure-options=image",
          "docker://\x7b\x7b image \x7d\x7d --", "--name \x7b\x7b exec_start \x7d\x7d",
          "--listen-client-urls http://localhost:2379",
          "--advertise-client-urls http://localhost:2379",
          "--listen-peer-urls http://localhost:2380",
          "--initial-advertise-peer-urls http://localhost:2380",
          "--initial-cluster \x7b\x7b exec_start \x7d\x7d=http://localhost:2380",
          "--initial-cluster-token  \\", "--initial-cluster-state new"] := by
  have hservice := service_runs_written_flags unbroken_braced unbroken_bracedRkt unbroken_bracedNode
  obtain ⟨file, command, hinstalls, hcommand, hlaunches, -⟩ := hservice .docker
  obtain ⟨rktFile, rktCommand, hrktInstalls, hrktCommand, hrktLaunches, -⟩ := hservice .rkt
  exact ⟨⟨unbroken_braced, unbroken_bracedRkt, unbroken_bracedNode⟩,
    ⟨file, command, hinstalls, hcommand, hlaunches.segments⟩,
    rktFile, rktCommand, hrktInstalls, hrktCommand, hrktLaunches.segments⟩

end UnitKind
end EtcdKit
