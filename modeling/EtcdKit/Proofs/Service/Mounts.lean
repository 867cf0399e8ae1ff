import EtcdKit.Proofs.Cluster.Endpoints
import EtcdKit.Proofs.Daemon.FlagOrder
import EtcdKit.Proofs.Service.UnitCommands
/-!
# Mounts — the paths inside the container are those of the host

The command of a container mounts directories of the host, and the flags that the daemon is given inside
name its files by their places there.  Both are written apart, from the same settings.  The mounts are read
from the command (`filterMap_segments`), and a path is followed through them to the host
(`Flag.onHost?`): so followed, the flags inside the container are the flags of the host
(`mapM_onHost?_flags`), and so are the options of a health check (`mapM_onHost?_clientFlags`).
-/
namespace EtcdKit

/-- A directory of the host, and its place in a container. -/
structure Mount where
  host : String
  place : String
  deriving DecidableEq, Repr

namespace Mount

/-- The mount that a segment of a command asks for; the place stands behind the last colon. -/
def ofSegment? (segment : String) : Option Mount :=
  (Text.between? "--volume=" "" segment).bind fun sides =>
    (Text.splitLast? ':' sides).map fun m => ⟨m.1, m.2⟩

/-- A path at the place of a mount or below it, as the host has it. -/
def onHost? (m : Mount) (path : String) : Option String :=
  (Text.between? m.place "" path).bind fun rest =>
    if rest = "" ∨ rest.toList.head? = some '/' then some (m.host ++ rest) else none

theorem ofSegment?_eq_some (host : String) {place : String} (h : ':' ∉ place.toList) :
    ofSegment? ("--volume=" ++ host ++ ":" ++ place) = some ⟨host, place⟩ := by
  have hsides : Text.between? "--volume=" "" ("--volume=" ++ host ++ ":" ++ place) =
      some (host ++ ":" ++ place) := by
    rw [Text.between?_eq_some_iff, String.append_empty, String.append_assoc, String.append_assoc,
      String.append_assoc]
  rw [ofSegment?, hsides, Option.bind_some, Text.splitLast?_append rfl host h]
  rfl

theorem ofSegment?_eq_none {front : String} (h : Text.Apart "--volume=" front) (rest : String) :
    ofSegment? (front ++ rest) = none := by
  rw [ofSegment?, Text.between?_eq_none (Text.not_prefix_append h rest)]
  rfl

variable (m : Mount)

theorem onHost?_place : m.onHost? m.place = some m.host := by
  have hrest : Text.between? m.place "" m.place = some "" := by
    rw [Text.between?_eq_some_iff]
    simp
  rw [onHost?, hrest, Option.bind_some, if_pos (.inl rfl), String.append_empty]

theorem onHost?_below (file : String) :
    m.onHost? (m.place ++ "/" ++ file) = some (m.host ++ "/" ++ file) := by
  have hrest : Text.between? m.place "" (m.place ++ "/" ++ file) = some ("/" ++ file) := by
    rw [Text.between?_eq_some_iff, String.append_empty, String.append_assoc]
  have hslash : ("/" ++ file).toList.head? = some '/' := by simp
  rw [onHost?, hrest, Option.bind_some, if_pos (.inr hslash), String.append_assoc]

theorem onHost?_eq_none {front : String} (h : Text.Apart m.place front) (rest : String) :
    m.onHost? (front ++ rest) = none := by
  rw [onHost?, Text.between?_eq_none (Text.not_prefix_append h rest)]
  rfl

end Mount

/-! ## Flags as the host has them -/

/-- A flag as the host has it: its value is a path if its name is one of these, and lies below the place
of a mount then. -/
def Flag.onHost? (mounts : List Mount) (names : List String) (f : Flag) : Option Flag :=
  if f.name ∈ names then
    f.value.bind fun path =>
      (mounts.findSome? (·.onHost? path)).map fun found => ⟨f.name, some found⟩
  else some f

/-- A written flag as the host has it. -/
def Flag.textOnHost? (mounts : List Mount) (names : List String) (text : String) : Option String :=
  ((Flag.ofText text).onHost? mounts names).map Flag.text

section Followed

variable {mounts : List Mount} {names : List String}

theorem Flag.onHost?_of_mem {name path found : String} (hname : name ∈ names)
    (hpath : mounts.findSome? (·.onHost? path) = some found) :
    Flag.onHost? mounts names ⟨name, some path⟩ = some ⟨name, some found⟩ := by
  rw [Flag.onHost?, if_pos hname, Option.bind_some, hpath, Option.map_some]

theorem Flag.mapM_onHost?_of_not_mem : ∀ {flags : List Flag},
    (∀ name ∈ flags.map (·.name), name ∉ names) → flags.mapM (Flag.onHost? mounts names) = some flags
  | [], _ => rfl
  | f :: flags, h => by
    rw [List.map_cons, List.forall_mem_cons] at h
    have hf : f.onHost? mounts names = some f := if_neg h.1
    rw [List.mapM_cons, hf, Flag.mapM_onHost?_of_not_mem h.2]
    rfl

theorem Flag.mapM_textOnHost? : ∀ {flags found : List Flag}, (∀ f ∈ flags, ' ' ∉ f.name.toList) →
    flags.mapM (Flag.onHost? mounts names) = some found →
    (flags.map Flag.text).mapM (Flag.textOnHost? mounts names) = some (found.map Flag.text)
  | [], found, _, h => by
    cases h
    rfl
  | f :: flags, found, hblank, h => by
    rw [List.forall_mem_cons] at hblank
    rw [List.mapM_cons] at h
    obtain ⟨first, hfirst, h⟩ := Option.bind_eq_some_iff.1 h
    obtain ⟨rest, hrest, h⟩ := Option.bind_eq_some_iff.1 h
    cases h
    have hread : Flag.textOnHost? mounts names f.text = some first.text := by
      rw [Flag.textOnHost?, Flag.ofText_text hblank.1, hfirst, Option.map_some]
    rw [List.map_cons, List.mapM_cons, hread, Flag.mapM_textOnHost? hblank.2 hrest]
    rfl

end Followed

namespace Daemon

/-- The flags whose values are paths. -/
def pathNames : List String :=
  ["--data-dir", "--trusted-ca-file", "--cert-file", "--key-file",
    "--peer-trusted-ca-file", "--peer-cert-file", "--peer-key-file"]

/-- The options of a health check whose values are paths. -/
def clientPathNames : List String := ["--cacert", "--cert", "--key"]

/-- The directories of a member that its container needs. -/
def mounts (c : Cluster) (n : Node) : List Mount :=
  ⟨n.dataPath, Container.dataDir⟩ :: if c.secure then [⟨n.certsPath, Container.certsDir⟩] else []

variable (c : Cluster) (n : Node)

theorem findSome?_dataDir :
    (mounts c n).findSome? (·.onHost? Container.dataDir) = some n.dataPath := by
  have hdata := Mount.onHost?_place ⟨n.dataPath, Container.dataDir⟩
  rw [mounts, List.findSome?_cons, hdata]

theorem findSome?_certsFile (hs : c.secure = true) (file : String) :
    (mounts c n).findSome? (·.onHost? (Container.certsDir ++ "/" ++ file)) =
      some (n.certsPath ++ "/" ++ file) := by
  -- neither place starts with the other, so the mount of the data is passed over
  have hapart : Text.Apart Container.dataDir Container.certsDir := by decide
  have hdata := Mount.onHost?_eq_none ⟨n.dataPath, Container.dataDir⟩ hapart ("/" ++ file)
  have hcerts := Mount.onHost?_below ⟨n.certsPath, Container.certsDir⟩ file
  rw [← String.append_assoc] at hdata
  rw [mounts, if_pos hs, List.findSome?_cons, hdata, List.findSome?_singleton, hcerts]

theorem onHost?_certsFile (hs : c.secure = true) {names : List String} {name : String}
    (hname : name ∈ names) (file : String) :
    Flag.onHost? (mounts c n) names ⟨name, some (Container.certsDir ++ "/" ++ file)⟩ =
      some ⟨name, some (n.certsPath ++ "/" ++ file)⟩ :=
  Flag.onHost?_of_mem hname (findSome?_certsFile c n hs file)

theorem mapM_onHost?_memberFlags (s : FlagStyle) :
    (memberFlags n { s with containerized := true }).mapM (Flag.onHost? (mounts c n) pathNames) =
      some (memberFlags n { s with containerized := false }) := by
  have hother : "--name" ∉ pathNames := by decide
  have hname : Flag.onHost? (mounts c n) pathNames ⟨"--name", some n.name⟩ =
      some ⟨"--name", some n.name⟩ := if_neg hother
  have hdata : Flag.onHost? (mounts c n) pathNames ⟨"--data-dir", some Container.dataDir⟩ =
      some ⟨"--data-dir", some n.dataPath⟩ :=
    Flag.onHost?_of_mem (by decide) (findSome?_dataDir c n)
  unfold memberFlags dataDir
  by_cases hskip : s.skipDataDir = true
  · simp [hskip, hname]
  · simp [hskip, hname, hdata]

theorem mapM_onHost?_encryptionFlags :
    (encryptionFlags c n Container.certsDir).mapM (Flag.onHost? (mounts c n) pathNames) =
      some (encryptionFlags c n n.certsPath) := by
  unfold encryptionFlags
  by_cases hs : c.secure = true
  · have hplain {name : String} (hname : name ∉ pathNames) :
        Flag.onHost? (mounts c n) pathNames ⟨name, none⟩ = some ⟨name, none⟩ := if_neg hname
    simp (disch := decide) only [hs, if_true, List.mapM_cons, List.mapM_nil,
      onHost?_certsFile c n hs, hplain]
    rfl
  · simp [hs]

/-- **Followed through the mounts, the flags of a container are those of the host.** -/
theorem mapM_onHost?_flags (s : FlagStyle) :
    (flags c n { s with containerized := true }).mapM (Flag.onHost? (mounts c n) pathNames) =
      some (flags c n { s with containerized := false }) := by
  have haddress : (addressFlags c n).mapM (Flag.onHost? (mounts c n) pathNames) =
      some (addressFlags c n) := Flag.mapM_onHost?_of_not_mem (by simp [addressFlags, pathNames])
  have hcluster : (clusterFlags c n).mapM (Flag.onHost? (mounts c n) pathNames) =
      some (clusterFlags c n) := Flag.mapM_onHost?_of_not_mem (by simp [clusterFlags, pathNames])
  have hdiagnosis : (diagnosisFlags c).mapM (Flag.onHost? (mounts c n) pathNames) =
      some (diagnosisFlags c) := by
    apply Flag.mapM_onHost?_of_not_mem
    rw [names_diagnosisFlags c s]
    have hother : ∀ name ∈ diagnosisNames, name ∉ pathNames := by decide
    exact fun name hname => hother name (List.mem_of_mem_filter hname)
  have hinside : certsDir n { s with containerized := true } = Container.certsDir := rfl
  have hhost : certsDir n { s with containerized := false } = n.certsPath := rfl
  unfold flags
  simp only [List.mapM_append, mapM_onHost?_memberFlags, haddress, hcluster, hdiagnosis, hinside,
    hhost, mapM_onHost?_encryptionFlags]
  rfl

/-- **Followed through the mounts, the options of a check inside a container are those of the host.** -/
theorem mapM_onHost?_clientFlags :
    (clientFlags c n Container.certsDir).mapM (Flag.onHost? (mounts c n) clientPathNames) =
      some (clientFlags c n n.certsPath) := by
  unfold clientFlags
  by_cases hs : c.secure = true
  · simp (disch := decide) only [hs, if_true, List.mapM_cons, List.mapM_nil,
      onHost?_certsFile c n hs]
    rfl
  · simp [hs]

/-- No flag of the daemon asks for a mount. -/
theorem filterMap_flagTexts (s : FlagStyle) :
    (flagTexts c n s).filterMap Mount.ofSegment? = [] := by
  have hapart : ∀ name ∈ flagNames, Text.Apart "--volume=" name := by decide
  rw [List.filterMap_eq_nil_iff]
  intro t ht
  obtain ⟨name, hname, rest, rfl⟩ := exists_name_of_mem_flagTexts c n s ht
  exact Mount.ofSegment?_eq_none (hapart name (List.mem_of_mem_filter hname)) rest

end Daemon

namespace UnitKind

variable (c : Cluster) (r : Rkt) (n : Node)

theorem filterMap_dockerLauncher :
    (dockerLauncher c n).filterMap Mount.ofSegment? = Daemon.mounts c n := by
  have hprogram : Mount.ofSegment? dockerProgram = none := by decide
  have hrun : Mount.ofSegment? "run" = none := by decide
  have hnet : Mount.ofSegment? "--net=host" = none := by decide
  have hname : Mount.ofSegment? ("--name " ++ Daemon.containerName c) = none :=
    Mount.ofSegment?_eq_none (by decide) _
  have hdata : Mount.ofSegment? ("--volume=" ++ n.dataPath ++ ":" ++ Container.dataDir) =
      some ⟨n.dataPath, Container.dataDir⟩ := Mount.ofSegment?_eq_some _ (by decide)
  have hcerts : Mount.ofSegment? ("--volume=" ++ n.certsPath ++ ":" ++ Container.certsDir) =
      some ⟨n.certsPath, Container.certsDir⟩ := Mount.ofSegment?_eq_some _ (by decide)
  have himage : Mount.ofSegment? ("quay.io/coreos/etcd:" ++ c.version) = none :=
    Mount.ofSegment?_eq_none (by decide) _
  have hdaemon : Mount.ofSegment? "/usr/local/bin/etcd" = none := by decide
  unfold dockerLauncher Daemon.mounts
  by_cases hs : c.secure = true
  · simp [hs, hprogram, hrun, hnet, hname, hdata, hcerts, himage, hdaemon]
  · simp [hs, hprogram, hrun, hnet, hname, hdata, himage, hdaemon]

/-- **The command of a container mounts the directories of the member**, and nothing else. -/
theorem filterMap_segments :
    (segments .docker c r n).filterMap Mount.ofSegment? = Daemon.mounts c n := by
  rw [segments, List.filterMap_append, filterMap_dockerLauncher, Daemon.filterMap_flagTexts,
    List.append_nil]

end UnitKind

namespace Daemon

theorem mapM_textOnHost?_flagTexts (c : Cluster) (n : Node) (s : FlagStyle) :
    (flagTexts c n { s with containerized := true }).mapM
        (Flag.textOnHost? (mounts c n) pathNames) =
      some (flagTexts c n { s with containerized := false }) :=
  Flag.mapM_textOnHost? (fun _ hf => blank_not_mem_name c n _ hf) (mapM_onHost?_flags c n s)

theorem mapM_textOnHost?_healthArguments (c : Cluster) (n : Node) :
    (healthArguments c n Container.certsDir).mapM
        (Flag.textOnHost? (mounts c n) clientPathNames) =
      some (healthArguments c n n.certsPath) := by
  let endpoints : Flag := ⟨"--endpoints", some c.clientEndpointsText⟩
  have hother : "--endpoints" ∉ clientPathNames := by decide
  have hendpoints : Flag.onHost? (mounts c n) clientPathNames endpoints = some endpoints :=
    if_neg hother
  have hflags : (endpoints :: clientFlags c n Container.certsDir).mapM
      (Flag.onHost? (mounts c n) clientPathNames) =
        some (endpoints :: clientFlags c n n.certsPath) := by
    rw [List.mapM_cons, hendpoints, mapM_onHost?_clientFlags]
    rfl
  have hblank : ∀ f ∈ endpoints :: clientFlags c n Container.certsDir, ' ' ∉ f.name.toList := by
    unfold clientFlags
    by_cases hs : c.secure = true
    · simp [hs, endpoints]
    · simp [hs, endpoints]
  -- the command of the client is read as one more flag, of a name whose value is no path
  have hwords : Flag.textOnHost? (mounts c n) clientPathNames "endpoint health" =
      some "endpoint health" := by
    have hread : Flag.ofText "endpoint health" = ⟨"endpoint", some "health"⟩ := by decide
    have hword : "endpoint" ∉ clientPathNames := by decide
    rw [Flag.textOnHost?, hread, Flag.onHost?, if_neg hword]
    rfl
  unfold healthArguments
  rw [List.mapM_append, Flag.mapM_textOnHost? hblank hflags, List.mapM_cons, hwords]
  rfl

/-- The flags inside a container are those of a member whose directories are its places. -/
theorem flagTexts_containerized (c : Cluster) (n : Node) (s : FlagStyle) :
    flagTexts c n { s with containerized := true } =
      flagTexts c { n with dataDir := some Container.dataDir, certsDir := some Container.certsDir }
        { s with containerized := false } := by
  let inside : Node :=
    { n with dataDir := some Container.dataDir, certsDir := some Container.certsDir }
  have hdata : Directory.strip Container.dataDir = Container.dataDir := by decide
  have hcerts : Directory.strip Container.certsDir = Container.certsDir := by decide
  have hdir : dataDir inside { s with containerized := false } = Container.dataDir := hdata
  have hcertsDir : certsDir inside { s with containerized := false } = Container.certsDir := hcerts
  unfold flagTexts flags memberFlags
  rw [hdir, hcertsDir]
  rfl

end Daemon

/-- The file of a service that runs a container has the command on lines of its own. -/
theorem UnitKind.exists_body_docker (c : Cluster) (r : Rkt) (n : Node) :
    ∃ front back, body .docker c r n =
      Script.lines front ++ "ExecStart=" ++ Script.command (segments .docker c r n) ++ "\n\n" ++
        Script.lines back := by
  obtain ⟨front, back, hbody⟩ : ∃ front back, body .docker c r n =
      Script.lines (front ++ ("ExecStart=" ++ commandText .docker c r n) :: "" :: back) :=
    ⟨["[Unit]", "Description=etcd with Docker", "Documentation=https://github.com/coreos/etcd", "",
      "[Service]", "Restart=always", "RestartSec=5s", "TimeoutStartSec=0", "LimitNOFILE=40000", ""],
      ["ExecStop=" ++ dockerProgram ++ " stop " ++ Daemon.containerName c, ""] ++ installSection, rfl⟩
  refine ⟨front, back, ?_⟩
  rw [hbody, commandText_eq, Script.lines_append, Script.lines_cons, Script.lines_cons]
  simp only [String.append_assoc]
  rfl

/-- **What a container is told about its paths leads to the files of the host.**  The flags inside a
container are those of a member whose directories are the places in the container.  The command of the
container mounts the data directory of the member there, and exactly in a secure cluster its directory of
certificates; followed through these mounts, the paths that the flags name inside give the flags of the
host, and nothing else in them is different.  So it is with the options of the health check that is run
inside the container, which asks the same members as the one on the host. -/
theorem Daemon.container_paths_lead_to_host (c : Cluster) (r : Rkt) (n : Node) :
    let segments := UnitKind.segments .docker c r n
    let mounts := segments.filterMap Mount.ofSegment?
    let program := "ETCDCTL_API=3 " ++ Directory.executable c.execDir "etcdctl"
    (∀ s : FlagStyle, flagTexts c n { s with containerized := true } =
      flagTexts c { n with dataDir := some "/etcd-data", certsDir := some "/etcd-ssl-certs-dir" }
        { s with containerized := false }) ∧
    (∃ path front back, (UnitKind.docker.unitScript c r n).documents =
      [⟨path, Script.lines front ++ "ExecStart=" ++ Script.command segments ++ "\n\n" ++
        Script.lines back⟩]) ∧
    segments = UnitKind.dockerLauncher c n ++ flagTexts c n { containerized := true } ∧
    mounts = ⟨n.dataPath, "/etcd-data"⟩ ::
      (if c.secure then [⟨n.certsPath, "/etcd-ssl-certs-dir"⟩] else []) ∧
    (∀ s : FlagStyle,
      (flagTexts c n { s with containerized := true }).mapM (Flag.textOnHost? mounts pathNames) =
        some (flagTexts c n { s with containerized := false })) ∧
    ∃ outside inside,
      health c n false = Script.command (program :: outside) ∧
      health c n true = Script.command (program :: outside) ++
        "\n\n\n# to use 'docker' command to check the status\n" ++
        Script.command ["/usr/bin/docker", "exec", containerName c,
          "/bin/sh -c \"" ++ String.intercalate " "
            ("export ETCDCTL_API=3 &&" :: "/usr/local/bin/etcdctl" :: inside) ++ "\""] ++ "\n\n" ∧
      Flag.given outside "--endpoints" = [c.clientEndpointsText] ∧
      Flag.given inside "--endpoints" = [c.clientEndpointsText] ∧
      inside.mapM (Flag.textOnHost? mounts clientPathNames) = some outside := by
  intro segments mounts program
  have hmounts : mounts = Daemon.mounts c n := UnitKind.filterMap_segments c r n
  obtain ⟨front, back, hbody⟩ := UnitKind.exists_body_docker c r n
  obtain ⟨hhost, hcontainer⟩ := health_eq c n
  rw [hmounts]
  refine ⟨flagTexts_containerized c n, ⟨UnitKind.draftFile .docker n, front, back, ?_⟩, rfl, rfl,
    mapM_textOnHost?_flagTexts c n, healthArguments c n n.certsPath,
    healthArguments c n Container.certsDir, hhost, hcontainer, ?_, ?_, ?_⟩
  · rw [← hbody]
    rfl
  · exact given_healthArguments_endpoints c n n.certsPath
  · exact given_healthArguments_endpoints c n Container.certsDir
  · exact mapM_textOnHost?_healthArguments c n

/-- In the encrypted sample cluster both directories are mounted, and the flags inside the container name
seven paths. -/
example :
    let n := Sample.node "s1" 2379 2380
    let mounts := (UnitKind.segments .docker Sample.cluster {} n).filterMap Mount.ofSegment?
    let inside := (Daemon.flagTexts Sample.cluster n { containerized := true }).filter fun text =>
      decide ((Flag.ofText text).name ∈ Daemon.pathNames)
    mounts = [⟨"/tmp/etcd/s1", "/etcd-data"⟩, ⟨"$\x7bHOME\x7d/certs", "/etcd-ssl-certs-dir"⟩] ∧
      inside = ["--data-dir /etcd-data",
        "--trusted-ca-file /etcd-ssl-certs-dir/etcd-root-ca.pem",
        "--cert-file /etcd-ssl-certs-dir/s1.pem",
        "--key-file /etcd-ssl-certs-dir/s1-key.pem",
        "--peer-trusted-ca-file /etcd-ssl-certs-dir/etcd-root-ca.pem",
        "--peer-cert-file /etcd-ssl-certs-dir/s1.pem",
        "--peer-key-file /etcd-ssl-certs-dir/s1-key.pem"] ∧
      inside.mapM (Flag.textOnHost? mounts Daemon.pathNames) = some ["--data-dir /tmp/etcd/s1",
        "--trusted-ca-file $\x7bHOME\x7d/certs/etcd-root-ca.pem",
        "--cert-file $\x7bHOME\x7d/certs/s1.pem",
        "--key-file $\x7bHOME\x7d/certs/s1-key.pem",
        "--peer-trusted-ca-file $\x7bHOME\x7d/certs/etcd-root-ca.pem",
        "--peer-cert-file $\x7bHOME\x7d/certs/s1.pem",
        "--peer-key-file $\x7bHOME\x7d/certs/s1-key.pem"] := by
  decide +kernel

end EtcdKit
