import EtcdKit.Target
/-!
# Templates — the files that scripts write are filled templates

Every file that a script writes is a fixed text with places in it, and the profile gives a value for
each place.  Filling is strict: a place without a value leaves nothing to write
(`Template.fill?_eq_none_iff`).
-/
namespace EtcdKit

/-- A part of a line: a fixed text, or a place for the value of that name. -/
inductive TemplatePart where
  | fixed (content : String)
  | place (name : String)
  deriving DecidableEq, Repr

/-- A template, line by line. -/
abbrev Template := List (List TemplatePart)

abbrev Values := List (String × String)

namespace TemplatePart

def place? : TemplatePart → Option String
  | .fixed _ => none
  | .place name => some name

/-- A part with the value for its place. -/
def fill? (values : Values) : TemplatePart → Option String
  | .fixed content => some content
  | .place name => values.lookup name

theorem fill?_eq_none_iff {values : Values} {part : TemplatePart} :
    part.fill? values = none ↔ ∃ name, part.place? = some name ∧ values.lookup name = none := by
  cases part with
  | fixed content => simp [fill?, place?]
  | place name => simp [fill?, place?]

end TemplatePart

namespace Template

/-- Lines without a place. -/
def fixedLines (ls : List String) : Template := ls.map fun line => [.fixed line]

def places (t : Template) : List String := t.flatten.filterMap TemplatePart.place?

/-- A line with the values for its places. -/
def fillLine? (values : Values) (line : List TemplatePart) : Option String :=
  (line.mapM (TemplatePart.fill? values)).map String.join

def fill? (t : Template) (values : Values) : Option String :=
  (t.mapM (fillLine? values)).map Script.lines

theorem mapM_eq_none_iff {α β : Type} {f : α → Option β} : ∀ {xs : List α},
    xs.mapM f = none ↔ ∃ x ∈ xs, f x = none
  | [] => by simp
  | x :: xs => by
    rw [List.mapM_cons]
    cases hx : f x with
    | none => simp [hx]
    | some y =>
      cases hxs : xs.mapM f with
      | none =>
        have hlater := mapM_eq_none_iff.1 hxs
        simpa [hx] using hlater
      | some ys =>
        have hlater : ¬ ∃ x ∈ xs, f x = none := fun h => by
          rw [mapM_eq_none_iff.2 h] at hxs
          cases hxs
        simpa [hx] using hlater

/-- **Filling is strict**: nothing is written exactly if a place has no value. -/
theorem fill?_eq_none_iff {t : Template} {values : Values} :
    t.fill? values = none ↔ ∃ name ∈ t.places, values.lookup name = none := by
  unfold fill? places
  rw [Option.map_eq_none_iff, mapM_eq_none_iff]
  simp only [fillLine?, Option.map_eq_none_iff, mapM_eq_none_iff, TemplatePart.fill?_eq_none_iff,
    List.mem_filterMap, List.mem_flatten]
  constructor
  · rintro ⟨line, hline, part, hpart, name, hname, hnone⟩
    exact ⟨name, ⟨part, ⟨line, hline, hpart⟩, hname⟩, hnone⟩
  · rintro ⟨name, ⟨part, ⟨line, hline, hpart⟩, hname⟩, hnone⟩
    exact ⟨line, hline, part, hpart, name, hname, hnone⟩

/-! ## The templates

The certificate programs read requests and a signing policy, the operating system reads the file of a
service or an addition to one, and an operator reads a resource. -/

def requestHead : Template :=
  fixedLines ["\x7b", "  \"key\": \x7b"] ++
  [[.fixed "    \"algo\": \"", .place "algo", .fixed "\","],
    [.fixed "    \"size\": ", .place "size"]] ++
  fixedLines ["  \x7d,", "  \"names\": [", "    \x7b"] ++
  [[.fixed "      \"O\": \"", .place "organization", .fixed "\","],
    [.fixed "      \"OU\": \"", .place "organization_unit", .fixed "\","],
    [.fixed "      \"L\": \"", .place "city", .fixed "\","],
    [.fixed "      \"ST\": \"", .place "state", .fixed "\","],
    [.fixed "      \"C\": \"", .place "country", .fixed "\""]] ++
  fixedLines ["    \x7d", "  ],"]

def rootRequest : Template :=
  requestHead ++ [[.fixed "  \"CN\": \"", .place "common_name", .fixed "\""], [.fixed "\x7d"]]

def memberRequest : Template :=
  requestHead ++
  [[.fixed "  \"CN\": \"", .place "common_name", .fixed "\","],
    [.fixed "  \"hosts\": ["],
    [.place "hosts"]] ++
  fixedLines ["  ]", "\x7d"]

def signingPolicy : Template :=
  fixedLines
    ["\x7b",
      "  \"signing\": \x7b",
      "    \"default\": \x7b",
      "        \"usages\": [",
      "          \"signing\",",
      "          \"key encipherment\",",
      "          \"server auth\",",
      "          \"client auth\"",
      "        ],"] ++
  [[.fixed "        \"expiry\": \"", .place "expiry_hours", .fixed "h\""]] ++
  fixedLines ["    \x7d", "  \x7d", "\x7d"]

def installSection : Template := fixedLines ["", "[Install]", "WantedBy=multi-user.target"]

def systemdUnit : Template :=
  fixedLines
    ["[Unit]",
      "Description=etcd",
      "Documentation=https://github.com/coreos/etcd",
      "Conflicts=etcd.service",
      "Conflicts=etcd2.service",
      "",
      "[Service]",
      "Type=notify",
      "Restart=always",
      "RestartSec=5s",
      "LimitNOFILE=40000",
      "TimeoutStartSec=0",
      ""] ++
  [[.fixed "ExecStart=", .place "exec_start"]] ++ installSection

def dockerUnit : Template :=
  fixedLines
    ["[Unit]",
      "Description=etcd with Docker",
      "Documentation=https://github.com/coreos/etcd",
      "",
      "[Service]",
      "Restart=always",
      "RestartSec=5s",
      "TimeoutStartSec=0",
      "LimitNOFILE=40000",
      ""] ++
  [[.fixed "ExecStart=", .place "exec_start"],
    [.fixed ""],
    [.fixed "ExecStop=", .place "exec_stop"]] ++ installSection

def rktUnit : Template :=
  fixedLines
    ["[Unit]",
      "Description=etcd with rkt",
      "Documentation=https://github.com/coreos/rkt",
      "",
      "[Service]",
      "Restart=always",
      "RestartSec=5s",
      "TimeoutStartSec=0",
      "LimitNOFILE=40000",
      ""] ++
  [[.fixed "ExecStart=", .place "exec_start"]] ++ installSection

def coreosAddition : Template :=
  [[.fixed "[Service]"],
    [.fixed "Environment=\"ETCD_IMAGE_TAG=", .place "version", .fixed "\""],
    [.fixed "Environment=\"ETCD_DATA_DIR=", .place "data_dir", .fixed "\""],
    [.fixed "Environment=\"ETCD_SSL_DIR=", .place "certs_dir", .fixed "\""],
    [.fixed "Environment=\"ETCD_OPTS=", .place "opts", .fixed "\""]]

def operatorResource : Template :=
  fixedLines ["apiVersion: \"etcd.coreos.com/v1beta1\"", "kind: \"Cluster\"", "metadata:"] ++
  [[.fixed "  name: \"", .place "name", .fixed "\""],
    [.fixed "spec:"],
    [.fixed "  size: ", .place "size"],
    [.fixed "  version: \"", .place "version", .fixed "\""],
    [.fixed "  backup:"],
    [.fixed "    backupIntervalInSecond: ", .place "snapshot_interval"],
    [.fixed "    maxBackups: ", .place "max_snapshots"],
    [.fixed "    storageType: \"", .place "storage_type", .fixed "\""],
    [.fixed "    pv:"],
    [.fixed "      volumeSizeInMB: ", .place "volume_mb"]]

end Template

/-! ## What is put into them -/

/-- A template with the values that a script puts into it. -/
structure Filling where
  template : Template
  values : Values
  deriving DecidableEq, Repr

/-- The text that comes of it, if every place has a value. -/
def Filling.text? (f : Filling) : Option String := f.template.fill? f.values

/-- A filled line is put together from other pieces than the line that a script writes, so the two
texts are compared by their characters. -/
theorem Filling.text?_eq_some {f : Filling} {filled : List String} {text : String}
    (hfilled : f.template.mapM (Template.fillLine? f.values) = some filled)
    (htext : (Script.lines filled).toList = text.toList) : f.text? = some text := by
  unfold Filling.text? Template.fill?
  rw [hfilled, Option.map_some, String.toList_inj.1 htext]

namespace CertificateAuthority

variable (ca : CertificateAuthority)

def headValues : Values :=
  [("algo", ca.keyAlgorithm), ("size", toString ca.writtenKeySize),
    ("organization", ca.organization), ("organization_unit", ca.organizationUnit),
    ("city", ca.city), ("state", ca.state), ("country", ca.country)]

def rootFilling : Filling := ⟨.rootRequest, ca.headValues ++ [("common_name", ca.commonName)]⟩

def policyFilling : Filling :=
  ⟨.signingPolicy, [("expiry_hours", toString ca.writtenExpiryHours)]⟩

def memberFilling (n : Node) : Filling :=
  let hosts := certificateHosts (n.address :: Text.lines ca.extraHosts)
  ⟨.memberRequest, ca.headValues ++
    [("common_name", n.name), ("hosts", String.intercalate ",\n" (hosts.map hostLine))]⟩

theorem text?_rootFilling : ca.rootFilling.text? = some ca.rootRequest := by
  refine Filling.text?_eq_some rfl ?_
  simp [Script.lines, rootRequest, requestHead, quotedMember]

theorem text?_policyFilling : ca.policyFilling.text? = some ca.signingPolicy := by
  refine Filling.text?_eq_some rfl ?_
  simp [Script.lines, signingPolicy, quotedMember]

theorem text?_memberFilling (n : Node) :
    (ca.memberFilling n).text? = some (ca.memberRequest n.name
      (certificateHosts (n.address :: Text.lines ca.extraHosts))) := by
  refine Filling.text?_eq_some rfl ?_
  simp [Script.lines, memberRequest, requestHead, quotedMember]

end CertificateAuthority

namespace UnitKind

def filling (kind : UnitKind) (c : Cluster) (r : Rkt) (n : Node) : Filling :=
  let command := kind.commandText c r n
  match kind with
  | .systemd => ⟨.systemdUnit, [("exec_start", command)]⟩
  | .docker => ⟨.dockerUnit, [("exec_start", command),
      ("exec_stop", dockerProgram ++ " stop " ++ Daemon.containerName c)]⟩
  | .rkt => ⟨.rktUnit, [("exec_start", command)]⟩
  | .coreos => ⟨.coreosAddition, [("version", c.version), ("data_dir", n.dataPath),
      ("certs_dir", n.certsPath), ("opts", command)]⟩

theorem text?_filling (kind : UnitKind) (c : Cluster) (r : Rkt) (n : Node) :
    (kind.filling c r n).text? = some (kind.body c r n) := by
  cases kind <;> refine Filling.text?_eq_some rfl ?_
  all_goals simp [Script.lines, body, installSection]

end UnitKind

namespace Operator

def filling (o : Operator) (c : Cluster) : Filling :=
  ⟨.operatorResource,
    [("name", o.name), ("size", toString c.memberCount), ("version", imageVersion c),
      ("snapshot_interval", toString o.writtenSnapshotInterval),
      ("max_snapshots", toString o.writtenMaxSnapshots), ("storage_type", o.storageType),
      ("volume_mb", toString o.writtenBackupVolume)]⟩

theorem text?_filling (o : Operator) (c : Cluster) :
    (o.filling c).text? = some (o.resource c) := by
  refine Filling.text?_eq_some rfl ?_
  simp [Script.lines, resource]

end Operator
end EtcdKit
