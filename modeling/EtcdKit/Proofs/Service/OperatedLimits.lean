import EtcdKit.Proofs.Cluster.MappedNodes
import EtcdKit.Proofs.Cluster.Validity
import EtcdKit.Proofs.Script.Reading
import EtcdKit.Proofs.Script.Templates
/-!
# OperatedLimits — the numbers that an operator is given

The resource of a cluster that an operator keeps is a template with four numbers in it, and its text tells
which (`Operator.Holds.unique`).  Three of them are moved into their documented ranges.  The fourth is the
number of members, and no range keeps that from being zero: a cluster that is declared too large may have
no nodes (`resource_within_limits`).
-/
namespace EtcdKit

open Script

/-- The line behind a numeral starts where the numeral ends, so a text tells the number. -/
theorem Script.numeral_line_inj (before : List String) {front : String} {m n : Nat}
    {after after' : List String}
    (h : lines (before ++ (front ++ toString m) :: after) =
      lines (before ++ (front ++ toString n) :: after')) :
    m = n ∧ lines after = lines after' := by
  have hbreak : ∀ k : Nat, '\n' ∉ (toString k).toList := Text.not_mem_toString (by decide)
  rw [lines_append, lines_append, String.append_right_inj, lines_cons, lines_cons,
    String.append_assoc, String.append_assoc, String.append_assoc, String.append_assoc,
    String.append_right_inj] at h
  have hchars : (toString m).toList ++ '\n' :: (lines after).toList =
      (toString n).toList ++ '\n' :: (lines after').toList := by
    simpa using congrArg String.toList h
  have hcut := congrArg (Text.cutFirst? '\n') hchars
  rw [Text.cutFirst?_append (hbreak m), Text.cutFirst?_append (hbreak n)] at hcut
  obtain ⟨hnumeral, hrest⟩ := Prod.mk.inj (Option.some.inj hcut)
  have hnumber : some m = some n := by
    rw [← Text.readNat_toString m, ← Text.readNat_toString n, hnumeral]
  exact ⟨Option.some.inj hnumber, String.toList_inj.1 hrest⟩

namespace Operator

/-- The numbers in a resource. -/
structure Numbers where
  size : Nat
  snapshotInterval : Nat
  maxSnapshots : Nat
  backupVolume : Nat
  deriving DecidableEq, Repr

section Resource

variable (o : Operator) (c : Cluster)

/-- The template with these numbers, and with the texts of the settings. -/
def fillingWith (ns : Numbers) : Filling :=
  ⟨.operatorResource,
    [("name", o.name), ("size", toString ns.size), ("version", imageVersion c),
      ("snapshot_interval", toString ns.snapshotInterval),
      ("max_snapshots", toString ns.maxSnapshots), ("storage_type", o.storageType),
      ("volume_mb", toString ns.backupVolume)]⟩

/-- A text is the resource of the cluster with these numbers. -/
def Holds (text : String) (ns : Numbers) : Prop := (o.fillingWith c ns).text? = some text

def resourceLines (ns : Numbers) : List String :=
  ["apiVersion: \"etcd.coreos.com/v1beta1\"", "kind: \"Cluster\"", "metadata:",
    "  name: \"" ++ o.name ++ "\"", "spec:", "  size: " ++ toString ns.size,
    "  version: \"" ++ imageVersion c ++ "\"", "  backup:",
    "    backupIntervalInSecond: " ++ toString ns.snapshotInterval,
    "    maxBackups: " ++ toString ns.maxSnapshots,
    "    storageType: \"" ++ o.storageType ++ "\"", "    pv:",
    "      volumeSizeInMB: " ++ toString ns.backupVolume]

theorem holds_iff {text : String} {ns : Numbers} :
    o.Holds c text ns ↔ text = lines (o.resourceLines c ns) := by
  have hfill : (o.fillingWith c ns).text? = some (lines (o.resourceLines c ns)) := by
    refine Filling.text?_eq_some rfl ?_
    simp [lines, resourceLines]
  unfold Holds
  rw [hfill, Option.some.injEq, eq_comm]

variable {o c}

/-- **A resource tells its numbers**, whatever the texts around them are. -/
theorem Holds.unique {text : String} {ns ms : Numbers} (hns : o.Holds c text ns)
    (hms : o.Holds c text ms) : ns = ms := by
  have h := ((o.holds_iff c).1 hns).symm.trans ((o.holds_iff c).1 hms)
  -- from one numeral to the next, and only fixed lines and texts of the settings between them
  obtain ⟨hsize, h⟩ := numeral_line_inj
    ["apiVersion: \"etcd.coreos.com/v1beta1\"", "kind: \"Cluster\"", "metadata:",
      "  name: \"" ++ o.name ++ "\"", "spec:"] h
  obtain ⟨hinterval, h⟩ := numeral_line_inj
    ["  version: \"" ++ imageVersion c ++ "\"", "  backup:"] h
  obtain ⟨hsnapshots, h⟩ := numeral_line_inj [] h
  obtain ⟨hvolume, -⟩ := numeral_line_inj
    ["    storageType: \"" ++ o.storageType ++ "\"", "    pv:"] h
  cases ns
  cases ms
  simp_all

end Resource

/-- The numbers that are written for the settings of an operator and a cluster. -/
def written (o : Operator) (c : Cluster) : Numbers :=
  ⟨c.memberCount, o.writtenSnapshotInterval, o.writtenMaxSnapshots, o.writtenBackupVolume⟩

theorem holds_resource (o : Operator) (c : Cluster) :
    o.Holds c (o.resource c) (o.written c) :=
  o.text?_filling c

end Operator

/-- A number is written within these bounds, and as it is set if it lies there. -/
structure Bounds.Keeps (b : Bounds) (set written : Nat) : Prop where
  lower : b.lower ≤ written
  upper : written ≤ b.upper
  kept : b.lower ≤ set → set ≤ b.upper → written = set

theorem Bounds.keeps_clamp {b : Bounds} (h : b.lower ≤ b.upper) (set : Nat) :
    b.Keeps set (b.clamp set) where
  lower := (clamp_mem h set).1
  upper := (clamp_mem h set).2
  kept := clamp_eq_self

namespace Cluster

theorem memberCount_le (c : Cluster) : c.memberCount ≤ 7 :=
  Nat.le_trans (Nat.min_le_left _ _) (Bounds.clamp_mem (b := Bounds.clusterSize) (by decide) _).2

/-- A cluster without fault has a member, unless it is declared too large and has no nodes. -/
theorem memberCount_eq_zero_iff {c : Cluster} (hc : c.fault? = none) :
    c.memberCount = 0 ↔ 7 < c.size.toNat ∧ c.nodes = [] := by
  have hrequired : 1 ≤ c.requiredMembers :=
    (Bounds.clamp_mem (b := Bounds.clusterSize) (by decide) _).1
  have hzero : c.memberCount = 0 ↔ c.nodes = [] := by
    rw [← List.length_eq_zero_iff, memberCount]
    omega
  rw [hzero]
  refine ⟨fun hnil => ⟨?_, hnil⟩, And.right⟩
  by_contra hsize
  obtain ⟨-, -, henough⟩ := (fault?_eq_none_iff c).1 hc
  have hlength := henough (oversize_eq_false_iff.2 (Nat.le_of_not_lt hsize))
  rw [hnil] at hlength
  exact absurd (Nat.le_trans hrequired hlength) (by decide)

end Cluster

/-- **The numbers in the resource of a valid profile stand in their documented ranges**, all but one.  The
script of the operator writes one file, and its text tells the numbers in it.  The three that concern the
backups stand in their ranges, and are written as they are set if they lie there.  The size is the number of
client addresses and at most seven; it is zero for a cluster that is declared too large and has no nodes,
and for no other. -/
theorem resource_within_limits {p : Profile} (hvalid : p.validate = .ok ()) :
    ∃ path text, (p.operator.script p.cluster).documents = [⟨path, text⟩] ∧
    ∃ ns, p.operator.Holds p.cluster text ns ∧ (∀ ms, p.operator.Holds p.cluster text ms → ms = ns) ∧
      ns.size = p.cluster.clientUrls.length ∧ ns.size ≤ 7 ∧
      (ns.size < 1 ↔ 7 < p.cluster.size.toNat ∧ p.cluster.nodes = []) ∧
      Bounds.Keeps ⟨30, 86400⟩ p.operator.snapshotInterval.toNat ns.snapshotInterval ∧
      Bounds.Keeps ⟨1, 100⟩ p.operator.maxSnapshots.toNat ns.maxSnapshots ∧
      Bounds.Keeps ⟨128, 102400⟩ p.operator.backupVolume.toNat ns.backupVolume := by
  obtain ⟨hcluster, -⟩ := p.validate_eq_ok_iff.1 hvalid
  have hholds := p.operator.holds_resource p.cluster
  have hlength : p.cluster.clientUrls.length = p.cluster.memberCount := by
    rw [Cluster.clientUrls, List.length_map, Cluster.length_members]
  refine ⟨_, _, rfl, _, hholds, fun ms hms => hms.unique hholds, hlength.symm, p.cluster.memberCount_le,
    ?_, Bounds.keeps_clamp (by decide) _, Bounds.keeps_clamp (by decide) _,
    Bounds.keeps_clamp (by decide) _⟩
  rw [Nat.lt_one_iff]
  exact Cluster.memberCount_eq_zero_iff hcluster

/-- The sample deployment with a cluster of no declared size, and with backups as rare as can be
and as many as can be written down. -/
def Sample.hoarding : Profile :=
  { profile with
    cluster := { cluster with size := 0 }
    operator := { snapshotInterval := 86400, maxSnapshots := 18446744073709551615, backupVolume := 0 } }

theorem hoarding_resource_within_limits :
    Sample.hoarding.validate = .ok () ∧
      ∃ path text, (Sample.hoarding.operator.script Sample.hoarding.cluster).documents =
          [⟨path, text⟩] ∧
        ∃ ns, Sample.hoarding.operator.Holds Sample.hoarding.cluster text ns ∧
          1 ≤ ns.size ∧ ns.snapshotInterval = 86400 ∧ ns.maxSnapshots ≤ 100 ∧
          128 ≤ ns.backupVolume := by
  have hvalid : Sample.hoarding.validate = .ok () := by decide +kernel
  obtain ⟨path, text, hwritten, ns, hholds, -, -, -, hsize, hinterval, hsnapshots, hvolume⟩ :=
    resource_within_limits hvalid
  have hmember : 1 ≤ ns.size := by
    by_contra hnone
    exact absurd (hsize.1 (Nat.lt_of_not_le hnone)) (by decide)
  exact ⟨hvalid, path, text, hwritten, ns, hholds, hmember,
    hinterval.kept (by decide) (by decide), hsnapshots.upper, hvolume.lower⟩

/-- The sample deployment, declared too large and without nodes. -/
def Sample.deserted : Profile := { profile with cluster := { cluster with size := 9, nodes := [] } }

/-- A valid profile for which an operator is told to keep a cluster of no members. -/
theorem deserted_resource_without_size :
    Sample.deserted.validate = .ok () ∧
      ∃ path text, (Sample.deserted.operator.script Sample.deserted.cluster).documents =
          [⟨path, text⟩] ∧
        Sample.deserted.operator.Holds Sample.deserted.cluster text ⟨0, 1800, 5, 512⟩ ∧
        ∀ ns, Sample.deserted.operator.Holds Sample.deserted.cluster text ns → ¬ 1 ≤ ns.size := by
  have hholds := Sample.deserted.operator.holds_resource Sample.deserted.cluster
  have hwritten : Sample.deserted.operator.written Sample.deserted.cluster = ⟨0, 1800, 5, 512⟩ := by
    decide
  rw [hwritten] at hholds
  refine ⟨by decide +kernel, _, _, rfl, hholds, fun ns hns => ?_⟩
  rw [hns.unique hholds]
  decide

end EtcdKit
