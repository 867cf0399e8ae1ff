import EtcdKit.Daemon.Health
import EtcdKit.Proofs.Text.Splitting
/-!
# WrittenFlags — flags read back from their texts

A flag is written as its name, a blank and its value, and no name has a blank in it, so the first
blank ends the name (`ofText_text`).  The flags of a member stand once each (`nodup_names_flags`), so
each has one value in what is written for the member (`given_flagTexts`).
-/
namespace EtcdKit

namespace Flag

/-- The flag that a text writes: its name goes up to the first blank. -/
def ofText (text : String) : Flag :=
  match Text.splitFirst? ' ' text with
  | some (name, value) => ⟨name, some value⟩
  | none => ⟨text, none⟩

/-- The values that flags have under a name. -/
def valuesOf (flags : List Flag) (name : String) : List String :=
  flags.filterMap fun f => if f.name = name then f.value else none

/-- The values that written flags give under a name. -/
def given (texts : List String) (name : String) : List String := valuesOf (texts.map ofText) name

/-- **A flag is read back from its text** if there is no blank in its name. -/
theorem ofText_text {f : Flag} (h : ' ' ∉ f.name.toList) : ofText f.text = f := by
  obtain ⟨name, value⟩ := f
  cases value with
  | none =>
    unfold ofText text
    rw [Text.splitFirst?_eq_none h]
  | some value =>
    unfold ofText text
    rw [Text.splitFirst?_append rfl h value]

theorem map_ofText_map_text {flags : List Flag} (h : ∀ f ∈ flags, ' ' ∉ f.name.toList) :
    (flags.map text).map ofText = flags := by
  rw [List.map_map]
  calc flags.map (ofText ∘ text) = flags.map id :=
        List.map_congr_left fun f hf => ofText_text (h f hf)
    _ = flags := List.map_id flags

theorem valuesOf_cons_self {f : Flag} {value : String} (h : f.value = some value)
    (flags : List Flag) : valuesOf (f :: flags) f.name = value :: valuesOf flags f.name :=
  List.filterMap_cons_some (by rw [if_pos rfl, h])

theorem valuesOf_cons_of_ne {f : Flag} {name : String} (h : f.name ≠ name) (flags : List Flag) :
    valuesOf (f :: flags) name = valuesOf flags name :=
  List.filterMap_cons_none (if_neg h)

theorem valuesOf_eq_nil {flags : List Flag} {name : String} (h : name ∉ flags.map (·.name)) :
    valuesOf flags name = [] := by
  unfold valuesOf
  rw [List.filterMap_eq_nil_iff]
  intro f hf
  have hn : f.name ≠ name := fun e => h (e ▸ List.mem_map_of_mem hf)
  rw [if_neg hn]

/-- **A flag that stands among flags of other names** is the only one of its name. -/
theorem valuesOf_of_mem {name value : String} : ∀ {flags : List Flag},
    (flags.map (·.name)).Nodup → ⟨name, some value⟩ ∈ flags → valuesOf flags name = [value]
  | f :: flags, hd, hm => by
    rw [List.map_cons, List.nodup_cons] at hd
    rcases List.mem_cons.1 hm with rfl | hm
    · have hself := valuesOf_cons_self (f := ⟨name, some value⟩) rfl flags
      rw [valuesOf_eq_nil hd.1] at hself
      exact hself
    · have hn : f.name ≠ name := fun e => hd.1 (e ▸ List.mem_map_of_mem hm)
      rw [valuesOf_cons_of_ne hn, valuesOf_of_mem hd.2 hm]

end Flag

namespace Daemon

/-- The names of all flags, in the order in which they are written. -/
def flagNames : List String :=
  ["--name", "--data-dir",
    "--listen-client-urls", "--advertise-client-urls",
    "--listen-peer-urls", "--initial-advertise-peer-urls",
    "--initial-cluster", "--initial-cluster-token", "--initial-cluster-state",
    "--trusted-ca-file", "--cert-file", "--key-file",
    "--peer-trusted-ca-file", "--peer-cert-file", "--peer-key-file",
    "--client-cert-auth", "--peer-client-cert-auth",
    "--enable-pprof", "--debug", "--auto-compaction-retention"]

variable (c : Cluster) (n : Node) (s : FlagStyle)

/-- **The flags of a member stand in one order**; some may be left out. -/
theorem names_flags_sublist : ((flags c n s).map (·.name)).Sublist flagNames := by
  have hmember : ((memberFlags n s).map (·.name)).Sublist ["--name", "--data-dir"] := by
    unfold memberFlags
    cases s.skipDataDir <;> simp
  have hencryption : ((encryptionFlags c n (certsDir n s)).map (·.name)).Sublist
      ["--trusted-ca-file", "--cert-file", "--key-file", "--peer-trusted-ca-file",
        "--peer-cert-file", "--peer-key-file", "--client-cert-auth", "--peer-client-cert-auth"] := by
    unfold encryptionFlags
    cases c.secure <;> simp
  have hdiagnosis : ((diagnosisFlags c).map (·.name)).Sublist
      ["--enable-pprof", "--debug", "--auto-compaction-retention"] := by
    unfold diagnosisFlags
    by_cases hr : c.compactionRetention = 0
    · cases c.enableProfile <;> cases c.debug <;> simp [hr]
    · cases c.enableProfile <;> cases c.debug <;> simp [hr]
  have h := (((hmember.append (List.Sublist.refl ((addressFlags c n).map (·.name)))).append
    (List.Sublist.refl ((clusterFlags c n).map (·.name)))).append hencryption).append hdiagnosis
  simp only [← List.map_append] at h
  exact h

/-- **The flags of a member stand once each.** -/
theorem nodup_names_flags : ((flags c n s).map (·.name)).Nodup :=
  (names_flags_sublist c n s).nodup (by decide)

theorem blank_not_mem_name {f : Flag} (hf : f ∈ flags c n s) : ' ' ∉ f.name.toList := by
  have hname : f.name ∈ flagNames :=
    (names_flags_sublist c n s).subset (List.mem_map_of_mem hf)
  have hblank : ∀ name ∈ flagNames, ' ' ∉ name.toList := by decide
  exact hblank f.name hname

theorem map_ofText_flagTexts : (flagTexts c n s).map Flag.ofText = flags c n s :=
  Flag.map_ofText_map_text fun _ hf => blank_not_mem_name c n s hf

/-- **What is written for a member gives each flag one value.** -/
theorem given_flagTexts {name value : String} (h : ⟨name, some value⟩ ∈ flags c n s) :
    Flag.given (flagTexts c n s) name = [value] := by
  unfold Flag.given
  rw [map_ofText_flagTexts]
  exact Flag.valuesOf_of_mem (nodup_names_flags c n s) h

/-- **What a health check says gives each flag one value.** -/
theorem given_healthArguments {dir name value : String}
    (h : ⟨name, some value⟩ ∈
      (⟨"--endpoints", some c.clientEndpointsText⟩ : Flag) :: clientFlags c n dir) :
    Flag.given (healthArguments c n dir) name = [value] := by
  have hsub : (((⟨"--endpoints", some c.clientEndpointsText⟩ : Flag) :: clientFlags c n dir).map
      (·.name)).Sublist ["--endpoints", "--cacert", "--cert", "--key"] := by
    unfold clientFlags
    cases c.secure <;> simp
  have hblank : ∀ name ∈ ["--endpoints", "--cacert", "--cert", "--key"], ' ' ∉ name.toList := by
    decide
  -- the words at the end are read as one more flag, of a name that no flag has
  have hread : (healthArguments c n dir).map Flag.ofText =
      (⟨"--endpoints", some c.clientEndpointsText⟩ :: clientFlags c n dir) ++
        [⟨"endpoint", some "health"⟩] := by
    unfold healthArguments
    rw [List.map_append, Flag.map_ofText_map_text fun f hf =>
      hblank f.name (hsub.subset (List.mem_map_of_mem hf))]
    rfl
  unfold Flag.given
  rw [hread]
  refine Flag.valuesOf_of_mem ?_ (List.mem_append_left _ h)
  rw [List.map_append]
  exact (hsub.append (List.Sublist.refl ["endpoint"])).nodup (by decide)

end Daemon
end EtcdKit
