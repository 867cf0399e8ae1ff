import EtcdKit.Proofs.Script.Fragments
import EtcdKit.Service.Control
/-!
# Operations — the service that is started, watched and stopped

Each command on a service says the name of the service behind fixed words, and no two commands start
alike, so the name is found again (`findSome?_between?`).  All commands of one script are about the same
service (`services_control`).
-/
namespace EtcdKit
namespace Service

open Script

/-- What the commands on a service say in front of it and behind it. -/
def operations : List (String × String) :=
  [("sudo systemctl cat ", ""), ("sudo systemctl enable ", ""), ("sudo systemctl start ", ""),
    ("sudo systemctl status ", " -l --no-pager"), ("sudo journalctl -u ", " -l --no-pager|less"),
    ("sudo journalctl -f -u ", ""), ("sudo systemctl stop ", ""), ("sudo systemctl disable ", "")]

/-- The service that a command is about. -/
def serviceOf? (line : String) : Option String :=
  operations.findSome? fun operation => Text.between? operation.1 operation.2 line

theorem findSome?_between? (service : String) : ∀ {ops : List (String × String)},
    (ops.Pairwise fun a b => Text.Apart a.1 b.1) → ∀ op ∈ ops,
      ops.findSome? (fun o => Text.between? o.1 o.2 (op.1 ++ service ++ op.2)) = some service
  | o :: ops, h, op, hop => by
    rw [List.pairwise_cons] at h
    rw [List.findSome?_cons]
    -- the first operation is this one, or it starts differently and finds nothing
    rcases List.mem_cons.1 hop with rfl | hop
    · rw [Text.between?_eq_some_iff.2 rfl]
    · have hother : Text.between? o.1 o.2 (op.1 ++ service ++ op.2) = none := by
        rw [String.append_assoc]
        exact Text.between?_eq_none (Text.not_prefix_append (h.1 op hop) _)
      rw [hother]
      exact findSome?_between? service h.2 op hop

def commandsOn (service : String) (ops : List (String × String)) : List String :=
  ops.map fun op => op.1 ++ service ++ op.2

section Commands

variable {service : String} {ops : List (String × String)} (h : ∀ op ∈ ops, op ∈ operations)
include h

theorem filterMap_commandsOn :
    (commandsOn service ops).filterMap serviceOf? = List.replicate ops.length service := by
  have hfound : ∀ op ∈ ops, (serviceOf? ∘ fun o => o.1 ++ service ++ o.2) op = some service :=
    fun op hop => findSome?_between? service (by decide) op (h op hop)
  unfold commandsOn
  rw [List.filterMap_map, List.filterMap_congr hfound, List.filterMap_eq_map', List.map_const']

theorem oneLine_commandsOn (hservice : OneLine service) :
    ∀ l ∈ commandsOn service ops, OneLine l := by
  have hwords : ∀ op ∈ operations, OneLine op.1 ∧ OneLine op.2 := by decide
  unfold commandsOn
  rw [List.forall_mem_map]
  intro op hop
  obtain ⟨hfront, hback⟩ := hwords op (h op hop)
  exact oneLine_append.2 ⟨oneLine_append.2 ⟨hfront, hservice⟩, hback⟩

end Commands

/-- **Every command on a service is about the same one.** -/
theorem services_control {service : String} (h : OneLine service) :
    (splitLines (control service)).filterMap serviceOf? = List.replicate 8 (service ++ ".service") := by
  let unit := service ++ ".service"
  have hunit : OneLine unit := oneLine_append.2 ⟨h, oneLine_ofList _ rfl⟩
  have hstart : ∀ op ∈ operations.take 3, op ∈ operations := fun _ => List.mem_of_mem_take
  have hwatch : ∀ op ∈ (operations.drop 3).take 3, op ∈ operations :=
    fun _ hop => List.mem_of_mem_drop (List.mem_of_mem_take hop)
  have hstop : ∀ op ∈ operations.drop 6, op ∈ operations := fun _ => List.mem_of_mem_drop
  have hcontrol : control service = lines
      (["# to start service", "sudo systemctl daemon-reload"] ++
        commandsOn unit (operations.take 3) ++ ["", "# to get logs from service"] ++
        commandsOn unit ((operations.drop 3).take 3) ++ ["", "# to stop service"] ++
        commandsOn unit (operations.drop 6)) := by
    simp [control, commandsOn, operations, unit]
  rw [hcontrol, splitLines_lines]
  · simp only [List.filterMap_append]
    rw [filterMap_commandsOn hstart, filterMap_commandsOn hwatch, filterMap_commandsOn hstop]
    rfl
  · simp only [List.forall_mem_append]
    refine ⟨⟨⟨⟨⟨?_, oneLine_commandsOn hstart hunit⟩, ?_⟩, oneLine_commandsOn hwatch hunit⟩, ?_⟩,
      oneLine_commandsOn hstop hunit⟩
    all_goals decide

end Service
end EtcdKit
