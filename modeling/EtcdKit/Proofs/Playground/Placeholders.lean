import EtcdKit.Proofs.Playground.Latest
import EtcdKit.Proofs.Playground.Posting
/-!
# Placeholders — requests about a member that has no endpoint

A request that stops or restarts a member goes to the endpoint of the first member of its name, and what
that says is not looked at, unlike the endpoints that the other requests go to.  So it goes to a placeholder
exactly if that member has one (`placeholder_posted_iff`).  The status that decides is the latest that was
fetched, and before the first one all members have placeholders.
-/
namespace EtcdKit.Playground

/-! ## The status that is known -/

namespace Stage

/-- The status that a move fetches. -/
def fetched? (st : Stage) : Move → Option ServerStatus
  | .refresh => st.client.status.1.toOption
  | _ => none

/-- The latest status that moves fetch, one after another. -/
def latestFetched? : Stage → List Move → Option ServerStatus
  | _, [] => none
  | st, m :: moves => ((st.move m).latestFetched? moves).or (st.fetched? m)

theorem status_move (st : Stage) (m : Move) :
    (st.move m).session.status = (st.fetched? m).getD st.session.status := by
  cases m with
  | connect => exact st.session.status_after ⟨st.clock, .connected st.client.connect.1⟩
  | disconnect => exact st.session.status_after ⟨st.clock, .disconnected st.client.disconnect.1⟩
  | refresh => exact st.status_refresh
  | submit r =>
    exact st.session.status_after
      ⟨st.clock, .submitted r (st.client.submit (st.session.addressed r)).1⟩
  | expire | ask _ | printLog | printStatus | printLine _ => rfl

/-- **The status that is known** is the latest that was fetched, or that from before. -/
theorem status_perform : ∀ (moves : List Move) (st : Stage),
    (st.perform moves).session.status = (st.latestFetched? moves).getD st.session.status
  | [], _ => rfl
  | m :: moves, st => by
    -- what the first move fetches only counts if no later move fetches anything
    have hrest := status_perform moves (st.move m)
    rw [status_move] at hrest
    rw [latestFetched?]
    change ((st.move m).perform moves).session.status = _
    rw [hrest]
    cases (st.move m).latestFetched? moves with
    | none => rfl
    | some s => rfl

end Stage

/-! ## Members without an endpoint -/

namespace ServerStatus

/-- The first member of that name has a placeholder for its endpoint. -/
def LeadsNowhere (status : ServerStatus) (name : String) : Prop :=
  ∃ m, status.FirstNamed name m ∧ IsPlaceholder m.endpoint

theorem leadsNowhere_iff {status : ServerStatus} {m : MemberStatus} (h : m ∈ status.members) :
    status.LeadsNowhere m.name ↔ IsPlaceholder (status.endpointOf m.name) := by
  constructor
  · rintro ⟨first, hfirst, hplaceholder⟩
    rwa [endpointOf_of_firstNamed hfirst]
  · intro hplaceholder
    obtain ⟨first, hfirst⟩ := exists_firstNamed h
    rw [endpointOf_of_firstNamed hfirst] at hplaceholder
    exact ⟨first, hfirst, hplaceholder⟩

theorem leadsNowhere_initial {m : MemberStatus} (h : m ∈ initial.members) :
    initial.LeadsNowhere m.name := by
  obtain ⟨first, hfirst⟩ := exists_firstNamed h
  obtain ⟨front, back, hsplit, -⟩ := id hfirst
  have hmem : first ∈ memberNames.map MemberStatus.stopped := by
    change first ∈ initial.members
    rw [hsplit]
    exact List.mem_append_right _ List.mem_cons_self
  obtain ⟨name, -, rfl⟩ := List.mem_map.1 hmem
  exact ⟨_, hfirst, .inr rfl⟩

end ServerStatus

/-! ## Requests about a member -/

namespace Asking

theorem request_of_picked {status : ServerStatus} {action : Action} {t : Terminal} {index : Nat}
    (haction : action.isForMember = true) (hlt : index < status.members.length)
    (h : (t.select "Member" (status.members.map MemberStatus.name) 0).1 = .ok (some index)) :
    ∃ t', request status action t =
      (.given { action, endpoints := [status.endpointOf status.members[index].name] }, t') := by
  have hmember := member_eq_given_iff.2 ⟨index, hlt, h, rfl, rfl⟩
  unfold request
  rw [if_pos haction]
  exact ⟨_, andThen_eq_given_iff.2 ⟨_, _, hmember, rfl⟩⟩

end Asking

namespace Stage

/-- The calls from one stage to another post a request to a placeholder. -/
def PostsPlaceholder (st left : Stage) : Prop :=
  ∃ calls sent endpoint, left.client.calls = st.client.calls ++ calls ∧ .submit sent ∈ calls ∧
    endpoint ∈ sent.endpoints ∧ IsPlaceholder endpoint

theorem postsPlaceholder_iff {st left : Stage} {action : Action} {endpoint : String}
    (h : left.client.calls =
      st.client.calls ++ [.status, .submit { action, endpoints := [endpoint] }]) :
    st.PostsPlaceholder left ↔ IsPlaceholder endpoint := by
  constructor
  · rintro ⟨calls, sent, posted, hcalls, hsent, hposted, hplaceholder⟩
    obtain rfl := List.append_cancel_left (hcalls.symm.trans h)
    have hsame : sent = { action, endpoints := [endpoint] } := by simpa using hsent
    rw [hsame] at hposted
    rwa [← List.mem_singleton.1 hposted]
  · intro hplaceholder
    exact ⟨_, { action, endpoints := [endpoint] }, endpoint, h, by simp, by simp, hplaceholder⟩

/-- A round in which a member is picked posts one request, to the endpoint of the first member of that
name. -/
theorem calls_shellRound_of_picks {st : Stage} {action : Action} {index : Nat}
    (haction : action.isForMember = true)
    (hlt : index < st.refresh.session.status.members.length) (h : st.refresh.Picks action index) :
    st.shellRound.2.client.calls = st.client.calls ++ [.status, .submit { action, endpoints :=
      [st.refresh.session.status.endpointOf st.refresh.session.status.members[index].name] }] := by
  obtain ⟨place, hmenu, hchoice, hpick⟩ := h
  obtain ⟨t', hrequest⟩ := Asking.request_of_picked haction hlt hpick
  unfold shellRound
  dsimp only
  rw [Asking.select_eq_given_iff.2 ⟨hmenu, rfl⟩]
  dsimp only
  rw [hchoice, carryOut, act]
  dsimp only
  rw [hrequest]
  change (submit _ _).2.client.calls = _
  rw [calls_submit, Session.addressed_of_ne_nil _ (List.cons_ne_nil _ _)]
  change st.refresh.client.calls ++ _ = _
  rw [calls_refresh, List.append_assoc]
  rfl

end Stage

/-- **When stopping or restarting a member posts a placeholder**, after all that may have happened before.
The status that decides is the latest that was fetched, the refresh of the command itself included.  On the
command line, and in a round of the shell, a placeholder is posted exactly if the first member of the name
has one; and as long as no status has been fetched, all of them have. -/
theorem placeholder_posted_iff (start : Stage) (moves : List Move) {action : Action}
    (haction : action = .stopNode ∨ action = .restartNode) :
    let st := start.perform moves
    let latest := start.latestFetched? (moves ++ [.refresh])
    let known := latest.getD start.session.status
    st.refresh.session.status = known ∧
      (∀ m ∈ known.members,
        st.PostsPlaceholder (st.run (.member action m.name)).2 ↔ known.LeadsNowhere m.name) ∧
      (∀ index, ∀ hlt : index < known.members.length, st.refresh.Picks action index →
        (st.PostsPlaceholder st.shellRound.2 ↔
          known.LeadsNowhere known.members[index].name)) ∧
      (latest = none → start.session.status = .initial →
        ∀ m ∈ known.members, known.LeadsNowhere m.name) := by
  intro st latest known
  have hmember := Action.isForMember_iff.2 haction
  have hknown : st.refresh.session.status = known := by
    have hmoved : start.perform (moves ++ [.refresh]) = st.refresh := List.foldl_append
    rw [← hmoved]
    exact Stage.status_perform _ start
  refine ⟨hknown, fun m hm => ?_, fun index hlt hpicks => ?_, fun hnone hinitial m hm => ?_⟩
  · have hcalls := st.calls_member action m.name
    rw [hknown] at hcalls
    rw [Stage.postsPlaceholder_iff hcalls, ServerStatus.leadsNowhere_iff hm]
  · have hcalls := Stage.calls_shellRound_of_picks hmember (hknown ▸ hlt) hpicks
    simp only [hknown] at hcalls
    rw [Stage.postsPlaceholder_iff hcalls, ServerStatus.leadsNowhere_iff (List.getElem_mem hlt)]
  · have hknown : known = .initial := by
      change latest.getD start.session.status = _
      rw [hnone, hinitial]
      rfl
    rw [hknown] at hm ⊢
    exact ServerStatus.leadsNowhere_initial hm

/-- The first of the twins says where it is. -/
theorem twins_lead_to_first :
    ¬ twinStage.PostsPlaceholder (twinStage.run (.member .restartNode "n")).2 := by
  obtain ⟨hknown, hnamed, -, -⟩ := placeholder_posted_iff twinStage [] (.inr rfl)
  change twinStage.refresh.session.status = _ at hknown
  rw [known_twinStage] at hknown
  rw [← hknown] at hnamed
  intro hposted
  obtain ⟨first, hfirst, hplaceholder⟩ :=
    (hnamed { name := "n", endpoint := "a:1" } List.mem_cons_self).1 hposted
  have hsame := ServerStatus.firstNamed_iff.1 hfirst
  have hfound : twins.members.find? (fun x => x.name == "n") =
      some { name := "n", endpoint := "a:1" } := by decide +kernel
  obtain rfl := Option.some.inj (hfound.symm.trans hsame)
  exact absurd hplaceholder (by decide)

/-- A playground that breaks off the call for the status. -/
def mutedStage : Stage where
  client := {
    endpoint := Sample.profile.playground.endpoint
    server := { listens := true, answers := [none] } }

/-- A member that nothing is known of is stopped at its placeholder. -/
theorem placeholder_is_posted :
    let m := MemberStatus.stopped "node1"
    m ∈ mutedStage.refresh.session.status.members ∧
      (mutedStage.run (.member .stopNode m.name)).2.client.calls =
        [.status, .submit { action := .stopNode, endpoints := ["None"] }] ∧
      IsPlaceholder "None" := by
  intro m
  have hfailed : mutedStage.client.status.1 = .error (.backend "HTTP request failed" none) := by
    rw [Client.status, Client.callFor_answered rfl (.inl rfl) rfl rfl]
    rfl
  have hknown : mutedStage.refresh.session.status = .initial := by
    rw [Stage.status_refresh, hfailed]
    rfl
  have hcalls := mutedStage.calls_member .stopNode m.name
  rw [hknown] at hcalls
  rw [hknown]
  exact ⟨by decide, hcalls, by decide⟩

end EtcdKit.Playground
