import EtcdKit.Playground.Command
/-!
# Addressing — what a request carries, and where it goes

A request carries no more than its action takes (`Request.Modest`).  One that stops or restarts a member
goes to the endpoint of the first member of its name, and every other one to all endpoints that the members
have (`Routed`).  What the user gives in answer to the questions of an action makes up such a request
(`routed_given`); which member that is about is read off the replies (`Stage.PointsAt`).
-/
namespace EtcdKit.Playground

/-- A text that stands for an endpoint that a member does not have. -/
def IsPlaceholder (endpoint : String) : Prop := endpoint = "" ∨ endpoint = "None"

instance : DecidablePred IsPlaceholder := fun e => inferInstanceAs (Decidable (e = "" ∨ e = "None"))

/-- A request carries no more than its action takes. -/
structure Request.Modest (r : Request) : Prop where
  byPrefix : r.byPrefix = true → r.action = .get ∨ r.action = .delete
  key : r.keyValue.key ≠ "" → r.action = .write ∨ r.action = .get ∨ r.action = .delete
  value : r.keyValue.value ≠ "" → r.action = .write

namespace ServerStatus

/-- The member is the first of that name. -/
def FirstNamed (status : ServerStatus) (name : String) (m : MemberStatus) : Prop :=
  ∃ front back, status.members = front ++ m :: back ∧ m.name = name ∧ ∀ x ∈ front, x.name ≠ name

end ServerStatus

/-- What a reply chooses in a menu: the item at a place, the first item of that text, or what is offered. -/
inductive Reply.Chooses (items : List String) (offer : Nat) : Reply → Nat → Prop where
  | item {index : Nat} (inside : index < items.length) : Chooses items offer (.item index) index
  | words {index : Nat} {text : String} (found : items[index]? = some text)
      (first : ∀ earlier < index, items[earlier]? ≠ some text) :
      Chooses items offer (.words text) index
  | offered {otherwise : String} (inside : offer < items.length) :
      Chooses items offer (.offered otherwise) offer

/-- The next two replies of the user choose an action in its menu, and then the member at that place. -/
def Stage.PointsAt (fresh : Stage) (action : Action) (index : Nat) : Prop :=
  ∃ first second rest entry, fresh.terminal.replies = first :: second :: rest ∧
    first.Chooses Choice.menu 0 entry ∧ Choice.menu[entry]? = some action.text ∧
    second.Chooses (fresh.session.status.members.map MemberStatus.name) 0 index

/-- Where a command sends a request from a stage that has just fetched the status. -/
inductive Routed (command : Command) (fresh : Stage) (sent : Request) : Prop where
  /-- To the endpoints that the members have, in their order. -/
  | everywhere (other : sent.action ≠ .stopNode ∧ sent.action ≠ .restartNode)
      (endpoints : sent.endpoints =
        (fresh.session.status.members.map MemberStatus.endpoint).filter fun e => ¬ IsPlaceholder e)
  /-- To the first member of the name that the command gives; a text that names none is the endpoint
  itself. -/
  | named {target : String} (about : sent.action = .stopNode ∨ sent.action = .restartNode)
      (asked : command = .member sent.action target)
      (endpoints : sent.endpoints = [fresh.session.status.endpointOf target])
      (known : ∀ m, fresh.session.status.FirstNamed target m → sent.endpoints = [m.endpoint])
      (unknown : (∀ m ∈ fresh.session.status.members, m.name ≠ target) → sent.endpoints = [target])
  /-- To the first member of the name that the user points at; among members of distinct names that is the
  one at that place. -/
  | picked {index : Nat} (about : sent.action = .stopNode ∨ sent.action = .restartNode)
      (asked : command = .shell) (inside : index < fresh.session.status.members.length)
      (points : fresh.PointsAt sent.action index)
      (endpoints : sent.endpoints =
        [fresh.session.status.endpointOf fresh.session.status.members[index].name])
      (known : ∀ m, fresh.session.status.FirstNamed fresh.session.status.members[index].name m →
        sent.endpoints = [m.endpoint])
      (distinct : (fresh.session.status.members.map MemberStatus.name).Nodup →
        sent.endpoints = [fresh.session.status.members[index].endpoint])

/-! ## Endpoints of a status -/

namespace ServerStatus

variable {status : ServerStatus} {name : String} {m : MemberStatus}

theorem firstNamed_iff :
    status.FirstNamed name m ↔ status.members.find? (fun x => x.name == name) = some m := by
  rw [List.find?_eq_some_iff_append]
  constructor
  · rintro ⟨front, back, hsplit, hname, hfront⟩
    exact ⟨by simpa using hname, front, back, hsplit, fun x hx => by simpa using hfront x hx⟩
  · rintro ⟨hname, front, back, hsplit, hfront⟩
    exact ⟨front, back, hsplit, by simpa using hname, fun x hx => by simpa using hfront x hx⟩

theorem exists_firstNamed (h : m ∈ status.members) : ∃ first, status.FirstNamed m.name first := by
  have hsome : (status.members.find? fun x => x.name == m.name).isSome = true := by
    rw [List.find?_isSome]
    exact ⟨m, h, by simp⟩
  obtain ⟨first, hfirst⟩ := Option.isSome_iff_exists.1 hsome
  exact ⟨first, firstNamed_iff.2 hfirst⟩

theorem firstNamed_of_nodup (hnodup : (status.members.map MemberStatus.name).Nodup)
    (h : m ∈ status.members) : status.FirstNamed m.name m := by
  obtain ⟨front, back, hsplit⟩ := List.append_of_mem h
  rw [hsplit, List.map_append, List.map_cons, List.nodup_append] at hnodup
  refine ⟨front, back, hsplit, rfl, fun x hx => ?_⟩
  exact hnodup.2.2 x.name (List.mem_map_of_mem hx) m.name List.mem_cons_self

theorem endpointOf_of_firstNamed (h : status.FirstNamed name m) :
    status.endpointOf name = m.endpoint := by
  rw [endpointOf, firstNamed_iff.1 h]

theorem endpointOf_of_unknown (h : ∀ m ∈ status.members, m.name ≠ name) :
    status.endpointOf name = name := by
  have hnone : status.members.find? (fun m => m.name == name) = none :=
    List.find?_eq_none.2 fun m hm => by simpa using h m hm
  rw [endpointOf, hnone]

theorem endpoints_eq (status : ServerStatus) : status.endpoints =
    (status.members.map MemberStatus.endpoint).filter fun e => ¬ IsPlaceholder e := by
  rw [endpoints, List.filter_map]
  congr 1
  refine List.filter_congr fun m _ => ?_
  simp only [MemberStatus.hasEndpoint, IsPlaceholder, noneWord, Function.comp_apply, not_or,
    Bool.decide_and, decide_not]
  rfl

end ServerStatus

theorem Action.isForMember_iff {action : Action} :
    action.isForMember = true ↔ action = .stopNode ∨ action = .restartNode := by
  cases action <;> simp [isForMember]

theorem Request.modest_bare (action : Action) (endpoints : List String) :
    Request.Modest { action, endpoints } :=
  ⟨fun hp => (by cases hp), fun hk => absurd rfl hk, fun hv => absurd rfl hv⟩

/-! ## What is sent for a request -/

namespace Session

variable (s : Session) {r : Request}

theorem addressed_eq (r : Request) : s.addressed r =
    { r with endpoints := if r.endpoints.isEmpty then s.status.endpoints else r.endpoints } := by
  unfold addressed
  split
  · rfl
  · rfl

theorem addressed_of_ne_nil (h : r.endpoints ≠ []) : s.addressed r = r := by
  rw [addressed, if_neg]
  simpa using h

theorem modest_addressed (h : r.Modest) : (s.addressed r).Modest := by
  rw [addressed_eq]
  exact ⟨h.byPrefix, h.key, h.value⟩

end Session

theorem routed_everywhere (command : Command) (fresh : Stage) {r : Request}
    (haction : r.action.isForMember = false) (hnone : r.endpoints = []) :
    Routed command fresh (fresh.session.addressed r) := by
  rw [Session.addressed_eq, hnone]
  refine .everywhere ?_ (fresh.session.status.endpoints_eq)
  rw [← Bool.not_eq_true, Action.isForMember_iff, not_or] at haction
  exact haction

/-! ## What the questions of an action make up -/

/-- **What is picked in a menu** is what the reply chooses. -/
theorem Terminal.picked_eq_ok_iff {items : List String} {offer index : Nat} {reply : Reply}
    (hoffer : offer < items.length) :
    picked items offer reply = .ok (some index) ↔ reply.Chooses items offer index := by
  have hfirst : ∀ {text}, items.idxOf? text = some index ↔
      items[index]? = some text ∧ ∀ earlier < index, items[earlier]? ≠ some text := by
    intro text
    rw [List.idxOf?_eq_some_iff]
    constructor
    · rintro ⟨hinside, rfl, hearlier⟩
      refine ⟨List.getElem?_eq_getElem hinside, fun earlier hlt hfound => ?_⟩
      exact hearlier earlier hlt (List.getElem?_eq_some_iff.1 hfound).2
    · rintro ⟨hfound, hearlier⟩
      obtain ⟨hinside, hplace⟩ := List.getElem?_eq_some_iff.1 hfound
      refine ⟨hinside, hplace, fun earlier hlt hsame => ?_⟩
      exact hearlier earlier hlt (List.getElem?_eq_some_iff.2 ⟨by omega, hsame⟩)
  constructor
  · intro h
    cases reply with
    | item place =>
      by_cases hinside : place < items.length
      · rw [picked, if_pos hinside] at h
        cases h
        exact .item hinside
      · rw [picked, if_neg hinside] at h
        cases h
    | words text =>
      cases hfound : items.idxOf? text with
      | none =>
        rw [picked, hfound] at h
        cases h
      | some place =>
        rw [picked, hfound] at h
        cases h
        obtain ⟨hplace, hearlier⟩ := hfirst.1 hfound
        exact .words hplace hearlier
    | offered otherwise =>
      cases h
      exact .offered hoffer
    | truth _ | escape | interrupted | broken _ => cases h
  · intro h
    cases h with
    | item inside => rw [picked, if_pos inside]
    | words found first => rw [picked, hfirst.2 ⟨found, first⟩]
    | offered _ => rfl

theorem Reply.Chooses.inside {items : List String} {offer index : Nat} {reply : Reply}
    (h : reply.Chooses items offer index) : index < items.length := by
  cases h with
  | item inside => exact inside
  | words found _ => exact (List.getElem?_eq_some_iff.1 found).1
  | offered inside => exact inside

/-- **A menu is answered** by the next reply, if that chooses an item. -/
theorem Terminal.select_eq_ok_iff {t : Terminal} {text : String} {items : List String} {index : Nat} :
    (t.select text items 0).1 = .ok (some index) ↔
      ∃ reply rest, t.replies = reply :: rest ∧ reply.Chooses items 0 index := by
  unfold select
  split
  · rename_i hnone
    simp [hnone]
  · rename_i reply rest hsome
    split
    · rename_i hempty
      refine ⟨fun h => (by cases h), ?_⟩
      rintro ⟨_, _, -, hchooses⟩
      have := hchooses.inside
      rw [List.isEmpty_iff.1 hempty] at this
      exact absurd this (Nat.not_lt_zero _)
    · rename_i hitems
      have hoffer : 0 < items.length := List.length_pos_iff.2 (by simpa using hitems)
      rw [picked_eq_ok_iff hoffer]
      constructor
      · exact fun h => ⟨reply, rest, hsome, h⟩
      · rintro ⟨_, _, hsame, hchooses⟩
        rw [hsome] at hsame
        cases hsame
        exact hchooses

theorem Terminal.lt_of_select {t : Terminal} {text : String} {items : List String} {index : Nat}
    (h : (t.select text items 0).1 = .ok (some index)) : index < items.length := by
  obtain ⟨_, _, -, hchooses⟩ := select_eq_ok_iff.1 h
  exact hchooses.inside

namespace Asking

variable {α β : Type}

theorem andThen_eq_given_iff {first : Asking α} {next : α → Asking β} {t t' : Terminal} {b : β} :
    first.andThen next t = (.given b, t') ↔
      ∃ a between, first t = (.given a, between) ∧ next a between = (.given b, t') := by
  unfold andThen
  constructor
  · intro h
    split at h
    · rename_i a between hfirst
      exact ⟨a, between, hfirst, h⟩
    · cases h
    · cases h
  · rintro ⟨a, between, hfirst, hnext⟩
    rw [hfirst]
    exact hnext

theorem done_eq_given_iff {a b : α} {t t' : Terminal} :
    done a t = (.given b, t') ↔ b = a ∧ t' = t := by
  constructor
  · intro h
    cases h
    exact ⟨rfl, rfl⟩
  · rintro ⟨rfl, rfl⟩
    rfl

theorem select_eq_given_iff {text failure : String} {items : List String} {t t' : Terminal}
    {index : Nat} : select text items failure t = (.given index, t') ↔
      (t.select text items 0).1 = .ok (some index) ∧ t' = (t.select text items 0).2 := by
  unfold select
  rcases t.select text items 0 with ⟨answer, after⟩
  constructor
  · intro h
    rcases answer with fault | (_ | picked)
    · cases h
    · cases h
    · cases h
      exact ⟨rfl, rfl⟩
  · rintro ⟨hanswer, rfl⟩
    obtain rfl : answer = .ok (some index) := hanswer
    rfl

/-- **The endpoint that is asked for** is that of the name at the place that the user picks. -/
theorem member_eq_given_iff {status : ServerStatus} {t t' : Terminal} {endpoint : String} :
    member status t = (.given endpoint, t') ↔
      ∃ index, ∃ hlt : index < status.members.length,
        (t.select "Member" (status.members.map MemberStatus.name) 0).1 = .ok (some index) ∧
        t' = (t.select "Member" (status.members.map MemberStatus.name) 0).2 ∧
        endpoint = status.endpointOf status.members[index].name := by
  have hname : ∀ index, ∀ hlt : index < status.members.length,
      (status.members.map MemberStatus.name).getD index "" = status.members[index].name :=
    fun index hlt => by simp [List.getD, hlt]
  constructor
  · intro h
    obtain ⟨index, between, hselect, hpicked⟩ := andThen_eq_given_iff.1 h
    obtain ⟨hpick, rfl⟩ := select_eq_given_iff.1 hselect
    obtain ⟨rfl, rfl⟩ := done_eq_given_iff.1 hpicked
    have hlt := Terminal.lt_of_select hpick
    rw [List.length_map] at hlt
    exact ⟨index, hlt, hpick, rfl, by rw [hname index hlt]⟩
  · rintro ⟨index, hlt, hpick, rfl, rfl⟩
    refine andThen_eq_given_iff.2 ⟨index, _, select_eq_given_iff.2 ⟨hpick, rfl⟩, ?_⟩
    rw [hname index hlt]
    rfl

theorem keyValue_given {action : Action} {t t' : Terminal} {kv : KeyValue}
    (h : keyValue action t = (.given kv, t')) :
    (kv.key ≠ "" → action.needsKey = true) ∧ (kv.value ≠ "" → action = .write) := by
  unfold keyValue at h
  split at h
  · rename_i hkey
    obtain ⟨key, between, -, hrest⟩ := andThen_eq_given_iff.1 h
    refine ⟨fun _ => hkey, fun hvalue => ?_⟩
    split at hrest
    · assumption
    · obtain ⟨rfl, -⟩ := done_eq_given_iff.1 hrest
      exact absurd rfl hvalue
  · obtain ⟨rfl, -⟩ := done_eq_given_iff.1 h
    exact ⟨fun hkey => absurd rfl hkey, fun hvalue => absurd rfl hvalue⟩

/-- **A request that the user gives** carries what its action takes.  If the action is about a member,
it goes to the one that is picked, and otherwise it is not addressed yet. -/
theorem request_given {status : ServerStatus} {action : Action} {t t' : Terminal} {r : Request}
    (h : request status action t = (.given r, t')) :
    r.action = action ∧ r.Modest ∧
      ((action.isForMember = false ∧ r.endpoints = []) ∨
        action.isForMember = true ∧ ∃ index, ∃ hlt : index < status.members.length,
          (t.select "Member" (status.members.map MemberStatus.name) 0).1 = .ok (some index) ∧
          r.endpoints = [status.endpointOf status.members[index].name]) := by
  unfold request at h
  split at h
  · rename_i hmember
    obtain ⟨endpoint, between, hasked, hrest⟩ := andThen_eq_given_iff.1 h
    obtain ⟨rfl, -⟩ := done_eq_given_iff.1 hrest
    obtain ⟨index, hlt, hpick, -, rfl⟩ := member_eq_given_iff.1 hasked
    exact ⟨rfl, Request.modest_bare _ _, .inr ⟨hmember, index, hlt, hpick, rfl⟩⟩
  · rename_i hmember
    have hmember : action.isForMember = false := Bool.eq_false_iff.2 hmember
    obtain ⟨kv, between, hasked, hrest⟩ := andThen_eq_given_iff.1 h
    obtain ⟨hkey, hvalue⟩ := keyValue_given hasked
    have hneeds : action.needsKey = true → action = .write ∨ action = .get ∨ action = .delete := by
      cases action <;> simp [Action.needsKey]
    split at hrest
    · rename_i htakes
      obtain ⟨byPrefix, _, -, hdone⟩ := andThen_eq_given_iff.1 hrest
      obtain ⟨rfl, -⟩ := done_eq_given_iff.1 hdone
      have hprefix : action = .get ∨ action = .delete := by
        cases action <;> simp_all [Action.takesPrefix]
      exact ⟨rfl, ⟨fun _ => hprefix, fun hk => hneeds (hkey hk), hvalue⟩, .inl ⟨hmember, rfl⟩⟩
    · obtain ⟨rfl, -⟩ := done_eq_given_iff.1 hrest
      exact ⟨rfl, ⟨fun hp => (by cases hp), fun hk => hneeds (hkey hk), hvalue⟩,
        .inl ⟨hmember, rfl⟩⟩

end Asking

namespace Stage

/-- The place that the user picks in the menu of members, which comes behind the menu of actions. -/
def memberPick (st : Stage) : Except PromptFault (Option Nat) :=
  ((st.terminal.select "Action" Choice.menu 0).2.select "Member"
    (st.session.status.members.map MemberStatus.name) 0).1

/-- The user chooses an action about a member, and then the member at that place. -/
def Picks (fresh : Stage) (action : Action) (index : Nat) : Prop :=
  ∃ place, (fresh.terminal.select "Action" Choice.menu 0).1 = .ok (some place) ∧
    Choice.all.getD place .quit = .act action ∧ fresh.memberPick = .ok (some index)

end Stage

theorem Choice.getD_eq_act_iff {place : Nat} {action : Action} :
    Choice.all.getD place .quit = .act action ↔ Choice.menu[place]? = some action.text := by
  have htext : ∀ choice : Choice, choice.text = action.text ↔ choice = .act action := by
    intro choice
    cases choice with
    | act other => cases other <;> cases action <;> decide
    | status | quit => cases action <;> decide
  rw [menu, List.getElem?_map, List.getD_eq_getElem?_getD]
  cases Choice.all[place]? with
  | none => simp
  | some choice => simpa using (htext choice).symm

/-- **The picks of a user are read off the replies.** -/
theorem Stage.picks_iff_pointsAt {fresh : Stage} {action : Action} {index : Nat} :
    fresh.Picks action index ↔ fresh.PointsAt action index := by
  have hleft : ∀ {first : Reply} {rest : List Reply}, fresh.terminal.replies = first :: rest →
      (fresh.terminal.select "Action" Choice.menu 0).2.replies = rest := by
    intro first rest hreplies
    unfold Terminal.select
    rw [hreplies]
    rfl
  unfold Picks memberPick PointsAt
  constructor
  · rintro ⟨place, hmenu, hchoice, hpick⟩
    obtain ⟨first, rest, hreplies, hfirst⟩ := Terminal.select_eq_ok_iff.1 hmenu
    obtain ⟨second, rest', hrest, hsecond⟩ := Terminal.select_eq_ok_iff.1 hpick
    rw [hleft hreplies] at hrest
    exact ⟨first, second, rest', place, hrest ▸ hreplies, hfirst, Choice.getD_eq_act_iff.1 hchoice,
      hsecond⟩
  · rintro ⟨first, second, rest, place, hreplies, hfirst, hchoice, hsecond⟩
    refine ⟨place, Terminal.select_eq_ok_iff.2 ⟨first, _, hreplies, hfirst⟩,
      Choice.getD_eq_act_iff.2 hchoice, Terminal.select_eq_ok_iff.2 ⟨second, rest, ?_, hsecond⟩⟩
    exact hleft hreplies

/-- **What the shell sends** for an action that was chosen on a stage that has just fetched the status. -/
theorem routed_given {fresh : Stage} {action : Action} {place : Nat} {t' : Terminal} {r : Request}
    (hmenu : (fresh.terminal.select "Action" Choice.menu 0).1 = .ok (some place))
    (hchoice : Choice.all.getD place .quit = .act action)
    (h : Asking.request fresh.session.status action
      (fresh.terminal.select "Action" Choice.menu 0).2 = (.given r, t')) :
    (fresh.session.addressed r).Modest ∧ Routed .shell fresh (fresh.session.addressed r) := by
  obtain ⟨rfl, hmodest, ⟨hother, hnone⟩ | ⟨hmember, index, hlt, hpick, hendpoints⟩⟩ :=
    Asking.request_given h
  · exact ⟨fresh.session.modest_addressed hmodest, routed_everywhere _ fresh hother hnone⟩
  · -- a request with an endpoint is sent as it is, so what was picked is what is posted
    have hsame : fresh.session.addressed r = r :=
      fresh.session.addressed_of_ne_nil (by rw [hendpoints]; exact List.cons_ne_nil _ _)
    have hknown : ∀ m, fresh.session.status.FirstNamed fresh.session.status.members[index].name m →
        r.endpoints = [m.endpoint] := fun m hm => by
      rw [hendpoints, ServerStatus.endpointOf_of_firstNamed hm]
    rw [hsame]
    exact ⟨hmodest, .picked (Action.isForMember_iff.1 hmember) rfl hlt
      (Stage.picks_iff_pointsAt.1 ⟨place, hmenu, hchoice, hpick⟩) hendpoints hknown fun hnodup =>
        hknown _ (ServerStatus.firstNamed_of_nodup hnodup (List.getElem_mem hlt))⟩

end EtcdKit.Playground
