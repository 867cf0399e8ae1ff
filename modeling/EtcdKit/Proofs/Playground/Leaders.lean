import EtcdKit.Proofs.Playground.Latest
import EtcdKit.Proofs.Text.Splitting
/-!
# Leaders — which leaders a session announces

A fetched status announces its leader in the log if the status known before it has another one or none.
Only fetched statuses change the status that is known, so the announcements of a run follow the sequence of
statuses that it fetched (`bringsUp_announced`), whatever else happens between them.
-/
namespace EtcdKit.Playground

/-- The first member that leads has that name. -/
def ServerStatus.LedBy (status : ServerStatus) (name : String) : Prop :=
  ∃ front m back, status.members = front ++ m :: back ∧ m.isLeader = true ∧ m.name = name ∧
    ∀ x ∈ front, x.isLeader = false

theorem ServerStatus.leaderName?_eq_some_iff {status : ServerStatus} {name : String} :
    status.leaderName? = some name ↔ status.LedBy name := by
  unfold leaderName? leader? LedBy
  simp only [Option.map_eq_some_iff, List.find?_eq_some_iff_append]
  constructor
  · rintro ⟨m, ⟨hm, front, back, hsplit, hfront⟩, hname⟩
    exact ⟨front, m, back, hsplit, hm, hname, fun x hx => by simpa using hfront x hx⟩
  · rintro ⟨front, m, back, hsplit, hm, hname, hfront⟩
    exact ⟨m, ⟨hm, front, back, hsplit, fun x hx => by simp [hfront x hx]⟩, hname⟩

/-- The leaders that a sequence of statuses brings up, one after another: each status has a leader that
the one before it does not have, or none. -/
inductive BringsUp : ServerStatus → List ServerStatus → List String → Prop
  | done (known : ServerStatus) : BringsUp known [] []
  | change {known status rest name names} : status.LedBy name → ¬ known.LedBy name →
      BringsUp status rest names → BringsUp known (status :: rest) (name :: names)
  | same {known status rest names} : (∀ name, status.LedBy name → known.LedBy name) →
      BringsUp status rest names → BringsUp known (status :: rest) names

theorem ServerStatus.LedBy.unique {status : ServerStatus} {a b : String} (ha : status.LedBy a)
    (hb : status.LedBy b) : a = b :=
  Option.some.inj ((leaderName?_eq_some_iff.2 ha).symm.trans (leaderName?_eq_some_iff.2 hb))

namespace BringsUp

variable {known : ServerStatus} {statuses : List ServerStatus} {names names' : List String}

theorem unique (h : BringsUp known statuses names) (h' : BringsUp known statuses names') :
    names = names' := by
  induction h generalizing names' with
  | done => cases h'; rfl
  | change hled hnew _ ih =>
    cases h' with
    | change hled' _ hrest => rw [hled.unique hled', ih hrest]
    | same hsame _ => exact absurd (hsame _ hled) hnew
  | same hsame _ ih =>
    cases h' with
    | change hled hnew _ => exact absurd (hsame _ hled) hnew
    | same _ hrest => exact ih hrest

/-- A leader that stays is brought up no more. -/
theorem eq_nil {name : String} (h : BringsUp known statuses names) (hknown : known.LedBy name)
    (hstays : ∀ status ∈ statuses, status.LedBy name) : names = [] := by
  induction h with
  | done => rfl
  | change hled hnew _ _ =>
    have hother := (hstays _ List.mem_cons_self).unique hled
    exact absurd (hother ▸ hknown) hnew
  | same _ _ ih =>
    exact ih (hstays _ List.mem_cons_self) fun status hs => hstays status (List.mem_cons_of_mem _ hs)

end BringsUp

/-! ## The lines of a refresh -/

/-- The event is the answer to a refresh. -/
def Event.isRefresh (e : Event) : Bool :=
  match e.change with
  | .refreshed _ => true
  | _ => false

/-- The leader that a line announces. -/
def leaderOf? (entry : LogLevel × String) : Option String :=
  if entry.1 = .info then Text.between? "" " is the leader" entry.2 else none

namespace Session

/-- The line that announces a leader. -/
def announcement (name : String) : LogLevel × String := (.info, name ++ " is the leader")

/-- The lines that an event appends to the log. -/
def appended (s : Session) (e : Event) : List (LogLevel × String) :=
  (s.after e).log.entries.drop s.log.entries.length

/-- The leaders that the lines of an event announce, if it is the answer to a refresh. -/
def announcedBy (s : Session) (e : Event) : List String :=
  if e.isRefresh then (s.appended e).filterMap leaderOf? else []

/-- The leaders that refreshes announce in the log, one after another. -/
def announced : Session → List Event → List String
  | _, [] => []
  | s, e :: es => s.announcedBy e ++ announced (s.after e) es

theorem appended_eq (s : Session) (e : Event) : s.appended e = e.lines s := by
  rw [appended, log_after, LogBook.entries_extend, List.drop_left]

theorem lines_of_fetched?_eq_some (s : Session) {e : Event} {status : ServerStatus}
    (h : e.fetched? = some status) :
    e.isRefresh = true ∧ e.lines s = (s.newLeader? status).toList.map announcement := by
  obtain ⟨clock, change⟩ := e
  cases change with
  | refreshed answer =>
    cases answer with
    | error err => cases h
    | ok fetched =>
      cases h
      refine ⟨rfl, ?_⟩
      simp only [Event.lines]
      cases s.newLeader? status <;> rfl
  | _ => cases h

theorem announcedBy_of_fetched?_eq_none (s : Session) {e : Event} (h : e.fetched? = none) :
    s.announcedBy e = [] := by
  unfold announcedBy
  rw [appended_eq]
  obtain ⟨clock, change⟩ := e
  cases change with
  | refreshed answer =>
    cases answer with
    -- the one line of a refresh that failed is an error, which announces no leader
    | error err => rfl
    | ok status => cases h
  | _ => rfl

theorem announcedBy_of_fetched?_eq_some (s : Session) {e : Event} {status : ServerStatus}
    (h : e.fetched? = some status) : s.announcedBy e = (s.newLeader? status).toList := by
  obtain ⟨hrefresh, hlines⟩ := s.lines_of_fetched?_eq_some h
  have hread : leaderOf? ∘ announcement = some := by
    funext name
    have hname : Text.between? "" " is the leader" (name ++ " is the leader") = some name := by
      rw [Text.between?_eq_some_iff, String.empty_append]
    exact hname
  rw [announcedBy, if_pos hrefresh, appended_eq, hlines, List.filterMap_map, hread,
    List.filterMap_some]

theorem newLeader?_eq_some_iff {s : Session} {status : ServerStatus} {name : String} :
    s.newLeader? status = some name ↔ status.LedBy name ∧ ¬ s.status.LedBy name := by
  rw [← ServerStatus.leaderName?_eq_some_iff, ← ServerStatus.leaderName?_eq_some_iff]
  unfold newLeader?
  cases hl : status.leaderName? with
  | none => simp
  | some other =>
    by_cases hs : s.status.leaderName? = some other
    · simp only [hs, if_true]
      grind
    · simp only [hs, if_false]
      grind

theorem newLeader?_eq_none_iff {s : Session} {status : ServerStatus} :
    s.newLeader? status = none ↔ ∀ name, status.LedBy name → s.status.LedBy name := by
  rw [Option.eq_none_iff_forall_ne_some]
  simp only [ne_eq, newLeader?_eq_some_iff, not_and, not_not]

theorem announced_append : ∀ (es fs : List Event) (s : Session),
    s.announced (es ++ fs) = s.announced es ++ (s.replay es).announced fs
  | [], _, _ => rfl
  | e :: es, fs, s => by
    have hrest := announced_append es fs (s.after e)
    rw [List.cons_append, announced, hrest, announced, List.append_assoc]
    rfl

/-- **The announcements of events are the leaders that their statuses bring up**, beginning with the status
that is known before them. -/
theorem bringsUp_announced : ∀ (es : List Event) (s : Session),
    BringsUp s.status (es.filterMap Event.fetched?) (s.announced es)
  | [], s => .done s.status
  | e :: es, s => by
    have hrest := bringsUp_announced es (s.after e)
    -- the next status is compared with the one of this event, or with the known one if it has none
    rw [status_after] at hrest
    unfold announced
    cases hf : e.fetched? with
    | none =>
      rw [hf] at hrest
      rw [List.filterMap_cons_none hf, s.announcedBy_of_fetched?_eq_none hf]
      exact hrest
    | some status =>
      rw [hf] at hrest
      rw [List.filterMap_cons_some hf, s.announcedBy_of_fetched?_eq_some hf]
      cases hn : s.newLeader? status with
      | none => exact .same (newLeader?_eq_none_iff.1 hn) hrest
      | some name =>
        obtain ⟨hled, hnew⟩ := newLeader?_eq_some_iff.1 hn
        exact .change hled hnew hrest

theorem announced_eq_of_fetched?_eq {es fs : List Event}
    (h : es.filterMap Event.fetched? = fs.filterMap Event.fetched?) (s : Session) :
    s.announced es = s.announced fs := by
  have hes := s.bringsUp_announced es
  rw [h] at hes
  exact hes.unique (s.bringsUp_announced fs)

theorem announcedBy_sublist_lines (s : Session) (e : Event) :
    ((s.announcedBy e).map announcement).Sublist (e.lines s) := by
  cases hf : e.fetched? with
  | none =>
    rw [s.announcedBy_of_fetched?_eq_none hf]
    exact List.nil_sublist _
  | some status =>
    rw [s.announcedBy_of_fetched?_eq_some hf, (s.lines_of_fetched?_eq_some hf).2]

theorem announced_sublist_dictated : ∀ (es : List Event) (s : Session),
    ((s.announced es).map announcement).Sublist (s.dictated es)
  | [], _ => List.Sublist.refl _
  | e :: es, s => by
    unfold announced dictated
    rw [List.map_append]
    exact (s.announcedBy_sublist_lines e).append (announced_sublist_dictated es (s.after e))

end Session

/-- The status that is known after events: the latest that was fetched, or else the one before any. -/
def known (es : List Event) : ServerStatus := (latest? Event.fetched? es).getD .initial

theorem status_replay (es : List Event) : (Session.replay {} es).status = known es :=
  (reflects_replay es).status

/-- **The leaders that a run announces** are, in order, those that the statuses it fetched bring up after
the status that is known at first, and their lines stand in its log in this order.  A leader that stays is
announced no more, and one that was not known to lead is announced at once.  Failed refreshes, requests and
connections have no part in it: all events that fetch the same statuses announce the same leaders. -/
theorem announcements_follow_leaders {σ : Type} (b : Backend σ) (world : σ) (steps : List (Step σ)) :
    let turn := run b steps {} world
    let statuses := turn.events.filterMap Event.fetched?
    let names := Session.announced {} turn.events
    (∀ names', BringsUp .initial statuses names' ↔ names' = names) ∧
      (names.map Session.announcement).Sublist turn.session.log.entries ∧
      (∀ earlier later name, turn.events = earlier ++ later → (known earlier).LedBy name →
        (∀ status ∈ later.filterMap Event.fetched?, status.LedBy name) →
        names = Session.announced {} earlier) ∧
      (∀ earlier e later status name, turn.events = earlier ++ e :: later →
        e.fetched? = some status → status.LedBy name → ¬ (known earlier).LedBy name →
        ∃ rest, names = Session.announced {} earlier ++ name :: rest) ∧
      ∀ events, events.filterMap Event.fetched? = statuses → Session.announced {} events = names := by
  intro turn statuses names
  have hnames : BringsUp .initial statuses names := Session.bringsUp_announced turn.events {}
  refine ⟨fun names' => ⟨fun h => h.unique hnames, fun h => h ▸ hnames⟩, ?_, ?_, ?_, ?_⟩
  · have hs : turn.session = Session.replay {} turn.events := session_run b steps {} world
    rw [hs, Session.entries_replay]
    exact Session.announced_sublist_dictated turn.events {}
  · intro earlier later name hsplit hknown hstays
    have hlater := Session.bringsUp_announced later (Session.replay {} earlier)
    rw [status_replay] at hlater
    change Session.announced {} turn.events = _
    rw [hsplit, Session.announced_append, hlater.eq_nil hknown hstays, List.append_nil]
  · intro earlier e later status name hsplit hfetched hled hnew
    have hfound : (Session.replay {} earlier).newLeader? status = some name := by
      rw [Session.newLeader?_eq_some_iff, status_replay]
      exact ⟨hled, hnew⟩
    refine ⟨((Session.replay {} earlier).after e).announced later, ?_⟩
    change Session.announced {} turn.events = _
    rw [hsplit, Session.announced_append, Session.announced,
      Session.announcedBy_of_fetched?_eq_some _ hfetched, hfound]
    rfl
  · exact fun events hevents => Session.announced_eq_of_fetched?_eq hevents {}

/-- A playground that gives these answers when it is asked for its status, and a response that looks like
an announcement to every request. -/
def echoing : Backend (List (Except Error ServerStatus)) where
  connect answers := (.ok {}, answers)
  disconnect answers := (.ok (), answers)
  status
    | [] => (.error (.backend "no answer" none), [])
    | answer :: answers => (answer, answers)
  submit _ answers := (.ok { success := true, result := "node1 is the leader" }, answers)

/-- A status in which two members say that they lead. -/
def doubleLed : ServerStatus where
  members := [{ name := "node1" }, { name := "node2", isLeader := true },
    { name := "node3", isLeader := true }]

theorem doubleLed_ledBy : doubleLed.LedBy "node2" :=
  ⟨[{ name := "node1" }], { name := "node2", isLeader := true },
    [{ name := "node3", isLeader := true }], rfl, rfl, rfl, by decide⟩

theorem not_ledBy_of_leaderName?_eq_none {status : ServerStatus} (h : status.leaderName? = none)
    (name : String) : ¬ status.LedBy name := by
  rw [← ServerStatus.leaderName?_eq_some_iff, h]
  simp

def leaderless : ServerStatus := {}

/-- A leader is found once, and stays through a failed call and a request. -/
def settling : Turn (List (Except Error ServerStatus)) :=
  run echoing [⟨Int.ofNat, .refresh⟩, ⟨Int.ofNat, .refresh⟩, ⟨Int.ofNat, .submit {}⟩,
      ⟨Int.ofNat, .refresh⟩, ⟨Int.ofNat, .refresh⟩] {}
    [.ok leaderless, .ok doubleLed, .error (.backend "no answer" none), .ok doubleLed]

theorem settling_announcements :
    settling.events.filterMap Event.fetched? = [leaderless, doubleLed, doubleLed] ∧
      (known (settling.events.take 2)).LedBy "node2" ∧
      ¬ (known (settling.events.take 1)).LedBy "node2" ∧
      Session.announced {} settling.events = ["node2"] ∧
      (LogLevel.info, "node2 is the leader") ∈ settling.session.log.entries ∧
      Session.announced {} (settling.events.take 2) = ["node2"] ∧
      (∃ rest, Session.announced {} settling.events =
        Session.announced {} (settling.events.take 1) ++ "node2" :: rest) ∧
      Session.announced {} (settling.events.filter fun e => e.fetched?.isSome) = ["node2"] := by
  obtain ⟨hnames, hlog, hstays, hfound, hsame⟩ := announcements_follow_leaders echoing
    [.ok leaderless, .ok doubleLed, .error (.backend "no answer" none), .ok doubleLed]
    [⟨Int.ofNat, .refresh⟩, ⟨Int.ofNat, .refresh⟩, ⟨Int.ofNat, .submit {}⟩, ⟨Int.ofNat, .refresh⟩,
      ⟨Int.ofNat, .refresh⟩]
  have hnone : ∀ name, ¬ leaderless.LedBy name := not_ledBy_of_leaderName?_eq_none rfl
  have hsequence : Session.announced {} settling.events = ["node2"] := by
    refine ((hnames ["node2"]).1 ?_).symm
    refine .same (fun name h => absurd h (hnone name)) ?_
    exact .change doubleLed_ledBy (hnone "node2") (.same (fun _ h => h) (.done _))
  have hafter : Session.announced {} settling.events =
      Session.announced {} (settling.events.take 2) := by
    refine hstays _ (settling.events.drop 2) "node2" rfl doubleLed_ledBy ?_
    exact List.forall_mem_singleton.2 doubleLed_ledBy
  have hline : (LogLevel.info, "node2 is the leader") ∈ settling.session.log.entries := by
    refine hlog.subset ?_
    change _ ∈ (Session.announced {} settling.events).map Session.announcement
    rw [hsequence]
    exact List.mem_cons_self
  have hchange := hfound (settling.events.take 1) ⟨Int.ofNat, .refreshed (.ok doubleLed)⟩
    (settling.events.drop 2) doubleLed "node2" rfl rfl doubleLed_ledBy (hnone "node2")
  refine ⟨rfl, doubleLed_ledBy, hnone "node2", hsequence, hline, hafter ▸ hsequence, hchange, ?_⟩
  exact (hsame _ rfl).trans hsequence

end EtcdKit.Playground
