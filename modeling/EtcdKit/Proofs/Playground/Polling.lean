import EtcdKit.Proofs.Playground.Growth
/-!
# Polling — where polling ends, and what it has done by then

Polling is watched over a sequence of answers and a sequence of waits.  Every round that does not
stop leaves one more call and one more session shown (`poll_round`), so polling reaches the first
round that stops with exactly that many of both (`poll_rounds`), and ends there: as inactive if the
playground says so, whatever the wait of that round would have been, and as cancelled otherwise
(`polling_ends_at_first_stop`).
-/
namespace EtcdKit.Playground

/-- A playground that answers from a sequence and keeps count: how often it has been asked, and the
sessions that it has been shown, each with the number of calls made until then. -/
structure Watch where
  calls : Nat := 0
  shown : List (Nat × Session) := []

namespace Watch

def answer (answers : Nat → Except Error ServerStatus) (w : Watch) :
    Except Error ServerStatus × Watch :=
  (answers w.calls, { w with calls := w.calls + 1 })

def see (s : Session) (w : Watch) : Watch := { w with shown := w.shown ++ [(w.calls, s)] }

end Watch

/-- The session after the first answers of a sequence. -/
def Session.refreshedBy (s : Session) (clock : Clock) (answers : Nat → Except Error ServerStatus) :
    Nat → Session
  | 0 => s
  | k + 1 => (s.refreshedBy clock answers k).refreshed clock (answers k)

/-- Polling over a sequence of answers and a sequence of waits, for so many rounds at most. -/
def Session.watch (s : Session) (clock : Clock) (answers : Nat → Except Error ServerStatus)
    (waits : Nat → Wait) (rounds : Nat) : PollResult Watch :=
  s.poll (Watch.answer answers) Watch.see clock {} ((List.range rounds).map waits)

/-- The playground answers that the session is over. -/
def Closed (answer : Except Error ServerStatus) : Prop :=
  ∃ status, answer = .ok status ∧ status.active = false

theorem goesOn_eq_false_iff {answer : Except Error ServerStatus} :
    Session.goesOn answer = false ↔ Closed answer := by
  cases answer with
  | error e => simp [Session.goesOn, Closed]
  | ok status => simp [Session.goesOn, Closed]

theorem goesOn_of_not_closed {answer : Except Error ServerStatus} (h : ¬ Closed answer) :
    Session.goesOn answer = true := by
  cases hgoes : Session.goesOn answer with
  | true => rfl
  | false => exact absurd (goesOn_eq_false_iff.1 hgoes) h

/-- A round, counted from zero, that ends polling: the playground closes the session, or the wait
after its answer is cut short. -/
def Stops (answers : Nat → Except Error ServerStatus) (waits : Nat → Wait) (k : Nat) : Prop :=
  Closed (answers k) ∨ waits k ≠ .elapsed

section Rounds

variable (s : Session) (clock : Clock) (answers : Nat → Except Error ServerStatus) (waits : Nat → Wait)

/-- What has been asked and shown after the first rounds. -/
def Watch.after (k : Nat) : Watch :=
  ⟨k, (List.range k).map fun i => (i + 1, s.refreshedBy clock answers (i + 1))⟩

theorem Watch.after_succ (k : Nat) :
    Watch.see (s.refreshedBy clock answers (k + 1))
        (Watch.answer answers (Watch.after s clock answers k)).2 =
      Watch.after s clock answers (k + 1) := by
  unfold Watch.see Watch.answer Watch.after
  rw [List.range_succ, List.map_append]
  rfl

/-- Polling from the round of that number on, for so many rounds at most. -/
def pollFrom (k rounds : Nat) : PollResult Watch :=
  (s.refreshedBy clock answers k).poll (Watch.answer answers) Watch.see clock
    (Watch.after s clock answers k) ((List.range' k rounds).map waits)

theorem watch_eq_pollFrom (rounds : Nat) :
    s.watch clock answers waits rounds = pollFrom s clock answers waits 0 rounds := by
  unfold Session.watch pollFrom
  rw [List.range_eq_range']
  rfl

/-- **A round that does not stop** makes one call, shows one session, and leads to the next. -/
theorem poll_round {k : Nat} (h : ¬ Stops answers waits k) (rounds : Nat) :
    pollFrom s clock answers waits k (rounds + 1) = pollFrom s clock answers waits (k + 1) rounds := by
  have helapsed : waits k = .elapsed := Decidable.byContradiction fun hcut => h (.inr hcut)
  have hgoes : Session.goesOn (Watch.answer answers (Watch.after s clock answers k)).1 = true :=
    goesOn_of_not_closed fun hclosed => h (.inl hclosed)
  unfold pollFrom
  rw [List.range'_succ, List.map_cons, helapsed, Session.poll_elapsed _ _ _ _ _ _ hgoes]
  exact congrArg (fun w => Session.poll _ _ clock _ w _) (Watch.after_succ s clock answers k)

/-- **Polling passes all rounds that do not stop.** -/
theorem poll_rounds : ∀ {n : Nat}, (∀ k < n, ¬ Stops answers waits k) → ∀ rounds,
    pollFrom s clock answers waits 0 (n + rounds) = pollFrom s clock answers waits n rounds
  | 0, _, rounds => by rw [Nat.zero_add]
  | n + 1, h, rounds => by
    have hbefore : ∀ k < n, ¬ Stops answers waits k := fun k hk => h k (Nat.lt_succ_of_lt hk)
    rw [Nat.add_assoc, Nat.add_comm 1 rounds, poll_rounds hbefore,
      poll_round s clock answers waits (h n (Nat.lt_succ_self n))]

/-- **A round that the playground closes** ends polling, whatever its wait is. -/
theorem pollFrom_of_closed {k : Nat} (h : Closed (answers k)) (rounds : Nat) :
    pollFrom s clock answers waits k (rounds + 1) =
      ⟨(s.refreshedBy clock answers (k + 1)).expired clock, Watch.after s clock answers (k + 1),
        some .inactive⟩ := by
  have hgoes : Session.goesOn (Watch.answer answers (Watch.after s clock answers k)).1 = false :=
    goesOn_eq_false_iff.2 h
  unfold pollFrom
  rw [List.range'_succ, List.map_cons, Session.poll_inactive _ _ _ _ _ _ _ hgoes,
    ← Watch.after_succ]
  rfl

/-- **A round whose wait is cut short** ends polling if the playground has not. -/
theorem pollFrom_of_cut {k : Nat} (hopen : ¬ Closed (answers k)) (hcut : waits k ≠ .elapsed)
    (rounds : Nat) :
    pollFrom s clock answers waits k (rounds + 1) =
      ⟨s.refreshedBy clock answers (k + 1), Watch.after s clock answers (k + 1), some .cancelled⟩ := by
  have hgoes : Session.goesOn (Watch.answer answers (Watch.after s clock answers k)).1 = true :=
    goesOn_of_not_closed hopen
  unfold pollFrom
  rw [List.range'_succ, List.map_cons, Session.poll_cancelled _ _ _ _ _ _ hcut hgoes,
    ← Watch.after_succ]
  rfl

variable {s clock answers waits}

theorem watch_of_closed {n rounds : Nat} (hbefore : ∀ k < n, ¬ Stops answers waits k)
    (hclosed : Closed (answers n)) (hrounds : n < rounds) :
    s.watch clock answers waits rounds =
      ⟨(s.refreshedBy clock answers (n + 1)).expired clock, Watch.after s clock answers (n + 1),
        some .inactive⟩ := by
  obtain ⟨rest, rfl⟩ := Nat.exists_eq_add_of_lt hrounds
  rw [watch_eq_pollFrom, Nat.add_assoc, poll_rounds s clock answers waits hbefore,
    pollFrom_of_closed s clock answers waits hclosed]

theorem watch_of_cut {n rounds : Nat} (hbefore : ∀ k < n, ¬ Stops answers waits k)
    (hopen : ¬ Closed (answers n)) (hcut : waits n ≠ .elapsed) (hrounds : n < rounds) :
    s.watch clock answers waits rounds =
      ⟨s.refreshedBy clock answers (n + 1), Watch.after s clock answers (n + 1), some .cancelled⟩ := by
  obtain ⟨rest, rfl⟩ := Nat.exists_eq_add_of_lt hrounds
  rw [watch_eq_pollFrom, Nat.add_assoc, poll_rounds s clock answers waits hbefore,
    pollFrom_of_cut s clock answers waits hopen hcut]

end Rounds

/-- **Polling ends in the first round that stops**, however many rounds it is given beyond that.  By
then it has made one call for each round and shown the session after each of them, right after the
call.  It ends as inactive exactly if the playground closed the session in that round; then one line
is appended after the session was last shown, and no wait from that round on makes a difference.
Otherwise it ends as cancelled, and the session is the one last shown.  A failed call in a round
whose time is over does not end it. -/
theorem polling_ends_at_first_stop (s : Session) (clock : Clock)
    (answers : Nat → Except Error ServerStatus) (waits : Nat → Wait) (n : Nat)
    (hstop : Stops answers waits n) (hfirst : ∀ k < n, ¬ Stops answers waits k) (rounds : Nat)
    (hrounds : n < rounds) :
    let result := s.watch clock answers waits rounds
    let last := s.refreshedBy clock answers (n + 1)
    result.world.calls = n + 1 ∧
      result.world.shown =
        (List.range (n + 1)).map (fun k => (k + 1, s.refreshedBy clock answers (k + 1))) ∧
      (result.stop = some .inactive ↔ Closed (answers n)) ∧
      (result.stop = some .cancelled ↔ ¬ Closed (answers n)) ∧
      (Closed (answers n) →
        result.session = last.expired clock ∧
          result.session.log.entries =
            last.log.entries ++ [(.warn, "playground session is no longer active")] ∧
          ∀ others, (∀ k < n, others k = waits k) →
            s.watch clock answers others rounds = result) ∧
      (¬ Closed (answers n) → result.session = last) ∧
      ∀ k e, answers k = .error e → waits k = .elapsed → k ≠ n := by
  intro result last
  have hfailed : ∀ k e, answers k = .error e → waits k = .elapsed → k ≠ n := by
    rintro k e hk hw rfl
    rcases hstop with ⟨status, hs, -⟩ | hcut
    · rw [hk] at hs
      cases hs
    · exact hcut hw
  by_cases hclosed : Closed (answers n)
  · have hresult : result = _ := watch_of_closed hfirst hclosed hrounds
    -- rounds before the last do not stop under the other waits either, as these agree there
    have hothers : ∀ others, (∀ k < n, others k = waits k) →
        s.watch clock answers others rounds = result := by
      intro others hagree
      rw [hresult]
      refine watch_of_closed (fun k hk => ?_) hclosed hrounds
      have := hfirst k hk
      unfold Stops at this ⊢
      rw [hagree k hk]
      exact this
    rw [hresult] at hothers ⊢
    have hlog : (last.expired clock).log.entries =
        last.log.entries ++ [(.warn, "playground session is no longer active")] :=
      LogBook.entries_extend clock [(.warn, "playground session is no longer active")] last.log
    refine ⟨rfl, rfl, ?_, ?_, fun _ => ⟨rfl, hlog, hothers⟩, fun h => absurd hclosed h, hfailed⟩
    · simp [hclosed]
    · simp [hclosed]
  · have hcut : waits n ≠ .elapsed := hstop.resolve_left hclosed
    have hresult : result = _ := watch_of_cut hfirst hclosed hcut hrounds
    rw [hresult]
    refine ⟨rfl, rfl, ?_, ?_, fun h => absurd h hclosed, fun _ => rfl, hfailed⟩
    · simp [hclosed]
    · simp [hclosed]

/-- A call that fails, then an open session, then a closed one. -/
def failedThenClosed : Nat → Except Error ServerStatus
  | 0 => .error (.backend "HTTP request failed" none)
  | 1 => .ok { active := true }
  | _ => .ok { active := false }

/-- The user asks to stop in the third round. -/
def lateSignal : Nat → Wait
  | 0 => .elapsed
  | 1 => .elapsed
  | _ => .signalled

/-- Both reasons to stop meet in the third round, and the playground's counts. -/
theorem failedThenClosed_polling_ends :
    Stops failedThenClosed lateSignal 2 ∧ (∀ k < 2, ¬ Stops failedThenClosed lateSignal k) ∧
      (Session.watch {} Int.ofNat failedThenClosed lateSignal 5).world.calls = 3 ∧
      (Session.watch {} Int.ofNat failedThenClosed lateSignal 5).stop = some .inactive := by
  have hclosed : Closed (failedThenClosed 2) := ⟨_, rfl, rfl⟩
  have hfirst : ∀ k < 2, ¬ Stops failedThenClosed lateSignal k := by
    intro k hk
    match k, hk with
    | 0, _ => simp [Stops, Closed, failedThenClosed, lateSignal]
    | 1, _ => simp [Stops, Closed, failedThenClosed, lateSignal]
  obtain ⟨hcalls, -, hinactive, -⟩ := polling_ends_at_first_stop {} Int.ofNat failedThenClosed
    lateSignal 2 (.inl hclosed) hfirst 5 (by decide)
  exact ⟨.inl hclosed, hfirst, hcalls, hinactive.2 hclosed⟩

end EtcdKit.Playground
