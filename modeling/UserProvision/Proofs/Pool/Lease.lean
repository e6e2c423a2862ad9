import UserProvision.Proofs.Pool.Trace

/-!
# Leases over any sequence of uses

A lease holds its connection however it is used, until it ends. Every way to end it hands the
connection back once, as it was last changed, and abandoned just if a round trip was started and not
finished since. What is then left of the lease is empty, so dropping it does nothing, even if the
pool failed or crashed when it took the connection back.

## Main definitions

* `Use.connectionAfter` — the connection as uses leave it.
* `Use.LeaveOwed` — the last start of a round trip has no finish behind it.
* `LeaseEnd.outcome`, `LeaseEnd.complaint` — what the answer to the check-in makes of an end.

## Main results

* `Lease.uses_apply` — what uses leave behind.
* `Lease.ending_held` — what the end of a lease adds to that.
* `lease_hands_back_once` — a lease from its start to its end.
-/

namespace UserProvision

variable {σ κ α : Type}

/-! ## Uses -/

namespace Use

/-- The connection after a use. -/
def onConnection (c : κ) : Use κ → κ
  | .change f => f c
  | .started | .finished => c

/-- Whether a reply is outstanding after a use. -/
def onInFlight (inFlight : Bool) : Use κ → Bool
  | .started => true
  | .finished => false
  | .change _ => inFlight

/-- The connection after uses: as it was last changed. -/
def connectionAfter (c : κ) (us : List (Use κ)) : κ := us.foldl onConnection c

/-- Whether a reply is outstanding after uses. -/
def inFlightAfter (inFlight : Bool) (us : List (Use κ)) : Bool := us.foldl onInFlight inFlight

/-- A round trip was started after the last one that was finished. -/
def LeaveOwed (us : List (Use κ)) : Prop :=
  ∃ before after, us = before ++ .started :: after ∧ .finished ∉ after

theorem not_leaveOwed_nil : ¬ LeaveOwed ([] : List (Use κ)) := by
  rintro ⟨before, after, eq, -⟩
  cases before <;> cases eq

theorem leaveOwed_cons (u : Use κ) (us : List (Use κ)) :
    LeaveOwed (u :: us) ↔ (u = .started ∧ .finished ∉ us) ∨ LeaveOwed us := by
  constructor
  · rintro ⟨before, after, eq, unfinished⟩
    cases before with
    | nil =>
      obtain ⟨rfl, rfl⟩ := List.cons.inj eq
      exact .inl ⟨rfl, unfinished⟩
    | cons _ before =>
      obtain ⟨rfl, rfl⟩ := List.cons.inj eq
      exact .inr ⟨before, after, rfl, unfinished⟩
  · rintro (⟨rfl, unfinished⟩ | ⟨before, after, rfl, unfinished⟩)
    · exact ⟨[], us, rfl, unfinished⟩
    · exact ⟨u :: before, after, rfl, unfinished⟩

/-- A reply is outstanding just if a round trip was started after the last one that was finished, or
one was outstanding before and none was finished. -/
theorem inFlightAfter_iff (inFlight : Bool) (us : List (Use κ)) :
    inFlightAfter inFlight us = true ↔ LeaveOwed us ∨ (inFlight = true ∧ .finished ∉ us) := by
  induction us generalizing inFlight with
  | nil => simp [inFlightAfter, not_leaveOwed_nil]
  | cons u us ih =>
    have step : inFlightAfter inFlight (u :: us) = inFlightAfter (u.onInFlight inFlight) us := rfl
    rw [step, ih, leaveOwed_cons]
    cases u <;> grind [onInFlight]

end Use

/-- Uses change nothing but the connection and whether a reply is outstanding; none of them finds
the connection gone. -/
theorem Use.forM_act (c : κ) (inFlight : Bool) (us : List (Use κ)) (s : σ) (t : Trace κ) :
    us.forM Use.act ⟨s, some ⟨some c, inFlight⟩, t⟩ =
      .ok () ⟨s, some ⟨some (connectionAfter c us), inFlightAfter inFlight us⟩, t⟩ := by
  induction us generalizing c inFlight with
  | nil => rfl
  | cons u us ih =>
    have step : u.act ⟨s, some ⟨some c, inFlight⟩, t⟩ =
        .ok () ⟨s, some ⟨some (u.onConnection c), u.onInFlight inFlight⟩, t⟩ := by
      cases u <;> rfl
    change (u.act >>= fun _ => us.forM act) _ = _
    rw [Act.bind_apply, step]
    exact ih (u.onConnection c) (u.onInFlight inFlight)

theorem Lease.uses_apply (c : κ) (us : List (Use κ)) (s : σ) (t : Trace κ) :
    Lease.uses c us ⟨s, none, t⟩ =
      .ok () ⟨s, some ⟨some (Use.connectionAfter c us), Use.inFlightAfter false us⟩,
        t ++ [.event .checkedOut]⟩ := by
  rw [uses, Act.bind_apply, Act.hold_apply]
  exact Use.forM_act c false us s _

/-! ## The end -/

namespace LeaseEnd

/-- What an end comes to, by the answer to the check-in. -/
def outcome : LeaseEnd α → Answer Unit → Except Halt (Option α)
  | _, .crashes message => .error (.crashed message)
  | .release, .gives () => .ok none
  | .release, .fails e => .error (.failed e)
  | .finish (.ok a), _ => .ok (some a)
  | .finish (.error e), .gives () => .error (.failed e)
  | .finish (.error e), .fails secondary => .error (.failed (e.attach secondary))
  | .drop, _ => .ok none
  | .crash message, _ => .error (.crashed message)

/-- What is logged if the connection could not go back and nobody else is told. -/
def complaint : LeaseEnd α → Error → List Event
  | .finish (.ok _), e => [.checkInFailedAfterSuccess e]
  | .drop, e | .crash _, e => [.checkInFailedWhileAbandoning e]
  | .release, _ | .finish (.error _), _ => []

end LeaseEnd

/-- How an act went: what it came to, and the scene as it is then. -/
def Act.run (a : Act σ κ α) (s : Scene σ κ) : Except Halt α × Scene σ κ :=
  match a s with
  | .ok x s => (.ok x, s)
  | .error halt s => (.error halt, s)

section Held

variable {pool : Pool σ κ} {c : κ} {inFlight : Bool} {s s' : σ} {answer : Answer Unit}
  (back : pool.checkIn c (Lease.state ⟨some c, inFlight⟩) s = (answer, s')) (t : Trace κ)

include back

/-- Whatever is answered to a check-in, the lease is empty from then on. -/
theorem Act.run_handBack_held :
    ((Act.handBack pool).run ⟨s, some ⟨some c, inFlight⟩, t⟩).2 =
      ⟨s', some ⟨none, inFlight⟩,
        t ++ handedBack c (Lease.state ⟨some c, inFlight⟩) answer⟩ := by
  cases answer <;> simp [run, handBack_held back]

/-- The end of a lease makes one check-in, and adds to the trace what is logged about it. Only a
crash of the check-in leaves anything of the lease, and that is empty. -/
theorem Lease.ending_held (e : LeaseEnd α) : ∃ left : Option (Lease κ),
    (∀ l ∈ left, l.connection = none) ∧
      (Lease.ending pool e).run ⟨s, some ⟨some c, inFlight⟩, t⟩ =
        (e.outcome answer, ⟨s', left,
          t ++ Act.handedBack c (Lease.state ⟨some c, inFlight⟩) answer ++
            Act.complaints e.complaint answer⟩) := by
  have released := Act.release_held back t
  have dropped := Act.drop_held back t
  cases e with
  | release =>
    cases answer <;>
      simp [Act.run, ending, released, LeaseEnd.outcome, LeaseEnd.complaint, Act.complaints]
  | finish result =>
    cases result <;> cases answer <;>
      simp [Act.run, ending, Act.finish, released, LeaseEnd.outcome, LeaseEnd.complaint,
        Act.complaints]
  | drop =>
    cases answer <;>
      simp [Act.run, ending, dropped, LeaseEnd.outcome, LeaseEnd.complaint, Act.complaints]
  | crash message =>
    cases answer <;>
      simp [Act.run, ending, Act.unwinding, dropped, LeaseEnd.outcome, LeaseEnd.complaint,
        Act.complaints]

end Held

/-- Dropping what is left of a lease that is empty, or nothing, does nothing and logs nothing. -/
theorem Act.drop_left (pool : Pool σ κ) (s : σ) {left : Option (Lease κ)}
    (empty : ∀ l ∈ left, l.connection = none) (t : Trace κ) :
    drop pool ⟨s, left, t⟩ = .ok () ⟨s, none, t⟩ := by
  cases left with
  | none => rfl
  | some l =>
    obtain ⟨connection, inFlight⟩ := l
    obtain rfl : connection = none := empty _ rfl
    rfl

/-- A lease from its start to its end, over any uses. After any number of them the connection is
there, as it was last changed. The end makes one check-in, of the connection as it is then:
abandoned just if a round trip was started after the last one that was finished, clean otherwise.
Once that check-in was answered, be it by a failure or a crash, the drop that follows changes
nothing and logs nothing; neither does dropping what the end left. -/
theorem lease_hands_back_once (pool : Pool σ κ) (c : κ) (us : List (Use κ)) (e : LeaseEnd α) (s : σ)
    (t : Trace κ) :
    let c' := Use.connectionAfter c us
    (∀ n, ∃ scene : Scene σ κ, Lease.uses c (us.take n) ⟨s, none, t⟩ = .ok () scene ∧
      Act.connection scene = .ok (Use.connectionAfter c (us.take n)) scene) ∧
    ∃ (state : CheckInState) (held : Scene σ κ), (state = .abandoned ↔ Use.LeaveOwed us) ∧
      Lease.uses c us ⟨s, none, t⟩ = .ok () held ∧
      held.trace = t ++ [.event .checkedOut] ∧
      let answer := (pool.checkIn c' state s).1
      let returned := ((Act.handBack pool).run held).2
      let ended := (Lease.ending pool e).run held
      ended.1 = e.outcome answer ∧
        ended.2.pool = (pool.checkIn c' state s).2 ∧
        ended.2.trace.checkIns = t.checkIns ++ [(c', state)] ∧
        ended.2.trace =
          held.trace ++ Act.handedBack c' state answer ++ Act.complaints e.complaint answer ∧
        Act.drop pool returned = .ok () { returned with lease := none } ∧
        Act.drop pool ended.2 = .ok () { ended.2 with lease := none } := by
  intro c'
  have owed := Use.inFlightAfter_iff false us
  have used := Lease.uses_apply c us s t
  -- From here on, the uses matter only through the connection and the flag that they leave.
  generalize Use.inFlightAfter false us = inFlight at owed used
  have back : pool.checkIn c' (Lease.state ⟨some c', inFlight⟩) s = (_, _) := rfl
  obtain ⟨left, empty, ended⟩ := Lease.ending_held back (t ++ [.event .checkedOut]) e
  have returned := Act.run_handBack_held back (t ++ [.event .checkedOut])
  refine ⟨?_, Lease.state ⟨some c', inFlight⟩, _, ?_, used, rfl, ?_⟩
  · intro n
    exact ⟨_, Lease.uses_apply c (us.take n) s t, Act.connection_apply ..⟩
  · simpa [Lease.state] using owed
  · dsimp only
    rw [ended, returned]
    refine ⟨rfl, rfl, ?_, rfl, rfl, Act.drop_left pool _ empty _⟩
    obtain ⟨rest, log, eq⟩ := Act.handedBack_eq c' (Lease.state ⟨some c', inFlight⟩)
      (pool.checkIn c' (Lease.state ⟨some c', inFlight⟩) s).1
    have complained := Act.isLog_complaints (κ := κ) e.complaint
      (pool.checkIn c' (Lease.state ⟨some c', inFlight⟩) s).1
    simp [eq, log.checkIns_eq_nil, complained.checkIns_eq_nil]

end UserProvision
