import UserProvision.Proofs.Pool.Calls

/-!
# Every connection is handed back

A connection that was delivered is used, then handed back exactly once, and nothing but log events
follows. It goes back abandoned if a request was sent on it whose reply is still owed, and clean in
every other case. The invariant behind this says what the trace has to be in every state of an
invocation: `Trace.Idle` before a connection is delivered, `Trace.Holding` while one is held, and
`Trace.Balanced` when the invocation is over.

That traces tell just the calls that were made is shown in `Proofs.Pool.Calls`. So the same holds of
the calls that a pool has written down itself (`NewUser.accounts_called`, `Run.accounts_called`).
-/

namespace UserProvision

variable {σ κ : Type}

namespace Trace

/-- No connection was delivered, used or handed back. -/
structure Idle (t : Trace κ) : Prop where
  delivered : t.delivered = []
  subjects : t.subjects = []
  checkIns : t.checkIns = []

/-- A connection was delivered, only that one was used, and it was not handed back. -/
structure Holding (t : Trace κ) (c : κ) : Prop where
  delivered : t.delivered = [c]
  subjects : ∀ c' ∈ t.subjects, c' = c
  checkIns : t.checkIns = []

/-- The condition in which a connection has to go back. -/
def dueState (t : Trace κ) : CheckInState := if t.isOwed then .abandoned else .clean

/-- Either no connection was delivered, or the one that was has been handed back once, after all
uses, in the condition that was due then. -/
inductive Balanced : Trace κ → Prop where
  | idle {t : Trace κ} (idle : t.Idle) : Balanced t
  | handedBack {t : Trace κ} {c : κ} (holding : t.Holding c) (answer : Answer Unit)
      {rest : Trace κ} (log : rest.IsLog) :
      Balanced (t ++ .checkIn c t.dueState answer :: rest)

/-- A part of a trace that uses a connection. -/
structure Using (t : Trace κ) (c : κ) : Prop where
  delivered : t.delivered = []
  subjects : ∀ c' ∈ t.subjects, c' = c
  checkIns : t.checkIns = []

theorem Using.append {t t' : Trace κ} {c : κ} (h : t.Using c) (h' : t'.Using c) :
    (t ++ t').Using c where
  delivered := by simp [h.delivered, h'.delivered]
  subjects := by
    intro c' hc
    rw [subjects_append, List.mem_append] at hc
    exact hc.elim (h.subjects c') (h'.subjects c')
  checkIns := by simp [h.checkIns, h'.checkIns]

/-- Logging uses nothing. -/
theorem IsLog.using {t : Trace κ} (h : t.IsLog) (c : κ) : t.Using c :=
  ⟨h.delivered_eq_nil, by simp [h.subjects_eq_nil], h.checkIns_eq_nil⟩

theorem Holding.append {t t' : Trace κ} {c : κ} (h : t.Holding c) (h' : t'.Using c) :
    (t ++ t').Holding c where
  delivered := by simp [h.delivered, h'.delivered]
  subjects := by
    intro c' hc
    rw [subjects_append, List.mem_append] at hc
    exact hc.elim (h.subjects c') (h'.subjects c')
  checkIns := by simp [h.checkIns, h'.checkIns]

theorem Idle.append {t t' : Trace κ} (h : t.Idle) (h' : t'.Idle) : (t ++ t').Idle :=
  ⟨by simp [h.delivered, h'.delivered], by simp [h.subjects, h'.subjects],
    by simp [h.checkIns, h'.checkIns]⟩

theorem Idle.holding {t : Trace κ} (h : t.Idle) {t' : Trace κ} {c : κ} (h' : t'.Holding c) :
    (t ++ t').Holding c :=
  ⟨by simp [h.delivered, h'.delivered], by simpa [h.subjects] using h'.subjects,
    by simp [h.checkIns, h'.checkIns]⟩

theorem holding_delivery (c : κ) : (delivery c).Holding c := ⟨rfl, by simp [delivery], rfl⟩

/-- Where nothing was used, nothing is owed. -/
theorem isOwed_append_of_subjects_eq_nil {t : Trace κ} (h : t.subjects = []) (t' : Trace κ) :
    (t ++ t').isOwed = t'.isOwed := by
  have unused : ∀ e ∈ t, e.subject? = none := List.filterMap_eq_nil_iff.mp h
  have requests : t.requests = [] := by
    rw [requests, List.filterMap_eq_nil_iff]
    intro e he
    have := unused e he
    cases e <;> simp_all
  have outcomes : t.any Entry.isOutcome = false := by
    rw [List.any_eq_false]
    intro e he
    have := unused e he
    cases e <;> simp_all
  simp [isOwed, requests, outcomes]

end Trace

/-! ## The parts of an invocation -/

section Parts

variable {pool : Pool σ κ} {creation : Creation} {id : ObjectId} {c : κ} {s s' : σ}
  {seg : Trace κ} {inFlight : Bool}

/-- Preparing asks about the connection and sends nothing. -/
theorem Prepares.trace {r : Except Halt (Description × Request)}
    (h : Prepares pool creation id c s seg s' r) :
    seg.Using c ∧ seg.requests = [] ∧ seg.any Entry.isOutcome = false := by
  cases h <;> exact ⟨⟨rfl, by simp, rfl⟩, rfl, rfl⟩

/-- Looking for the reply sends nothing, and leaves it owed unless it has come. -/
theorem Awaits.trace {trip : RoundTrip} {w : WorkState}
    (h : Awaits pool creation c s trip seg inFlight s' w) :
    seg.Using c ∧ seg.requests = [] ∧ seg.any Entry.isOutcome = !inFlight := by
  cases h with
  | crashed | cancelled | waiting => exact ⟨⟨rfl, by simp, rfl⟩, rfl, rfl⟩
  | @answered answer outcome _ look ready =>
    have log := RoundTrip.isLog_closing (κ := κ) trip (creation.verdict outcome)
    have reading : Trace.Using [.reply c (some answer)] c := ⟨rfl, by simp, rfl⟩
    refine ⟨reading.append (log.using c), ?_, ?_⟩
    · simp [log.requests_eq_nil]
    · simp [ready]

/-- A poll that starts work leaves a reply owed exactly if it is still outstanding. -/
theorem Begins.trace {w : WorkState} (h : Begins pool creation id c s seg inFlight s' w) :
    seg.Using c ∧ seg.isOwed = inFlight := by
  cases h with
  | stopped prepared =>
    obtain ⟨used, unsent, -⟩ := prepared.trace
    exact ⟨used, by simp [Trace.isOwed, unsent]⟩
  | cancelled prepared token =>
    obtain ⟨used, unsent, -⟩ := prepared.trace
    refine ⟨used.append ⟨rfl, by simp, rfl⟩, ?_⟩
    simp [Trace.isOwed, unsent]
  | sent prepared token awaits =>
    obtain ⟨used, unsent, unanswered⟩ := prepared.trace
    obtain ⟨used', unsent', answered⟩ := awaits.trace
    refine ⟨(used.append ⟨rfl, by simp, rfl⟩).append used', ?_⟩
    simp [Trace.isOwed, unsent, unanswered, answered]

/-- The same for work that waits for every call. -/
theorem Works.trace {w : WorkEnd} (h : Works pool creation id c s seg inFlight s' w) :
    seg.Using c ∧ seg.isOwed = inFlight := by
  cases h with
  | stopped prepared =>
    obtain ⟨used, unsent, -⟩ := prepared.trace
    exact ⟨used, by simp [Trace.isOwed, unsent]⟩
  | crashed prepared sent =>
    obtain ⟨used, unsent, unanswered⟩ := prepared.trace
    refine ⟨used.append ⟨rfl, by simp, rfl⟩, ?_⟩
    simp [Trace.isOwed, unsent, unanswered, Answer.outcome?]
  | @answered _ _ _ d r _ outcome prepared sent ready =>
    obtain ⟨used, unsent, unanswered⟩ := prepared.trace
    have log := RoundTrip.isLog_closing (κ := κ) (r.trip d)
      ((creation.afterBuild id d).verdict outcome)
    refine ⟨(used.append ⟨rfl, by simp, rfl⟩).append (log.using c), ?_⟩
    simp [Trace.isOwed, unsent, unanswered, ready]

end Parts

/-! ## Handing back what is held -/

theorem Trace.Holding.balanced {t : Trace κ} {c : κ} (h : t.Holding c) {inFlight : Bool}
    (owed : t.isOwed = inFlight) (answer : Answer Unit) (complaint : Error → List Event) :
    (t ++ (Act.handedBack c (Lease.state ⟨some c, inFlight⟩) answer ++
      Act.complaints complaint answer)).Balanced := by
  obtain ⟨rest, log, eq⟩ := Act.handedBack_eq c (Lease.state ⟨some c, inFlight⟩) answer
  have due : Lease.state ⟨some c, inFlight⟩ = t.dueState := by rw [Trace.dueState, owed]; rfl
  rw [eq, List.cons_append, due]
  refine .handedBack h answer ?_
  intro e he
  rcases List.mem_append.mp he with he | he
  · exact log e he
  · exact Act.isLog_complaints complaint answer e he

/-- A balanced trace checks in exactly what was delivered. -/
theorem Trace.Balanced.checkIns {t : Trace κ} (h : t.Balanced) :
    t.checkIns = t.delivered.map fun c => (c, t.dueState) := by
  cases h with
  | idle idle => rw [idle.checkIns, idle.delivered, List.map_nil]
  | @handedBack before c holding answer rest log =>
    have owed : (before ++ .checkIn c before.dueState answer :: rest).dueState =
        before.dueState := by
      simp [dueState, isOwed, log.requests_eq_nil, log.any_isOutcome]
    rw [owed]
    simp [holding.checkIns, holding.delivered, log.checkIns_eq_nil, log.delivered_eq_nil]

/-! ## Whole invocations -/

/-- What the trace has to be at each stage. -/
inductive Invocation.Accounts : Invocation κ → Trace κ → Prop where
  | checkingOut {creation : Creation} {id : ObjectId} {t : Trace κ} (idle : t.Idle) :
      Accounts ⟨creation, id, .checkingOut, none⟩ t
  | awaitingReply {creation creation' : Creation} {id : ObjectId} {trip : RoundTrip} {c : κ}
      {t : Trace κ} (holding : t.Holding c) (owed : t.isOwed = true) :
      Accounts ⟨creation, id, .awaitingReply creation' trip, some ⟨some c, true⟩⟩ t
  | finished {creation : Creation} {id : ObjectId} {t : Trace κ} (balanced : t.Balanced) :
      Accounts ⟨creation, id, .over, none⟩ t

section Whole

variable {pool : Pool σ κ} {s s' : σ} {inFlight : Bool} {c : κ}

/-- A turn of work goes on from a held connection to where the invocation accounts for it. -/
theorem WorkState.accounts {w : WorkState} {i : Invocation κ} {t : Trace κ}
    (waits : ∀ creation trip, w = .waits creation trip → inFlight = true)
    (holding : t.Holding c) (owed : t.isOwed = inFlight) :
    (w.invocation i c inFlight).Accounts (t ++ (w.turn pool c inFlight s).trace) := by
  cases w with
  | waits creation trip =>
    obtain rfl := waits creation trip rfl
    simpa [WorkState.turn, WorkState.invocation] using
      Invocation.Accounts.awaitingReply holding owed
  | ended w => exact .finished (holding.balanced owed _ _)

theorem Polls.accounts {i i' : Invocation κ} {turn : Turn σ κ} {t : Trace κ}
    (h : Polls pool s i turn i') (before : i.Accounts t) : i'.Accounts (t ++ turn.trace) := by
  cases h with
  | cancelled token =>
    cases before with
    | checkingOut idle => exact .finished (.idle (idle.append ⟨rfl, rfl, rfl⟩))
  | waiting token look =>
    cases before with
    | checkingOut idle => exact .checkingOut (idle.append ⟨rfl, rfl, rfl⟩)
  | crashed token look =>
    cases before with
    | checkingOut idle => exact .finished (.idle (idle.append ⟨rfl, rfl, rfl⟩))
  | refused token look =>
    cases before with
    | checkingOut idle => exact .finished (.idle (idle.append ⟨rfl, rfl, rfl⟩))
  | @begun creation id c _ _ seg inFlight w token look begins =>
    cases before with
    | checkingOut idle =>
      obtain ⟨used, owed⟩ := begins.trace
      have looked : (t ++ [Entry.token false]).Idle := idle.append ⟨rfl, rfl, rfl⟩
      have split : t ++ (.token false :: Trace.delivery c ++ seg) =
          t ++ [Entry.token false] ++ (Trace.delivery c ++ seg) := by simp
      have holding : (t ++ (.token false :: Trace.delivery c ++ seg)).Holding c :=
        split ▸ looked.holding ((Trace.holding_delivery c).append used)
      have outstanding : (t ++ (.token false :: Trace.delivery c ++ seg)).isOwed = inFlight := by
        rw [split, Trace.isOwed_append_of_subjects_eq_nil looked.subjects,
          Trace.isOwed_append_of_subjects_eq_nil rfl, owed]
      rw [Turn.trace_preceded, ← List.append_assoc]
      exact WorkState.accounts (fun _ _ waits => (waits ▸ begins).inFlight_of_waits) holding
        outstanding
  | @resumed creation creation' id trip c _ seg inFlight w awaits =>
    cases before with
    | awaitingReply holding owed =>
      obtain ⟨used, unsent, answered⟩ := awaits.trace
      have outstanding : (t ++ seg).isOwed = inFlight := by
        simp only [Trace.isOwed, Bool.and_eq_true, Bool.not_eq_eq_eq_not, Bool.not_true] at owed
        simp [Trace.isOwed, unsent, owed.1, owed.2, answered]
      rw [Turn.trace_preceded, ← List.append_assoc]
      exact WorkState.accounts (fun _ _ waits => (waits ▸ awaits).inFlight_of_waits)
        (holding.append used) outstanding

theorem Drops.accounts {i : Invocation κ} {turn : Turn σ κ} {t : Trace κ}
    (h : Drops pool s i turn) (before : i.Accounts t) : i.ended.Accounts (t ++ turn.trace) := by
  cases h with
  | unheld =>
    cases before with
    | checkingOut idle => exact .finished (.idle (idle.append ⟨rfl, rfl, rfl⟩))
  | held =>
    cases before with
    | awaitingReply holding owed => exact .finished (holding.balanced owed _ _)

theorem Executes.balanced {creation : Creation} {id : ObjectId} {turn : Turn σ κ}
    (h : Executes pool creation id s turn) : turn.trace.Balanced := by
  cases h with
  | crashed asked => exact .idle ⟨rfl, rfl, rfl⟩
  | refused asked => exact .idle ⟨rfl, rfl, rfl⟩
  | @worked c _ _ seg inFlight w asked works =>
    obtain ⟨used, owed⟩ := works.trace
    have outstanding : (Trace.delivery c ++ seg).isOwed = inFlight := by
      rw [Trace.isOwed_append_of_subjects_eq_nil rfl, owed]
    exact ((Trace.holding_delivery c).append used).balanced outstanding _ _

end Whole

/-- An invocation accounts for its connection along every run. -/
theorem Run.accounts (pool : Pool σ κ) (u : NewUser) (id : ObjectId) (s : σ)
    (moves : List (Move σ)) :
    ((start u id s).follow pool moves).invocation.Accounts
      ((start u id s).follow pool moves).trace := by
  refine follow_invariant (I := fun r => r.invocation.Accounts r.trace) ?_ (start_sound u id s)
    (.checkingOut ⟨rfl, rfl, rfl⟩)
  intro r m r' _ sound before step
  cases step with
  | rested | changed => exact before
  | polled live polls => exact polls.accounts before
  | dropped live drops => exact drops.accounts before

/-- By the calls that a pool has written down itself, every connection that it delivered was handed
back to it once, in the condition that was due. -/
theorem NewUser.accounts_called (pool : Pool σ κ) (u : NewUser) (id : ObjectId) (s : σ) :
    let turn := u.execute pool.recording id { pool := s }
    turn.pool.calls.checkIns =
      turn.pool.calls.delivered.map fun c => (c, turn.trace.dueState) := by
  intro turn
  have executes := u.execute_executes pool.recording id { pool := s }
  have written : turn.pool.calls = turn.trace.calls := executes.writes
  rw [written, Trace.checkIns_calls, Trace.delivered_calls]
  exact executes.balanced.checkIns

/-- The same of a run whose invocation is over; before that nothing was handed back. -/
theorem Run.accounts_called (pool : Pool σ κ) (u : NewUser) (id : ObjectId) (s : σ)
    (moves : List (Move σ)) :
    let r : Run (Recorded σ κ) κ :=
      (start u id { pool := s }).follow pool.recording (moves.map Move.recording)
    r.pool.calls.checkIns =
      if r.isOver then r.pool.calls.delivered.map fun c => (c, r.trace.dueState) else [] := by
  intro r
  have written : r.pool.calls = r.trace.calls := writes_follow pool u id s moves
  have accounts : r.invocation.Accounts r.trace := Run.accounts pool.recording u id _ _
  rw [written, Trace.checkIns_calls, Trace.delivered_calls]
  rcases r with ⟨i, p, progress, t⟩
  cases accounts with
  | finished balanced => exact balanced.checkIns
  | checkingOut idle => exact idle.checkIns
  | awaitingReply holding => exact holding.checkIns

/-- Every connection that is delivered is handed back exactly once, after its last use: abandoned if
a request was sent on it whose reply is owed, and clean otherwise. This holds of every blocking
invocation, and of every polled one however its run ends; before that nothing is handed back. -/
theorem connection_handed_back_once (pool : Pool σ κ) (u : NewUser) (id : ObjectId) (s : σ) :
    ((u.execute pool id s).trace.Balanced ∧
      (u.execute pool id s).trace.checkIns = (u.execute pool id s).trace.delivered.map fun c =>
        (c, (u.execute pool id s).trace.dueState)) ∧
    ∀ moves : List (Move σ),
      let r : Run σ κ := (Run.start u id s).follow pool moves
      if r.isOver then
        r.trace.Balanced ∧ r.trace.checkIns = r.trace.delivered.map fun c => (c, r.trace.dueState)
      else r.trace.checkIns = [] := by
  have executed := (u.execute_executes pool id s).balanced
  refine ⟨⟨executed, executed.checkIns⟩, ?_⟩
  intro moves r
  have accounts : r.invocation.Accounts r.trace := Run.accounts pool u id s moves
  split
  · rename_i ended
    rcases r with ⟨i, p, progress, t⟩
    cases accounts with
    | finished balanced => exact ⟨balanced, balanced.checkIns⟩
    | checkingOut | awaitingReply => cases ended
  · rename_i live
    rcases r with ⟨i, p, progress, t⟩
    cases accounts with
    | checkingOut idle => exact idle.checkIns
    | awaitingReply holding => exact holding.checkIns
    | finished => exact absurd rfl live

end UserProvision
