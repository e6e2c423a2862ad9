import UserProvision.Proofs.Invocation.Lockstep

/-!
# Calls and traces

A trace tells of every call to the pool, in order and with its answer, and of no other. To say so, a
pool is made to write down how it is called. Invocations do on it what they do on the pool itself,
and at every point it has written down the calls that their traces tell of. What traces say of
requests and check-ins holds therefore of the calls themselves.

## Main definitions

* `Trace.calls` — the entries of a trace that tell of calls.
* `Pool.recording` — a pool that writes down how it is called.

## Main results

* `Trace.checkIns_calls`, `Trace.requests_calls`, `Trace.delivered_calls` — what calls decide.
* `NewUser.execute_recording` — the calls of an invocation that waits.
* `Run.follow_recording` — the calls of a run.
-/

namespace UserProvision

variable {σ κ α : Type}

/-! ## The calls of a trace -/

/-- Whether an entry tells of a call. A look at the token is none. -/
def Entry.isCall : Entry κ → Bool
  | .token _ | .event _ => false
  | _ => true

namespace Trace

/-- The entries that tell of calls. -/
def calls (t : Trace κ) : Trace κ := t.filter Entry.isCall

@[simp] theorem calls_append (t t' : Trace κ) : calls (t ++ t') = calls t ++ calls t' :=
  List.filter_append ..

theorem IsLog.calls_eq_nil {t : Trace κ} (h : t.IsLog) : t.calls = [] := by
  refine List.filter_eq_nil_iff.mpr fun e mem => ?_
  obtain ⟨event, rfl⟩ := h e mem
  exact Bool.false_ne_true

section Views

variable (t : Trace κ)

theorem checkIns_calls : t.calls.checkIns = t.checkIns :=
  t.filterMap_filter fun e silent => by cases e <;> first | rfl | cases silent

theorem requests_calls : t.calls.requests = t.requests :=
  t.filterMap_filter fun e silent => by cases e <;> first | rfl | cases silent

theorem delivered_calls : t.calls.delivered = t.delivered :=
  t.filterMap_filter fun e silent => by cases e <;> first | rfl | cases silent

end Views

end Trace

/-! ## A pool that writes down its calls -/

/-- The state of a pool, and what was written down about its calls. -/
structure Recorded (σ κ : Type) where
  pool : σ
  calls : Trace κ := []

namespace Recorded

/-- A call that is written down with its answer. -/
def call (f : σ → α × σ) (note : α → Trace κ) (w : Recorded σ κ) : α × Recorded σ κ :=
  ((f w.pool).1, ⟨(f w.pool).2, w.calls ++ note (f w.pool).1⟩)

/-- From one state to another, the calls of a trace were written down. -/
def Writes (w : Recorded σ κ) (t : Trace κ) (w' : Recorded σ κ) : Prop :=
  w'.calls = w.calls ++ t.calls

namespace Writes

variable {w w' w'' : Recorded σ κ} {t t' : Trace κ}

theorem append (h : w.Writes t w') (h' : w'.Writes t' w'') : w.Writes (t ++ t') w'' := by
  rw [Writes] at h h' ⊢
  rw [h', h, Trace.calls_append, List.append_assoc]

theorem silent (w : Recorded σ κ) (h : t.calls = []) : w.Writes t w := by
  rw [Writes, h, List.append_nil]

theorem closing (w : Recorded σ κ) (trip : RoundTrip) (verdict : Except Error Event) :
    w.Writes (trip.closing verdict) w :=
  .silent w (trip.isLog_closing verdict).calls_eq_nil

end Writes

end Recorded

namespace Pool

/-- The pool, with every call to it written down. -/
def recording (pool : Pool σ κ) : Pool (Recorded σ κ) κ where
  checkOut := Recorded.call pool.checkOut fun answer => [.checkOut (some answer)]
  pollCheckOut := Recorded.call pool.pollCheckOut fun answer => [.checkOut answer]
  describe c := Recorded.call (pool.describe c) fun answer => [.description c answer]
  exchange c r :=
    Recorded.call (pool.exchange c r) fun answer => [.request c r, .reply c (some answer)]
  send c r w := ⟨pool.send c r w.pool, w.calls ++ [.request c r]⟩
  pollReply c := Recorded.call (pool.pollReply c) fun answer => [.reply c answer]
  checkIn c state := Recorded.call (pool.checkIn c state) fun answer => [.checkIn c state answer]
  isCancelled w := pool.isCancelled w.pool

/-- Of every call, what it adds to a trace is written down. -/
theorem writes_perform {pool : Pool σ κ} (call : Call κ α) {w w' : Recorded σ κ} {answer : α}
    (called : pool.recording.perform call w = (answer, w')) :
    w.Writes (call.entries answer) w' := by
  cases call <;> cases called <;> rfl

theorem recording_mirrors (pool : Pool σ κ) :
    pool.recording.Mirrors pool (fun w s => w.pool = s) Eq where
  looks := by rintro r _ rfl; exact ⟨rfl, rfl, rfl⟩
  describe := by rintro c w _ rfl; exact ⟨rfl, rfl⟩
  checkIn := by rintro c state w _ rfl; exact ⟨rfl, rfl⟩

theorem recording_mirrorsCalls (pool : Pool σ κ) :
    pool.recording.MirrorsCalls pool (fun w s => w.pool = s) Eq where
  toMirrors := pool.recording_mirrors
  checkOut := by rintro w _ rfl; exact ⟨rfl, rfl⟩
  exchange := by rintro c r _ w _ rfl rfl; exact ⟨rfl, rfl⟩

theorem recording_mirrorsPolls (pool : Pool σ κ) :
    pool.recording.MirrorsPolls pool (fun w s => w.pool = s) Eq where
  toMirrors := pool.recording_mirrors
  pollCheckOut := by rintro w _ rfl; exact ⟨rfl, rfl⟩
  send := by rintro c r _ w _ rfl rfl; rfl
  pollReply := by rintro c w _ rfl; exact ⟨rfl, rfl⟩
  token := by rintro w _ rfl token; exact token

theorem recording_not_parts (pool : Pool σ κ) :
    ¬pool.recording.Parts pool fun w s => w.pool = s := by
  rintro ⟨w, _, rfl, cancelled, live⟩
  exact Bool.false_ne_true (live.symm.trans cancelled)

end Pool

/-! ## What one step writes down -/

section Steps

variable {pool : Pool σ κ} {creation : Creation} {id : ObjectId} {c : κ} {w w' : Recorded σ κ}
  {seg : Trace κ} {inFlight : Bool}

theorem Prepares.writes {r : Except Halt (Description × Request)}
    (h : Prepares pool.recording creation id c w seg w' r) : w.Writes seg w' := by
  cases h with
  | crashed asked | failed asked | unbuilt asked | built asked =>
    exact Pool.writes_perform (.describe c) asked

theorem Works.writes {e : WorkEnd} (h : Works pool.recording creation id c w seg inFlight w' e) :
    w.Writes seg w' := by
  cases h with
  | stopped prepared => exact prepared.writes
  | @crashed _ _ _ _ r _ prepared sent =>
    exact prepared.writes.append (Pool.writes_perform (.exchange c r) sent)
  | @answered _ s' _ d r answer _ prepared sent =>
    have exchanged : s'.Writes [.event (r.started d), .request c r, .reply c (some answer)] w' :=
      Pool.writes_perform (.exchange c r) sent
    exact (prepared.writes.append exchanged).append (.closing ..)

theorem Awaits.writes {trip : RoundTrip} {e : WorkState}
    (h : Awaits pool.recording creation c w trip seg inFlight w' e) : w.Writes seg w' := by
  cases h with
  | crashed look | cancelled look | waiting look =>
    exact Pool.writes_perform (.pollReply c) look
  | answered look =>
    have looked := Pool.writes_perform (.pollReply c) look
    exact looked.append (.closing ..)

theorem Begins.writes {e : WorkState}
    (h : Begins pool.recording creation id c w seg inFlight w' e) : w.Writes seg w' := by
  cases h with
  | stopped prepared => exact prepared.writes
  | cancelled prepared => exact prepared.writes.append (.silent _ rfl)
  | @sent _ _ s' _ d r _ _ prepared _ awaits =>
    have sent : s'.Writes [.token false, .event (r.started d), .request c r]
        (pool.recording.send c r s') := Pool.writes_perform (.send c r) rfl
    exact (prepared.writes.append sent).append awaits.writes

/-- Whoever hands a connection back makes one call. -/
theorem Act.calls_handedBack (c : κ) (state : CheckInState) (answer : Answer Unit)
    (complaint : Error → List Event) :
    Trace.calls (handedBack c state answer ++ complaints complaint answer) =
      [.checkIn c state answer] := by
  obtain ⟨rest, log, eq⟩ := handedBack_eq c state answer
  rw [Trace.calls_append, (isLog_complaints complaint answer).calls_eq_nil, List.append_nil, eq,
    ← List.singleton_append, Trace.calls_append, log.calls_eq_nil]
  rfl

theorem WorkEnd.writes (e : WorkEnd) :
    w.Writes (e.close pool.recording c inFlight w).trace
      (e.close pool.recording c inFlight w).pool := by
  rw [Recorded.Writes, close, Act.calls_handedBack]
  rfl

theorem Lease.abandon_writes :
    w.Writes (abandon pool.recording c inFlight w).trace
      (abandon pool.recording c inFlight w).pool := by
  rw [Recorded.Writes, abandon, Act.calls_handedBack]
  rfl

theorem WorkState.writes (e : WorkState) :
    w.Writes (e.turn pool.recording c inFlight w).trace
      (e.turn pool.recording c inFlight w).pool := by
  cases e with
  | waits => exact .silent w rfl
  | ended e => exact e.writes

theorem Executes.writes {turn : Turn (Recorded σ κ) κ}
    (h : Executes pool.recording creation id w turn) : w.Writes turn.trace turn.pool := by
  cases h with
  | crashed asked | refused asked => exact Pool.writes_perform .checkOut asked
  | worked asked works =>
    have delivered := Pool.writes_perform .checkOut asked
    exact (delivered.append works.writes).append (WorkEnd.writes _)

theorem Polls.writes {i i' : Invocation κ} {turn : Turn (Recorded σ κ) κ}
    (h : Polls pool.recording w i turn i') : w.Writes turn.trace turn.pool := by
  cases h with
  | cancelled => exact .silent w rfl
  | waiting _ look | crashed _ look | refused _ look =>
    exact Pool.writes_perform .pollCheckOut look
  | begun _ look begins =>
    have delivered := Pool.writes_perform .pollCheckOut look
    exact (delivered.append begins.writes).append (WorkState.writes _)
  | resumed awaits => exact awaits.writes.append (WorkState.writes _)

theorem Drops.writes {i : Invocation κ} {turn : Turn (Recorded σ κ) κ}
    (h : Drops pool.recording w i turn) : w.Writes turn.trace turn.pool := by
  cases h with
  | unheld => exact .silent w rfl
  | held => exact Lease.abandon_writes

end Steps

/-! ## Invocations -/

/-- An invocation that waits for every call makes the calls that its trace tells of, and does the
same whether or not they are written down. -/
theorem NewUser.execute_recording (pool : Pool σ κ) (u : NewUser) (id : ObjectId) (s : σ) :
    let turn := u.execute pool id s
    u.execute pool.recording id { pool := s } =
      ⟨turn.progress, turn.trace, ⟨turn.pool, turn.trace.calls⟩⟩ := by
  intro turn
  have executes := u.execute_executes pool.recording id { pool := s }
  have written := executes.writes
  obtain ⟨turn', executes', same⟩ :=
    executes.mirrored pool.recording_mirrorsCalls (.refl (fun _ => rfl) _ id) rfl
  obtain rfl : turn = turn' := executes'.execute
  generalize u.execute pool.recording id { pool := s } = recorded at written same
  obtain ⟨progress, trace, state, calls⟩ := recorded
  have ended : progress = turn.progress := same.progress
  have traced : trace = turn.trace := same.trace.eq
  have left : state = turn.pool := same.pool
  have noted : calls = trace.calls := written
  rw [ended, noted, traced, left]

/-- A move, while calls are written down. -/
def Move.recording : Move σ → Move (Recorded σ κ)
  | .poll => .poll
  | .drop => .drop
  | .meanwhile change => .meanwhile fun w => { w with pool := change w.pool }

theorem Move.recording_agrees (m : Move σ) :
    m.recording.Agrees (fun (w : Recorded σ κ) s => w.pool = s) m := by
  cases m with
  | poll => exact .poll
  | drop => exact .drop
  | meanwhile change => exact .meanwhile fun _ _ same => congrArg change same

namespace Run

/-- At every point of a run on a recording pool, the calls of its trace have been written down. -/
theorem writes_follow (pool : Pool σ κ) (u : NewUser) (id : ObjectId) (s : σ)
    (moves : List (Move σ)) :
    let r : Run (Recorded σ κ) κ :=
      (start u id { pool := s }).follow pool.recording (moves.map Move.recording)
    r.pool.calls = r.trace.calls := by
  let first : Recorded σ κ := { pool := s }
  refine follow_invariant (I := fun r : Run (Recorded σ κ) κ => first.Writes r.trace r.pool) ?_
    (start_sound ..) (.silent first rfl)
  intro r m r' mem _ before step
  cases step with
  | rested => exact before
  | polled _ polls => exact before.append polls.writes
  | dropped _ drops => exact before.append drops.writes
  | changed change =>
    obtain ⟨m', -, eq⟩ := List.mem_map.mp mem
    cases m' <;> cases eq
    exact before

/-- A polled invocation has at every point made the calls that its trace tells of, and does the same
whether or not they are written down. -/
theorem follow_recording (pool : Pool σ κ) (u : NewUser) (id : ObjectId) (s : σ)
    (moves : List (Move σ)) :
    let r : Run σ κ := (start u id s).follow pool moves
    let r' : Run (Recorded σ κ) κ :=
      (start u id { pool := s }).follow pool.recording (moves.map Move.recording)
    r'.progress = r.progress ∧ r'.trace = r.trace ∧ r'.isOver = r.isOver ∧
      r'.pool = ⟨r.pool, r.trace.calls⟩ := by
  intro r r'
  have written : r'.pool.calls = r'.trace.calls := writes_follow pool u id s moves
  have together : (start u id { pool := s } : Run (Recorded σ κ) κ).Agrees
      (fun w s => w.pool = s) Eq (start u id s) :=
    ⟨.checkingOut (.refl (fun _ => rfl) _ id), rfl, rfl, .nil⟩
  have same : List.Forall₂ (Move.Agrees fun (w : Recorded σ κ) s => w.pool = s)
      (moves.map Move.recording) moves := by
    rw [List.forall₂_map_left_iff]
    exact List.forall₂_same.mpr fun m _ => m.recording_agrees
  rcases together.follow pool.recording_mirrorsPolls same with together | ⟨-, parts⟩
  · have trace : r'.trace = r.trace := together.trace.eq
    refine ⟨together.progress, trace, together.invocation.isOver, ?_⟩
    rw [← trace, ← written, ← together.pool]
  · exact absurd parts pool.recording_not_parts

end Run

end UserProvision
