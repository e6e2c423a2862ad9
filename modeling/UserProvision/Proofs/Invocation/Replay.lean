import UserProvision.Proofs.Invocation.Run
import UserProvision.Proofs.Pool.Trace

/-!
# Replaying answers

What an invocation does depends on its user and identifier, on when it is polled or dropped, and on
the answers to its calls, but on nothing else. So every run is the same as the run alone on
`Pool.replay`, a pool that gives the recorded answers one after the other.

## Main definitions

* `Trace.answers` — the answers that an invocation got.
* `Pool.replay` — the pool that gives recorded answers.
* `Run.SameAs` — runs that differ at most in what is behind their pools.

## Main results

* `Run.follow_replay` — a run alone with the same answers.
* `Run.follow_congr` — runs with the same answers are the same.
-/

namespace UserProvision

variable {σ κ : Type}

/-! ## Answers -/

/-- Whether an entry tells the answer to a call. -/
def Entry.isAnswer : Entry κ → Bool
  | .request .. | .event _ => false
  | _ => true

/-- Whether an entry tells of a look at the token. -/
def Entry.isLook : Entry κ → Bool
  | .token _ => true
  | _ => false

attribute [simp] Entry.isAnswer Entry.isLook

namespace Trace

/-- The answers to the calls of an invocation, in order. -/
def answers (t : Trace κ) : Trace κ := t.filter Entry.isAnswer

@[simp] theorem answers_nil : answers ([] : Trace κ) = [] := rfl

@[simp] theorem answers_append (t t' : Trace κ) : answers (t ++ t') = answers t ++ answers t' := by
  simp [answers]

@[simp] theorem answers_cons (e : Entry κ) (t : Trace κ) :
    answers (e :: t) = if e.isAnswer then e :: answers t else answers t := by
  simp [answers, List.filter_cons]

theorem IsLog.answers_eq_nil {t : Trace κ} (h : t.IsLog) : t.answers = [] := by
  refine List.filter_eq_nil_iff.mpr fun e mem => ?_
  obtain ⟨event, rfl⟩ := h e mem
  simp

/-- Nothing but looks at the token. -/
def IsLooks (t : Trace κ) : Prop := ∀ e ∈ t, e.isLook = true

theorem isLooks_nil : IsLooks ([] : Trace κ) := List.forall_mem_nil _

theorem isLooks_token (b : Bool) : IsLooks [(.token b : Entry κ)] := by simp [IsLooks]

/-- The next answer that is no look at the token, and what comes after it. -/
def next (t : Trace κ) : Option (Entry κ) × Trace κ :=
  match t.dropWhile Entry.isLook with
  | [] => (none, [])
  | e :: rest => (some e, rest)

theorem IsLooks.next_append {lead : Trace κ} (h : lead.IsLooks) {e : Entry κ}
    (call : e.isLook = false) (rest : Trace κ) : next (lead ++ e :: rest) = (some e, rest) := by
  rw [next, List.dropWhile_append_of_pos h, List.dropWhile_cons_of_neg (Bool.eq_false_iff.mp call)]

end Trace

/-! ## The pool that gives them -/

/-- A pool that gives the recorded answers in order. A look at the token takes nothing away; the
next call skips the looks before its answer. -/
def Pool.replay : Pool (Trace κ) κ where
  checkOut s :=
    match s.next with
    | (some (.checkOut (some answer)), rest) => (answer, rest)
    | (_, rest) => (.crashes "no answer", rest)
  pollCheckOut s :=
    match s.next with
    | (some (.checkOut answer), rest) => (answer, rest)
    | (_, rest) => (none, rest)
  describe _ s :=
    match s.next with
    | (some (.description _ answer), rest) => (answer, rest)
    | (_, rest) => (.crashes "no answer", rest)
  exchange _ _ s :=
    match s.next with
    | (some (.reply _ (some answer)), rest) => (answer, rest)
    | (_, rest) => (.crashes "no answer", rest)
  send _ _ s := s
  pollReply _ s :=
    match s.next with
    | (some (.reply _ answer), rest) => (answer, rest)
    | (_, rest) => (none, rest)
  checkIn _ _ s :=
    match s.next with
    | (some (.checkIn _ _ answer), rest) => (answer, rest)
    | (_, rest) => (.crashes "no answer", rest)
  isCancelled
    | .token b :: _ => b
    | _ => false

namespace Pool

variable {lead : Trace κ} (h : lead.IsLooks) (c c' : κ) (rest : Trace κ)

include h

theorem replay_describe (answer : Answer Description) :
    replay.describe c (lead ++ .description c' answer :: rest) = (answer, rest) := by
  simp only [replay, h.next_append (e := .description c' answer) rfl]

theorem replay_pollReply (answer : Option (Answer RawDocument)) :
    replay.pollReply c (lead ++ .reply c' answer :: rest) = (answer, rest) := by
  simp only [replay, h.next_append (e := .reply c' answer) rfl]

theorem replay_checkIn (state state' : CheckInState) (answer : Answer Unit) :
    replay.checkIn c state (lead ++ .checkIn c' state' answer :: rest) = (answer, rest) := by
  simp only [replay, h.next_append (e := .checkIn c' state' answer) rfl]

end Pool

/-! ## The parts of an invocation -/

section Parts

variable {pool : Pool σ κ} {creation : Creation} {id : ObjectId} {c : κ} {s s' : σ}
  {seg lead : Trace κ} {inFlight : Bool}

theorem Prepares.replay {r : Except Halt (Description × Request)}
    (h : Prepares pool creation id c s seg s' r) (rest : Trace κ) :
    Prepares .replay creation id c (seg.answers ++ rest) seg rest r := by
  have described := Pool.replay_describe Trace.isLooks_nil c c rest
  cases h with
  | crashed => exact .crashed (described _)
  | failed => exact .failed (described _)
  | unbuilt asked request => exact .unbuilt (described _) request
  | built asked request => exact .built (described _) request

theorem Awaits.replay {trip : RoundTrip} {w : WorkState}
    (h : Awaits pool creation c s trip seg inFlight s' w) (looks : lead.IsLooks)
    (rest : Trace κ) :
    ∃ left : Trace κ, left.IsLooks ∧
      Awaits .replay creation c (lead ++ seg.answers ++ rest) trip seg inFlight (left ++ rest)
        w := by
  cases h with
  | crashed =>
    refine ⟨[], Trace.isLooks_nil, .crashed ?_⟩
    simpa using Pool.replay_pollReply looks c c rest _
  | @answered answer outcome _ look ready =>
    have log := RoundTrip.isLog_closing (κ := κ) trip (creation.verdict outcome)
    refine ⟨[], Trace.isLooks_nil, .answered ?_ ready⟩
    simpa [log.answers_eq_nil] using Pool.replay_pollReply looks c c rest _
  | cancelled =>
    refine ⟨[.token true], Trace.isLooks_token true, .cancelled ?_ rfl⟩
    simpa using Pool.replay_pollReply looks c c (.token true :: rest) _
  | waiting =>
    refine ⟨[.token false], Trace.isLooks_token false, .waiting ?_ rfl⟩
    simpa using Pool.replay_pollReply looks c c (.token false :: rest) _

theorem Begins.replay {w : WorkState} (h : Begins pool creation id c s seg inFlight s' w)
    (rest : Trace κ) :
    ∃ left : Trace κ, left.IsLooks ∧
      Begins .replay creation id c (seg.answers ++ rest) seg inFlight (left ++ rest) w := by
  cases h with
  | stopped prepared => exact ⟨[], Trace.isLooks_nil, .stopped (prepared.replay rest)⟩
  | cancelled prepared =>
    have replayed := prepared.replay (.token true :: rest)
    refine ⟨[.token true], Trace.isLooks_token true, ?_⟩
    simpa using Begins.cancelled replayed rfl
  | @sent seg after _ _ d r _ _ prepared token awaits =>
    have replayed := prepared.replay (.token false :: (after.answers ++ rest))
    obtain ⟨left, looks, awaits⟩ := awaits.replay (Trace.isLooks_token false) rest
    refine ⟨left, looks, ?_⟩
    simpa using Begins.sent replayed rfl awaits

/-- What handing back adds answers with: that of the check-in. -/
theorem Act.answers_handedBack (c : κ) (state : CheckInState) (answer : Answer Unit)
    (complaint : Error → List Event) :
    (handedBack c state answer ++ complaints complaint answer).answers =
      [.checkIn c state answer] := by
  obtain ⟨rest, log, eq⟩ := handedBack_eq c state answer
  rw [eq, Trace.answers_append, Trace.answers_cons, log.answers_eq_nil,
    (isLog_complaints complaint answer).answers_eq_nil]
  rfl

theorem WorkEnd.close_replay (w : WorkEnd) (pool : Pool σ κ) (looks : lead.IsLooks)
    (rest : Trace κ) :
    w.close .replay c inFlight (lead ++ (w.close pool c inFlight s).trace.answers ++ rest) =
      ⟨(w.close pool c inFlight s).progress, (w.close pool c inFlight s).trace, rest⟩ := by
  unfold close
  dsimp only
  rw [Act.answers_handedBack, List.append_assoc, List.singleton_append,
    Pool.replay_checkIn looks]

theorem Lease.abandon_replay (pool : Pool σ κ) (looks : lead.IsLooks) (rest : Trace κ) :
    Lease.abandon .replay c inFlight
        (lead ++ (Lease.abandon pool c inFlight s).trace.answers ++ rest) =
      ⟨(Lease.abandon pool c inFlight s).progress, (Lease.abandon pool c inFlight s).trace,
        rest⟩ := by
  unfold abandon
  dsimp only
  rw [Act.answers_handedBack, List.append_assoc, List.singleton_append,
    Pool.replay_checkIn looks]

theorem WorkState.stage_invocation (w : WorkState) {i : Invocation κ} :
    (w.invocation i c inFlight).stage = .checkingOut → lead = [] := by
  cases w <;> nofun

theorem WorkState.turn_replay (w : WorkState) (pool : Pool σ κ) (c : κ) (inFlight : Bool) (s : σ)
    (looks : lead.IsLooks) (rest : Trace κ) :
    ∃ left : Trace κ, left.IsLooks ∧
      w.turn .replay c inFlight (lead ++ ((w.turn pool c inFlight s).trace.answers ++ rest)) =
        ⟨(w.turn pool c inFlight s).progress, (w.turn pool c inFlight s).trace, left ++ rest⟩ := by
  rw [← List.append_assoc]
  cases w with
  | waits => exact ⟨lead, looks, by simp [turn]⟩
  | ended w => exact ⟨[], Trace.isLooks_nil, w.close_replay pool looks rest⟩

end Parts

/-! ## Whole invocations -/

/-- Looks at the token that can be left over where an invocation is suspended. While the connection
is awaited there are none, because the next poll looks at the token first. -/
structure Invocation.Skips (i : Invocation κ) (lead : Trace κ) : Prop where
  looks : lead.IsLooks
  none : i.stage = .checkingOut → lead = []

section Whole

variable {pool : Pool σ κ} {s : σ} {i i' : Invocation κ} {turn : Turn σ κ} {lead : Trace κ}

theorem Polls.replay (h : Polls pool s i turn i') (skips : i.Skips lead) (rest : Trace κ) :
    ∃ left : Trace κ, i'.Skips left ∧
      Polls .replay (lead ++ turn.trace.answers ++ rest) i
        ⟨turn.progress, turn.trace, left ++ rest⟩ i' := by
  cases h with
  | cancelled =>
    obtain rfl := skips.none rfl
    exact ⟨[.token true], ⟨Trace.isLooks_token true, nofun⟩, .cancelled rfl⟩
  | waiting =>
    obtain rfl := skips.none rfl
    exact ⟨[], ⟨Trace.isLooks_nil, fun _ => rfl⟩, .waiting rfl rfl⟩
  | crashed =>
    obtain rfl := skips.none rfl
    exact ⟨[], ⟨Trace.isLooks_nil, nofun⟩, .crashed rfl rfl⟩
  | refused =>
    obtain rfl := skips.none rfl
    exact ⟨[], ⟨Trace.isLooks_nil, nofun⟩, .refused rfl rfl⟩
  | @begun creation id c _ s'' seg inFlight w token look begins =>
    obtain rfl := skips.none rfl
    obtain ⟨between, looks, begins⟩ :=
      begins.replay ((w.turn pool c inFlight s'').trace.answers ++ rest)
    obtain ⟨left, looks, turned⟩ := w.turn_replay pool c inFlight s'' looks rest
    have polls := Polls.begun (s := .token false :: .checkOut (some (.gives c)) ::
      (seg.answers ++ ((w.turn pool c inFlight s'').trace.answers ++ rest))) rfl rfl begins
    rw [turned] at polls
    exact ⟨left, ⟨looks, w.stage_invocation⟩, by simpa [Trace.delivery, Turn.preceded] using polls⟩
  | @resumed creation creation' id trip c s' seg inFlight w awaits =>
    obtain ⟨between, looks, awaits⟩ :=
      awaits.replay skips.looks ((w.turn pool c inFlight s').trace.answers ++ rest)
    obtain ⟨left, looks, turned⟩ := w.turn_replay pool c inFlight s' looks rest
    refine ⟨left, ⟨looks, w.stage_invocation⟩, ?_⟩
    have polls : Polls .replay _ ⟨creation, id, .awaitingReply creation' trip, some ⟨some c, true⟩⟩
      _ _ := .resumed awaits
    rw [turned] at polls
    simpa [Turn.preceded] using polls

theorem Drops.replay (h : Drops pool s i turn) (skips : i.Skips lead) (rest : Trace κ) :
    ∃ left : Trace κ, left.IsLooks ∧
      Drops .replay (lead ++ turn.trace.answers ++ rest) i
        ⟨turn.progress, turn.trace, left ++ rest⟩ := by
  cases h with
  | unheld creation id => exact ⟨lead, skips.looks, by simpa using Drops.unheld creation id⟩
  | held creation creation' id trip c =>
    refine ⟨[], Trace.isLooks_nil, ?_⟩
    rw [List.nil_append, ← Lease.abandon_replay pool skips.looks rest]
    exact .held creation creation' id trip c

end Whole

/-! ## Runs -/

/-- What is done with an invocation by whoever owns it. -/
inductive Touch where
  | poll
  | drop
  deriving DecidableEq, Repr

/-- What a move does with the invocation itself. -/
def Move.touch? : Move σ → Option Touch
  | .poll => some .poll
  | .drop => some .drop
  | .meanwhile _ => none

/-- The same, on any pool. -/
def Touch.move : Touch → Move σ
  | .poll => .poll
  | .drop => .drop

namespace Run

variable {pool : Pool σ κ}

/-- A run on the pool that gives recorded answers, with those that are left. -/
def replaying (r : Run σ κ) (left : Trace κ) : Run (Trace κ) κ :=
  ⟨r.invocation, left, r.progress, r.trace⟩

theorem move_of_isOver {r : Run σ κ} (ended : r.isOver = true) (touch : Touch) :
    r.move pool touch.move = r := by
  cases touch <;> simp [Touch.move, move, ended]

theorem move_of_polls {r : Run σ κ} {turn : Turn σ κ} {i : Invocation κ} (live : r.isOver = false)
    (polls : Polls pool r.pool r.invocation turn i) : r.move pool .poll = r.after turn i := by
  simp [move, live, polls.poll]

theorem move_of_drops {r : Run σ κ} {turn : Turn σ κ} (live : r.isOver = false)
    (drops : Drops pool r.pool r.invocation turn) :
    r.move pool .drop = r.after turn r.invocation.ended := by
  simp [move, live, drops.drop]

/-- What is done with the invocation itself. -/
def touches (moves : List (Move σ)) : List Touch := moves.filterMap Move.touch?

theorem touches_cons (m : Move σ) (moves : List (Move σ)) :
    touches (m :: moves) = touches [m] ++ touches moves := by
  cases m <;> rfl

/-- Runs are the same but for what is behind their pools. -/
structure SameAs {τ : Type} (r : Run σ κ) (r' : Run τ κ) : Prop where
  invocation : r.invocation = r'.invocation
  progress : r.progress = r'.progress
  trace : r.trace = r'.trace

/-- One move of a run, replayed alone. -/
theorem Steps.replay {r r' : Run σ κ} {m : Move σ} (h : Steps pool r m r') {added : Trace κ}
    (adds : r'.trace = r.trace ++ added) {lead : Trace κ} (skips : r.invocation.Skips lead)
    (rest : Trace κ) :
    ∃ left, r'.invocation.Skips left ∧
      (r.replaying (lead ++ added.answers ++ rest)).follow .replay
        ((touches [m]).map Touch.move) = r'.replaying (left ++ rest) := by
  cases h with
  | rested ended idle =>
    obtain rfl := List.self_eq_append_right.mp adds
    rw [Trace.answers_nil, List.append_nil]
    refine ⟨lead, skips, ?_⟩
    rcases idle with rfl | rfl
    · exact move_of_isOver (r := r.replaying (lead ++ rest)) ended .poll
    · exact move_of_isOver (r := r.replaying (lead ++ rest)) ended .drop
  | changed change =>
    obtain rfl := List.self_eq_append_right.mp adds
    rw [Trace.answers_nil, List.append_nil]
    exact ⟨lead, skips, rfl⟩
  | @polled turn i live polls =>
    obtain rfl := List.append_cancel_left adds
    obtain ⟨left, skips, replayed⟩ := polls.replay skips rest
    exact ⟨left, skips, move_of_polls (r := r.replaying _) live replayed⟩
  | @dropped turn live drops =>
    obtain rfl := List.append_cancel_left adds
    obtain ⟨left, looks, replayed⟩ := drops.replay skips rest
    exact ⟨left, ⟨looks, nofun⟩, move_of_drops (r := r.replaying _) live replayed⟩

/-- A run from anywhere, replayed alone. -/
theorem follow_replaying (pool : Pool σ κ) (moves : List (Move σ)) {r : Run σ κ}
    (sound : r.invocation.Sound) {added : Trace κ}
    (adds : (r.follow pool moves).trace = r.trace ++ added) {lead : Trace κ}
    (skips : r.invocation.Skips lead) (rest : Trace κ) :
    ∃ left, (r.replaying (lead ++ added.answers ++ rest)).follow .replay
      ((touches moves).map Touch.move) = (r.follow pool moves).replaying (left ++ rest) := by
  -- What was added is split at the first move; looks that this move left over lead the others.
  induction moves generalizing r added lead with
  | nil =>
    obtain rfl := List.self_eq_append_right.mp adds
    exact ⟨lead, by simp [touches]⟩
  | cons m moves ih =>
    have step := steps_move pool sound m
    obtain ⟨first, adds₁⟩ := trace_move pool r m
    obtain ⟨others, adds₂⟩ := trace_follow pool (r.move pool m) moves
    obtain rfl : first ++ others = added := by
      rw [follow_cons, ← adds₂, ← adds₁, List.append_assoc] at adds
      exact List.append_cancel_left adds
    obtain ⟨between, skips, moved⟩ := step.replay adds₁.symm skips (Trace.answers others ++ rest)
    obtain ⟨left, followed⟩ := ih (step.sound sound) adds₂.symm skips
    refine ⟨left, ?_⟩
    rw [touches_cons, List.map_append, follow_append, Trace.answers_append,
      ← List.append_assoc lead, List.append_assoc _ (Trace.answers others), moved,
      ← List.append_assoc, followed, follow_cons]

/-- What an invocation does is the same alone, with no more than the answers that it got. -/
theorem follow_replay (pool : Pool σ κ) (u : NewUser) (id : ObjectId) (s : σ)
    (moves : List (Move σ)) :
    let r : Run σ κ := (start u id s).follow pool moves
    ∃ left, (start u id r.trace.answers).follow .replay ((touches moves).map Touch.move) =
      r.replaying left := by
  intro r
  have skips : Invocation.Skips (.start u id : Invocation κ) [] :=
    ⟨Trace.isLooks_nil, fun _ => rfl⟩
  obtain ⟨left, replayed⟩ := follow_replaying pool moves (start_sound u id s)
    (List.nil_append r.trace).symm skips []
  rw [List.append_nil, List.append_nil] at replayed
  exact ⟨left, replayed⟩

/-- Runs that are touched alike and get the same answers are the same, whatever their pools. -/
theorem follow_congr {τ : Type} (pool : Pool σ κ) (pool' : Pool τ κ) (u : NewUser) (id : ObjectId)
    (s : σ) (s' : τ) {moves : List (Move σ)} {moves' : List (Move τ)}
    (touched : touches moves = touches moves')
    (answered : ((start u id s).follow pool moves).trace.answers =
      ((start u id s').follow pool' moves').trace.answers) :
    ((start u id s).follow pool moves).SameAs ((start u id s').follow pool' moves') := by
  obtain ⟨left, replayed⟩ := follow_replay pool u id s moves
  obtain ⟨left', replayed'⟩ := follow_replay pool' u id s' moves'
  rw [touched, answered, replayed'] at replayed
  exact ⟨(congrArg Run.invocation replayed).symm, (congrArg Run.progress replayed).symm,
    (congrArg Run.trace replayed).symm⟩

end Run

end UserProvision
