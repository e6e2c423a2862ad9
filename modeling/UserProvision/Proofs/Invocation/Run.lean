import UserProvision.Proofs.Invocation.Following

/-!
# Runs of polled invocations

A run is what becomes of a polled invocation under a sequence of moves: it is polled or dropped, and
between that its surroundings change in any way, which includes the cancellation of its token. An
invocation that is over is left alone. `Run.follow_invariant` reduces what holds along every run to
the rules for one move.
-/

namespace UserProvision

variable {σ κ : Type}

/-- What can happen to a polled invocation. -/
inductive Move (σ : Type) where
  | poll
  | drop
  | meanwhile (change : σ → σ)

/-- A polled invocation, the state of the pool, the progress it reported last, and its trace. -/
structure Run (σ κ : Type) where
  invocation : Invocation κ
  pool : σ
  progress : Progress := .pending
  trace : Trace κ := []

namespace Run

/-- A run before the first move. -/
def start (u : NewUser) (id : ObjectId) (s : σ) : Run σ κ :=
  { invocation := .start u id, pool := s }

def isOver (r : Run σ κ) : Bool := r.invocation.isOver

/-- A run after a turn that left an invocation. -/
def after (r : Run σ κ) (turn : Turn σ κ) (i : Invocation κ) : Run σ κ :=
  ⟨i, turn.pool, turn.progress, r.trace ++ turn.trace⟩

def move (pool : Pool σ κ) (r : Run σ κ) : Move σ → Run σ κ
  | .poll =>
    if r.isOver then r
    else
      let polled := r.invocation.poll pool r.pool
      r.after polled.1 polled.2
  | .drop =>
    if r.isOver then r
    else
      let dropped := r.invocation.drop pool r.pool
      r.after dropped.1 dropped.2
  | .meanwhile change => { r with pool := change r.pool }

/-- All moves in order. -/
def follow (pool : Pool σ κ) (r : Run σ κ) (moves : List (Move σ)) : Run σ κ :=
  moves.foldl (move pool) r

@[simp] theorem follow_nil (pool : Pool σ κ) (r : Run σ κ) : r.follow pool [] = r := rfl

@[simp] theorem follow_cons (pool : Pool σ κ) (r : Run σ κ) (m : Move σ) (moves : List (Move σ)) :
    r.follow pool (m :: moves) = (r.move pool m).follow pool moves := rfl

theorem follow_append (pool : Pool σ κ) (r : Run σ κ) (moves moves' : List (Move σ)) :
    r.follow pool (moves ++ moves') = (r.follow pool moves).follow pool moves' :=
  List.foldl_append

/-- A trace only grows. -/
theorem trace_move (pool : Pool σ κ) (r : Run σ κ) (m : Move σ) :
    r.trace <+: (r.move pool m).trace := by
  cases m with
  | meanwhile => exact List.prefix_rfl
  | poll | drop => cases ended : r.isOver <;> simp [move, ended, after]

theorem trace_follow (pool : Pool σ κ) (r : Run σ κ) (moves : List (Move σ)) :
    r.trace <+: (r.follow pool moves).trace := by
  induction moves generalizing r with
  | nil => exact List.prefix_rfl
  | cons m moves ih => exact (trace_move pool r m).trans (ih _)

end Run

/-! ## Dropping -/

/-- Dropping an invocation that is not over. -/
inductive Drops (pool : Pool σ κ) (s : σ) : Invocation κ → Turn σ κ → Prop where
  | unheld (creation : Creation) (id : ObjectId) :
      Drops pool s ⟨creation, id, .checkingOut, none⟩ ⟨.pending, [], s⟩
  | held (creation creation' : Creation) (id : ObjectId) (trip : RoundTrip) (c : κ) :
      Drops pool s ⟨creation, id, .awaitingReply creation' trip, some ⟨some c, true⟩⟩
        (Lease.abandon pool c true s)

theorem Drops.drop {pool : Pool σ κ} {s : σ} {i : Invocation κ} {turn : Turn σ κ}
    (h : Drops pool s i turn) : i.drop pool s = (turn, i.ended) := by
  cases h with
  | unheld => rfl
  | held creation creation' id trip c =>
    rcases back : pool.checkIn c (Lease.state ⟨some c, true⟩) s with ⟨answer, s'⟩
    have dropped := Act.drop_held back ([] : Trace κ)
    cases answer <;>
      simp [Invocation.drop, dropped, Lease.abandon, back, Act.complaints, Halt.progress]

theorem Invocation.drop_drops (pool : Pool σ κ) (s : σ) {i : Invocation κ} (sound : i.Sound)
    (live : i.isOver = false) : Drops pool s i (i.drop pool s).1 := by
  have found : ∃ turn, Drops pool s i turn := by
    cases sound with
    | finished => cases live
    | checkingOut creation id => exact ⟨_, .unheld creation id⟩
    | awaitingReply creation creation' id trip c => exact ⟨_, .held creation creation' id trip c⟩
  obtain ⟨turn, drops⟩ := found
  exact drops.drop ▸ drops

theorem Invocation.Sound.ended {i : Invocation κ} (_ : i.Sound) : i.ended.Sound := .finished ..

/-! ## Invariants -/

namespace Run

variable {pool : Pool σ κ}

/-- What can happen in one move. -/
inductive Steps (pool : Pool σ κ) (r : Run σ κ) : Move σ → Run σ κ → Prop where
  | rested {m : Move σ} (ended : r.isOver = true) (idle : m = .poll ∨ m = .drop) : Steps pool r m r
  | polled {turn : Turn σ κ} {i : Invocation κ} (live : r.isOver = false)
      (polls : Polls pool r.pool r.invocation turn i) : Steps pool r .poll (r.after turn i)
  | dropped {turn : Turn σ κ} (live : r.isOver = false)
      (drops : Drops pool r.pool r.invocation turn) :
      Steps pool r .drop (r.after turn r.invocation.ended)
  | changed (change : σ → σ) : Steps pool r (.meanwhile change) { r with pool := change r.pool }

theorem steps_move (pool : Pool σ κ) {r : Run σ κ} (sound : r.invocation.Sound) (m : Move σ) :
    Steps pool r m (r.move pool m) := by
  cases m with
  | meanwhile change => exact .changed change
  | poll =>
    cases ended : r.isOver with
    | true => simpa [move, ended] using Steps.rested ended (.inl rfl)
    | false =>
      simpa [move, ended] using Steps.polled ended (Invocation.poll_polls pool r.pool sound ended)
  | drop =>
    cases ended : r.isOver with
    | true => simpa [move, ended] using Steps.rested ended (.inr rfl)
    | false =>
      have drops := Invocation.drop_drops pool r.pool sound ended
      have left := congrArg Prod.snd drops.drop
      simpa [move, ended, left] using Steps.dropped ended drops

theorem Steps.sound {r r' : Run σ κ} {m : Move σ} (h : Steps pool r m r')
    (sound : r.invocation.Sound) : r'.invocation.Sound := by
  cases h with
  | rested | changed => exact sound
  | polled live polls => exact polls.sound
  | dropped live drops => exact sound.ended

/-- What every move of a run preserves holds at its end. -/
theorem follow_invariant {I : Run σ κ → Prop} {moves : List (Move σ)}
    (preserved : ∀ r m r', m ∈ moves → r.invocation.Sound → I r → Steps pool r m r' → I r')
    {r : Run σ κ} (sound : r.invocation.Sound) (holds : I r) : I (r.follow pool moves) := by
  induction moves generalizing r with
  | nil => exact holds
  | cons m moves ih =>
    have step := steps_move pool sound m
    exact ih (fun r m r' later => preserved r m r' (List.mem_cons_of_mem _ later))
      (step.sound sound) (preserved _ _ _ List.mem_cons_self sound holds step)

theorem start_sound (u : NewUser) (id : ObjectId) (s : σ) :
    (start u id s : Run σ κ).invocation.Sound := .checkingOut ..

end Run

end UserProvision
