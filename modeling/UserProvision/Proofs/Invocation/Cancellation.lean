import UserProvision.Proofs.Pool.Script

/-!
# Cancelling an invocation

The token of an invocation can be cancelled at any time: between polls, or during a call to the
pool. To say what follows, a pool is joined with a token that nothing in it depends on. The state of
the two remembers as well whether a request was sent too late, which no invocation sees.

## Main definitions

* `Pool.watched` — a pool with a token.
* `HeedsToken` — what a poll has to do about its token.
* `Trace.Cancelled` — the progress of an invocation that noticed its cancellation.
-/

namespace UserProvision

variable {σ κ α : Type}

/-! ## Tokens -/

/-- The state of a pool and that of a token. -/
structure Watched (σ : Type) where
  pool : σ
  isCancelled : Bool := false
  /-- Whether a request was sent although the token was cancelled. -/
  sentLate : Bool := false

namespace Watched

/-- The pool went on to a new state, which may have been the moment to cancel the token. -/
def goOn (cancels : σ → Bool) (w : Watched σ) (s : σ) : Watched σ :=
  { w with pool := s, isCancelled := w.isCancelled || cancels s }

/-- A call to the pool. -/
def call (cancels : σ → Bool) (f : σ → α × σ) (w : Watched σ) : α × Watched σ :=
  ((f w.pool).1, w.goOn cancels (f w.pool).2)

end Watched

namespace Pool

/-- The pool with a token, which is cancelled when a call leaves a state that says so. In a pool that
counts its calls this can be any one of them. -/
def watched (pool : Pool σ κ) (cancels : σ → Bool) : Pool (Watched σ) κ where
  checkOut := Watched.call cancels pool.checkOut
  pollCheckOut := Watched.call cancels pool.pollCheckOut
  describe c := Watched.call cancels (pool.describe c)
  exchange c r := Watched.call cancels (pool.exchange c r)
  send c r w :=
    { w.goOn cancels (pool.send c r w.pool) with sentLate := w.sentLate || w.isCancelled }
  pollReply c := Watched.call cancels (pool.pollReply c)
  checkIn c state := Watched.call cancels (pool.checkIn c state)
  isCancelled := Watched.isCancelled

/-- The pool with a token that is never cancelled. -/
def uncancelled (pool : Pool σ κ) : Pool σ κ := { pool with isCancelled := fun _ => false }

end Pool

/-- What can happen to an invocation and its token. -/
inductive Happening (σ : Type) where
  | move (m : Move σ)
  | cancel

namespace Happening

/-- What happens to a pool with its token. -/
def watched : Happening σ → Move (Watched σ)
  | .move .poll => .poll
  | .move .drop => .drop
  | .move (.meanwhile change) => .meanwhile fun w => { w with pool := change w.pool }
  | .cancel => .meanwhile fun w => { w with isCancelled := true }

/-- The same without the cancellation. -/
def uncancelled : Happening σ → Move σ
  | .move m => m
  | .cancel => .meanwhile id

end Happening

/-! ## What is claimed -/

/-- The progress of an invocation that noticed its cancellation: it returns the error for that,
with the failure of the check-in attached if there was one, or crashes with the check-in. -/
inductive Trace.Cancelled (t : Trace κ) : Progress → Prop where
  | alone : Cancelled t (.returned (.error .cancelled))
  | attached {c : κ} {state : CheckInState} {e : Error} (back : .checkIn c state (.fails e) ∈ t) :
      Cancelled t (.returned (.error (Error.cancelled.attach e)))
  | crashed {c : κ} {state : CheckInState} {message : String}
      (back : .checkIn c state (.crashes message) ∈ t) : Cancelled t (.crashed message)

/-- What the next turn of a run has to do about the token. A cancelled invocation that awaits its
connection ends at once. A reply, or an error in place of one, is read whenever it is there, and the
connection goes back clean. While there is none, a cancelled invocation gives the connection up. -/
structure HeedsToken (u : NewUser) (r : Run (Watched σ) κ) (turn : Turn (Watched σ) κ) :
    Prop where
  checkingOut : r.invocation.stage = .checkingOut → r.pool.isCancelled = true →
    turn = ⟨.returned (.error .cancelled), [.token true,
      .event (.operationCancelled Creation.operationName "connection check-out")], r.pool⟩
  replied : ∀ c answer outcome, .reply c (some answer) ∈ turn.trace →
    answer.outcome? = some outcome →
    ∃ d back, .description c (.gives d) ∈ r.trace ++ turn.trace ∧
      .checkIn c .clean back ∈ turn.trace ∧
      turn.progress =
        (WorkEnd.ofVerdict (Creation.verdict ⟨u, some (.forServer d)⟩ outcome)).progress back
  unreplied : ∀ c, .reply c none ∈ turn.trace →
    if turn.pool.isCancelled then
      ∃ back, .checkIn c .abandoned back ∈ turn.trace ∧
        turn.progress = (WorkEnd.halted (.failed .cancelled)).progress back
    else turn.progress = .pending

/-! ## What a poll does about its token -/

section Tokens

variable {pool : Pool σ κ} {creation : Creation} {id : ObjectId} {c : κ} {s s' : σ}
  {seg : Trace κ} {inFlight : Bool}

theorem Prepares.token_notMem {r : Except Halt (Description × Request)}
    (h : Prepares pool creation id c s seg s' r) (b : Bool) : Entry.token b ∉ seg := by
  cases h <;> simp

theorem Awaits.ended_of_token {trip : RoundTrip} {w : WorkState}
    (h : Awaits pool creation c s trip seg inFlight s' w) (noticed : Entry.token true ∈ seg) :
    w = .ended (.halted (.failed .cancelled)) := by
  cases h with
  | cancelled => rfl
  | crashed | waiting => simp at noticed
  | answered => simp [(RoundTrip.isLog_closing _ _).token_notMem] at noticed

theorem Begins.ended_of_token {w : WorkState}
    (h : Begins pool creation id c s seg inFlight s' w) (noticed : Entry.token true ∈ seg) :
    w = .ended (.halted (.failed .cancelled)) := by
  cases h with
  | stopped prepared => exact absurd noticed (prepared.token_notMem true)
  | cancelled => rfl
  | sent prepared token awaits =>
    refine awaits.ended_of_token ?_
    simpa [prepared.token_notMem true] using noticed

theorem Trace.Cancelled.append {t : Trace κ} {progress : Progress} (h : t.Cancelled progress)
    (before : Trace κ) : (before ++ t).Cancelled progress := by
  cases h with
  | alone => exact .alone
  | attached back => exact .attached (List.mem_append_right _ back)
  | crashed back => exact .crashed (List.mem_append_right _ back)

theorem Trace.Cancelled.of_back {t : Trace κ} {state : CheckInState} {back : Answer Unit}
    (returned : .checkIn c state back ∈ t) :
    t.Cancelled ((WorkEnd.halted (.failed .cancelled)).progress back) := by
  cases back with
  | gives => exact .alone
  | fails e => exact .attached returned
  | crashes message => exact .crashed returned

/-- The last turn hands the connection back, and its progress depends on how that went. -/
theorem WorkEnd.exists_back (w : WorkEnd) (pool : Pool σ κ) (c : κ) (inFlight : Bool) (s : σ) :
    ∃ back, .checkIn c (Lease.state ⟨some c, inFlight⟩) back ∈ (w.close pool c inFlight s).trace ∧
      (w.close pool c inFlight s).progress = w.progress back :=
  ⟨_, List.mem_append_left _ List.mem_cons_self, rfl⟩

theorem WorkState.token_notMem_turn (w : WorkState) (pool : Pool σ κ) (c : κ) (inFlight : Bool)
    (s : σ) (b : Bool) : Entry.token b ∉ (w.turn pool c inFlight s).trace :=
  fun mem => Bool.false_ne_true (isClosing_of_mem_turn mem)

/-- A turn that ends since the invocation was cancelled says so. -/
theorem WorkEnd.cancelled_close (pool : Pool σ κ) (c : κ) (inFlight : Bool) (s : σ) :
    ((halted (.failed .cancelled)).close pool c inFlight s).trace.Cancelled
      ((halted (.failed .cancelled)).close pool c inFlight s).progress := by
  obtain ⟨back, returned, progress⟩ :=
    exists_back (.halted (.failed .cancelled)) pool c inFlight s
  rw [progress]
  exact .of_back returned

/-- A poll that finds its token cancelled is the last one. -/
theorem Polls.cancelled_of_token {i i' : Invocation κ} {turn : Turn σ κ}
    (h : Polls pool s i turn i') (noticed : Entry.token true ∈ turn.trace) :
    i'.isOver = true ∧ turn.trace.Cancelled turn.progress := by
  cases h with
  | cancelled => exact ⟨rfl, .alone⟩
  | waiting | crashed | refused => simp at noticed
  | @begun _ _ c _ s'' seg inFlight w token look begins =>
    have unseen := w.token_notMem_turn pool c inFlight s'' true
    obtain rfl := begins.ended_of_token (by simpa [Trace.delivery, unseen] using noticed)
    exact ⟨rfl, (WorkEnd.cancelled_close pool c inFlight s'').append _⟩
  | @resumed _ _ _ _ c s' seg inFlight w awaits =>
    have unseen := w.token_notMem_turn pool c inFlight s' true
    obtain rfl := awaits.ended_of_token (by simpa [unseen] using noticed)
    exact ⟨rfl, (WorkEnd.cancelled_close pool c inFlight s').append _⟩

theorem Drops.token_notMem {i : Invocation κ} {turn : Turn σ κ} (h : Drops pool s i turn)
    (b : Bool) : Entry.token b ∉ turn.trace := by
  cases h with
  | unheld => simp
  | held => exact fun mem => Bool.false_ne_true (Act.isClosing_of_mem mem)

end Tokens

namespace Run

variable {pool : Pool σ κ}

/-- An invocation that found its token cancelled is over, and says why. -/
theorem cancelled_of_token (pool : Pool σ κ) (u : NewUser) (id : ObjectId) (s : σ)
    (moves : List (Move σ)) :
    Entry.token true ∈ ((start u id s).follow pool moves).trace →
      ((start u id s).follow pool moves).isOver = true ∧
      ((start u id s).follow pool moves).trace.Cancelled
        ((start u id s).follow pool moves).progress := by
  refine follow_invariant (I := fun r => Entry.token true ∈ r.trace →
    r.isOver = true ∧ r.trace.Cancelled r.progress) ?_ (start_sound u id s) (by simp [start])
  intro r m r' _ sound before step noticed
  cases step with
  | rested | changed => exact before noticed
  | polled live polls =>
    rcases List.mem_append.mp noticed with earlier | now
    · rw [(before earlier).1] at live
      cases live
    · obtain ⟨ended, cancelled⟩ := polls.cancelled_of_token now
      exact ⟨ended, cancelled.append r.trace⟩
  | dropped live drops =>
    rcases List.mem_append.mp noticed with earlier | now
    · rw [(before earlier).1] at live
      cases live
    · exact absurd now (drops.token_notMem true)

end Run

/-! ## What the pool remembers -/

/-- What holds of a pool goes on to hold whatever is asked of it, as long as nothing is sent after a
cancellation. -/
structure Pool.Keeps (pool : Pool σ κ) (I : σ → Prop) : Prop where
  pollCheckOut : ∀ s, I s → I (pool.pollCheckOut s).2
  describe : ∀ c s, I s → I (pool.describe c s).2
  send : ∀ c r s, I s → pool.isCancelled s = false → I (pool.send c r s)
  pollReply : ∀ c s, I s → I (pool.pollReply c s).2
  checkIn : ∀ c state s, I s → I (pool.checkIn c state s).2

section Keeps

variable {pool : Pool σ κ} {I : σ → Prop} {creation : Creation} {id : ObjectId} {c : κ} {s s' : σ}
  {seg : Trace κ} {inFlight : Bool}

theorem Prepares.keeps {r : Except Halt (Description × Request)} (keeps : pool.Keeps I)
    (h : Prepares pool creation id c s seg s' r) (holds : I s) : I s' := by
  have kept := keeps.describe c s holds
  cases h with
  | crashed asked | failed asked | unbuilt asked | built asked => rwa [asked] at kept

theorem Awaits.keeps {trip : RoundTrip} {w : WorkState} (keeps : pool.Keeps I)
    (h : Awaits pool creation c s trip seg inFlight s' w) (holds : I s) : I s' := by
  have kept := keeps.pollReply c s holds
  cases h with
  | crashed look | answered look | cancelled look | waiting look => rwa [look] at kept

theorem Begins.keeps {w : WorkState} (keeps : pool.Keeps I)
    (h : Begins pool creation id c s seg inFlight s' w) (holds : I s) : I s' := by
  cases h with
  | stopped prepared | cancelled prepared => exact prepared.keeps keeps holds
  | sent prepared token awaits =>
    exact awaits.keeps keeps (keeps.send c _ _ (prepared.keeps keeps holds) token)

theorem WorkState.keeps (keeps : pool.Keeps I) (w : WorkState) (holds : I s) :
    I (w.turn pool c inFlight s).pool := by
  cases w with
  | waits => exact holds
  | ended => exact keeps.checkIn c _ s holds

theorem Polls.keeps {i i' : Invocation κ} {turn : Turn σ κ} (keeps : pool.Keeps I)
    (h : Polls pool s i turn i') (holds : I s) : I turn.pool := by
  have kept := keeps.pollCheckOut s holds
  cases h with
  | cancelled => exact holds
  | waiting token look | crashed token look | refused token look => rwa [look] at kept
  | begun token look begins =>
    rw [look] at kept
    exact WorkState.keeps keeps _ (begins.keeps keeps kept)
  | resumed awaits => exact WorkState.keeps keeps _ (awaits.keeps keeps holds)

theorem Drops.keeps {i : Invocation κ} {turn : Turn σ κ} (keeps : pool.Keeps I)
    (h : Drops pool s i turn) (holds : I s) : I turn.pool := by
  cases h with
  | unheld => exact holds
  | held => exact keeps.checkIn _ _ s holds

/-- Along a run a pool keeps what it keeps in each call and in each change of its surroundings. -/
theorem Run.keeps (keeps : pool.Keeps I) (u : NewUser) (id : ObjectId) (holds : I s)
    {moves : List (Move σ)}
    (changes : ∀ change, .meanwhile change ∈ moves → ∀ s, I s → I (change s)) :
    I ((Run.start u id s : Run σ κ).follow pool moves).pool := by
  refine follow_invariant (I := fun r => I r.pool) ?_ (start_sound u id s) holds
  intro r m r' mem _ before step
  cases step with
  | rested => exact before
  | polled live polls => exact polls.keeps keeps before
  | dropped live drops => exact drops.keeps keeps before
  | changed change => exact changes change mem _ before

end Keeps

/-- Nothing is sent after a cancellation. -/
theorem Pool.watched_keeps (pool : Pool σ κ) (cancels : σ → Bool) :
    (pool.watched cancels).Keeps fun w => w.sentLate = false where
  pollCheckOut _ h := h
  describe _ _ h := h
  send _ _ w h live := by
    change w.isCancelled = false at live
    simp [watched, Watched.goOn, h, live]
  pollReply _ _ h := h
  checkIn _ _ _ h := h

/-! ## Looking for the reply -/

/-- The strategy by which a reply will be read is the one for the server that was described. -/
inductive Invocation.Reads (u : NewUser) : Invocation κ → Trace κ → Prop where
  | checkingOut {id : ObjectId} {t : Trace κ} : Reads u ⟨{ user := u }, id, .checkingOut, none⟩ t
  | awaitingReply {creation : Creation} {id : ObjectId} {d : Description} {trip : RoundTrip} {c : κ}
      {t : Trace κ} (described : .description c (.gives d) ∈ t) :
      Reads u ⟨creation, id, .awaitingReply ⟨u, some (.forServer d)⟩ trip, some ⟨some c, true⟩⟩ t
  | finished {creation : Creation} {id : ObjectId} {t : Trace κ} :
      Reads u ⟨creation, id, .over, none⟩ t

/-- A turn in which the reply was looked for. -/
inductive Turn.Looks (pool : Pool σ κ) (u : NewUser) (t : Trace κ) (turn : Turn σ κ) (c : κ) :
    Invocation κ → Prop where
  | intro {d : Description} {trip : RoundTrip} {i : Invocation κ} (before : Trace κ)
      {seg : Trace κ} {s s' : σ} {inFlight : Bool} {w : WorkState}
      (described : .description c (.gives d) ∈ t ++ before)
      (unread : ∀ c answer, .reply c answer ∉ before)
      (awaits : Awaits pool ⟨u, some (.forServer d)⟩ c s trip seg inFlight s' w)
      (eq : turn = (w.turn pool c inFlight s').preceded (before ++ seg)) :
      Looks pool u t turn c (w.invocation i c inFlight)

section Looks

variable {pool : Pool σ κ} {u : NewUser} {id : ObjectId} {c : κ} {s s' : σ} {seg t : Trace κ}
  {inFlight : Bool} {turn : Turn σ κ} {i i' : Invocation κ}

theorem Prepares.reply_notMem {creation : Creation} {r : Except Halt (Description × Request)}
    (h : Prepares pool creation id c s seg s' r) (c' : κ) (answer : Option (Answer RawDocument)) :
    .reply c' answer ∉ seg := by
  cases h <;> simp

/-- The reply is read by the strategy for the server that was described. -/
theorem Prepares.afterBuild {d : Description} {r : Request}
    (h : Prepares pool { user := u } id c s seg s' (.ok (d, r))) :
    Creation.afterBuild { user := u } id d = ⟨u, some (.forServer d)⟩ ∧
      .description c (.gives d) ∈ seg := by
  cases h with
  | built asked request => exact ⟨by rw [Creation.afterBuild, request], List.mem_cons_self⟩

/-- What a poll does either looks for the reply or comes to its end before that. -/
theorem Begins.looks {w : WorkState} (h : Begins pool { user := u } id c s seg inFlight s' w) :
    ((∀ c answer, .reply c answer ∉ seg) ∧ ∃ e, w = .ended e) ∨
      ∃ d trip s₁ before rest, seg = before ++ rest ∧ .description c (.gives d) ∈ before ∧
        (∀ c answer, .reply c answer ∉ before) ∧
        Awaits pool ⟨u, some (.forServer d)⟩ c s₁ trip rest inFlight s' w := by
  cases h with
  | stopped prepared => exact .inl ⟨prepared.reply_notMem, _, rfl⟩
  | cancelled prepared token =>
    refine .inl ⟨?_, _, rfl⟩
    intro c' answer
    simp [prepared.reply_notMem c' answer]
  | sent prepared token awaits =>
    obtain ⟨built, described⟩ := prepared.afterBuild
    rw [built] at awaits
    refine .inr ⟨_, _, _, _, _, rfl, List.mem_append_left _ described, ?_, awaits⟩
    intro c' answer
    simp [prepared.reply_notMem c' answer]

theorem Polls.looks (h : Polls pool s i turn i') (reads : i.Reads u t) :
    ((∀ c answer, .reply c answer ∉ turn.trace) ∧ i'.Reads u (t ++ turn.trace)) ∨
      ∃ c, turn.Looks pool u t c i' := by
  cases h with
  | cancelled | crashed | refused => exact .inl ⟨by simp, .finished⟩
  | waiting =>
    cases reads with
    | checkingOut => exact .inl ⟨by simp, .checkingOut⟩
  | @begun _ _ c _ _ seg _ w token look begins =>
    cases reads with
    | checkingOut =>
      rcases begins.looks with
        ⟨unread, e, rfl⟩ | ⟨d, trip, s₁, before, rest, rfl, described, unread, awaits⟩
      · refine .inl ⟨?_, .finished⟩
        intro c' answer mem
        simp only [Turn.trace_preceded, Trace.delivery, List.cons_append, List.mem_cons,
          List.nil_append, List.mem_append, reduceCtorEq, false_or] at mem
        rcases mem with early | closing
        · exact unread c' answer early
        · exact Bool.false_ne_true (WorkState.isClosing_of_mem_turn closing)
      · refine .inr ⟨c, .intro (.token false :: Trace.delivery c ++ before) ?_ ?_ awaits ?_⟩
        · simp [described]
        · intro c' answer
          simp [Trace.delivery, unread c' answer]
        · simp
  | @resumed _ _ _ _ c _ _ _ _ awaits =>
    cases reads with
    | awaitingReply described =>
      exact .inr ⟨c, .intro [] (by simpa using described) (by simp) awaits rfl⟩

theorem Turn.Looks.reads (h : turn.Looks pool u t c i') : i'.Reads u (t ++ turn.trace) := by
  cases h with
  | intro before described unread awaits eq =>
    cases awaits with
    | crashed | answered | cancelled => exact .finished
    | waiting =>
      refine .awaitingReply ?_
      rw [eq, trace_preceded, ← List.append_assoc, ← List.append_assoc]
      exact List.mem_append_left _ (List.mem_append_left _ described)

/-- A reply that a turn found was found where it was looked for. -/
theorem Turn.mem_of_reply {w : WorkState} {before : Trace κ}
    (unread : ∀ c answer, .reply c answer ∉ before) {c' : κ} {answer : Option (Answer RawDocument)}
    (mem : .reply c' answer ∈ ((w.turn pool c inFlight s).preceded (before ++ seg)).trace) :
    .reply c' answer ∈ seg := by
  rw [trace_preceded, List.mem_append, List.mem_append] at mem
  rcases mem with (early | found) | closing
  · exact absurd early (unread c' answer)
  · exact found
  · exact absurd (WorkState.isClosing_of_mem_turn closing) Bool.false_ne_true

theorem Turn.Looks.replied (h : turn.Looks pool u t c i') {c' : κ} {answer : Answer RawDocument}
    {outcome : Except Error RawDocument} (mem : .reply c' (some answer) ∈ turn.trace)
    (ready : answer.outcome? = some outcome) :
    ∃ d back, .description c' (.gives d) ∈ t ++ turn.trace ∧ .checkIn c' .clean back ∈ turn.trace ∧
      turn.progress =
        (WorkEnd.ofVerdict (Creation.verdict ⟨u, some (.forServer d)⟩ outcome)).progress back := by
  cases h with
  | @intro d trip i before seg s s' inFlight w described unread awaits eq =>
    subst eq
    have found := mem_of_reply unread mem
    cases awaits with
    | cancelled | waiting => simp at found
    | crashed =>
      obtain ⟨rfl, rfl⟩ : c' = c ∧ answer = .crashes _ := by simpa using found
      cases ready
    | @answered answer' outcome' _ look ready' =>
      obtain ⟨rfl, rfl⟩ : c' = c ∧ answer = answer' := by
        simpa [(RoundTrip.isLog_closing _ _).reply_notMem] using found
      obtain rfl : outcome' = outcome := Option.some.inj (ready'.symm.trans ready)
      obtain ⟨back, returned, progress⟩ := WorkEnd.exists_back
        (.ofVerdict (Creation.verdict ⟨u, some (.forServer d)⟩ outcome')) pool c' false s'
      refine ⟨d, back, ?_, List.mem_append_right _ returned, progress⟩
      rw [trace_preceded, ← List.append_assoc, ← List.append_assoc]
      exact List.mem_append_left _ (List.mem_append_left _ described)

theorem Turn.Looks.unreplied {cancels : σ → Bool} {turn : Turn (Watched σ) κ}
    (h : turn.Looks (pool.watched cancels) u t c i') {c' : κ}
    (mem : .reply c' none ∈ turn.trace) :
    if turn.pool.isCancelled then
      ∃ back, .checkIn c' .abandoned back ∈ turn.trace ∧
        turn.progress = (WorkEnd.halted (.failed .cancelled)).progress back
    else turn.progress = .pending := by
  cases h with
  | @intro d trip i before seg s s' inFlight w described unread awaits eq =>
    subst eq
    have found := mem_of_reply unread mem
    cases awaits with
    | crashed => simp at found
    | answered => simp [(RoundTrip.isLog_closing _ _).reply_notMem] at found
    | cancelled look token =>
      obtain rfl : c' = c := by simpa using found
      obtain ⟨back, returned, progress⟩ := WorkEnd.exists_back
        (.halted (.failed .cancelled)) (pool.watched cancels) c' true s'
      split
      · exact ⟨back, List.mem_append_right _ returned, progress⟩
      · rename_i live
        exact absurd (Bool.or_eq_true_iff.mpr (.inl token)) live
    | waiting look token =>
      split
      · rename_i cancelled
        exact absurd (cancelled.symm.trans token) Bool.noConfusion
      · rfl

end Looks

/-! ## Runs with a token -/

/-- Along a run, a reply that is awaited will be read by the strategy for the described server. -/
theorem Run.reads (pool : Pool σ κ) (u : NewUser) (id : ObjectId) (s : σ) (moves : List (Move σ)) :
    ((start u id s).follow pool moves).invocation.Reads u
      ((start u id s).follow pool moves).trace := by
  refine follow_invariant (I := fun r => r.invocation.Reads u r.trace) ?_ (start_sound u id s)
    .checkingOut
  intro r m r' _ sound before step
  cases step with
  | rested | changed => exact before
  | polled live polls =>
    rcases polls.looks before with ⟨-, reads⟩ | ⟨c, looks⟩
    · exact reads
    · exact looks.reads
  | dropped => exact .finished

/-- A poll heeds the token. -/
theorem Polls.heedsToken {pool : Pool σ κ} {cancels : σ → Bool} {u : NewUser}
    {r : Run (Watched σ) κ} {turn : Turn (Watched σ) κ} {i : Invocation κ}
    (h : Polls (pool.watched cancels) r.pool r.invocation turn i)
    (reads : r.invocation.Reads u r.trace) : HeedsToken u r turn where
  checkingOut stage cancelled := by
    rcases r with ⟨j, s, progress, t⟩
    cases h with
    | cancelled => rfl
    | waiting token | crashed token | refused token | begun token =>
      exact absurd (cancelled.symm.trans token) Bool.noConfusion
    | resumed => cases stage
  replied c answer outcome mem ready := by
    rcases h.looks reads with ⟨unread, -⟩ | ⟨c', looks⟩
    · exact absurd mem (unread c _)
    · exact looks.replied mem ready
  unreplied c mem := by
    rcases h.looks reads with ⟨unread, -⟩ | ⟨c', looks⟩
    · exact absurd mem (unread c _)
    · exact looks.unreplied mem

/-- A pool with a token and the pool itself answer alike. -/
theorem Pool.watched_mirrors (pool : Pool σ κ) (cancels : σ → Bool) :
    (pool.watched cancels).MirrorsPolls pool.uncancelled (fun w s => w.pool = s) Eq where
  looks := by rintro r _ rfl; exact ⟨rfl, rfl, rfl⟩
  describe := by rintro c w _ rfl; exact ⟨rfl, rfl⟩
  checkIn := by rintro c state w _ rfl; exact ⟨rfl, rfl⟩
  pollCheckOut := by rintro w _ rfl; exact ⟨rfl, rfl⟩
  send := by rintro c r _ w _ rfl rfl; rfl
  pollReply := by rintro c w _ rfl; exact ⟨rfl, rfl⟩
  token := by rintro w s - ⟨⟩

theorem Happening.agrees (h : Happening σ) :
    h.watched.Agrees (fun w s => w.pool = s) h.uncancelled := by
  cases h with
  | cancel => exact .meanwhile fun _ _ same => same
  | move m =>
    cases m with
    | poll => exact .poll
    | drop => exact .drop
    | meanwhile change => exact .meanwhile fun _ _ same => congrArg change same

/-- A cancellation may come at any time. Nothing is sent after it, every poll heeds it, and in the
end either the invocation says that it was cancelled, or it did exactly what it would have done
without a cancellation. -/
theorem cancellation_heeded (pool : Pool σ κ) (cancels : σ → Bool) (u : NewUser) (id : ObjectId)
    (s : σ) (happenings : List (Happening σ)) :
    let r : Run (Watched σ) κ := (Run.start u id { pool := s }).follow (pool.watched cancels)
      (happenings.map Happening.watched)
    let undisturbed : Run σ κ := (Run.start u id s).follow pool.uncancelled
      (happenings.map Happening.uncancelled)
    r.pool.sentLate = false ∧
    (r.isOver = false → HeedsToken u r (r.invocation.poll (pool.watched cancels) r.pool).1) ∧
    (r.isOver = true ∧ r.trace.Cancelled r.progress ∨
      r.progress = undisturbed.progress ∧ r.trace = undisturbed.trace ∧
        r.pool.pool = undisturbed.pool) := by
  intro r undisturbed
  refine ⟨?_, ?_, ?_⟩
  · refine Run.keeps (pool.watched_keeps cancels) u id rfl ?_
    intro change mem w kept
    obtain ⟨h, -, eq⟩ := List.mem_map.mp mem
    rcases h with (_ | _ | _) | _ <;> cases eq <;> exact kept
  · intro live
    have sound : r.invocation.Sound := Run.follow_invariant (I := fun r => r.invocation.Sound)
      (fun _ _ _ _ sound _ step => step.sound sound) (Run.start_sound ..) (Run.start_sound ..)
    exact (Invocation.poll_polls _ r.pool sound live).heedsToken (Run.reads _ u id _ _)
  · have together : (Run.start u id { pool := s } : Run (Watched σ) κ).Agrees
        (fun w s => w.pool = s) Eq (Run.start u id s) :=
      ⟨.checkingOut (.refl (fun _ => rfl) _ id), rfl, rfl, .nil⟩
    have moves : List.Forall₂ (Move.Agrees fun w s => w.pool = s)
        (happenings.map Happening.watched) (happenings.map Happening.uncancelled) := by
      rw [List.forall₂_map_left_iff, List.forall₂_map_right_iff]
      exact List.forall₂_same.mpr fun h _ => h.agrees
    rcases together.follow (pool.watched_mirrors cancels) moves with same | ⟨noticed, -⟩
    · exact .inr ⟨same.progress, same.trace.eq, same.pool⟩
    · exact .inl (Run.cancelled_of_token _ u id _ _ noticed)

theorem cancellation_heeded_while_checking_out :
    let pool := (Script.silent Eq).pool.watched fun _ => false
    let alice : NewUser := ⟨⟨some "alice", some "app", some "secret"⟩, false, none⟩
    let r : Run (Watched (Delayed Unit)) Unit :=
      (Run.start alice .zero { pool := ⟨(), 1, 0, none⟩ }).follow pool
        ([.move .poll, .cancel].map Happening.watched)
    (r.invocation.poll pool r.pool).1.progress = .returned (.error .cancelled) := by
  intro pool alice r
  have heeds := (cancellation_heeded (Script.silent Eq).pool (fun _ => false) alice .zero
    ⟨(), 1, 0, none⟩ [.move .poll, .cancel]).2.1 rfl
  rw [heeds.checkingOut rfl rfl]

end UserProvision
