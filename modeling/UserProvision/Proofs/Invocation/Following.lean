import UserProvision.Proofs.Invocation.Rules

/-!
# Invocations follow their rules

For every answer of the pool there is a rule, and what a rule says is what the invocation does.
-/

namespace UserProvision

variable {σ κ α : Type}

/-! ## There is always a rule -/

section Exists

variable (pool : Pool σ κ) (creation : Creation) (id : ObjectId) (c : κ) (s : σ)

theorem exists_prepares : ∃ seg s' r, Prepares pool creation id c s seg s' r := by
  rcases asked : pool.describe c s with ⟨answer, s'⟩
  cases answer with
  | crashes message => exact ⟨_, _, _, .crashed asked⟩
  | fails e => exact ⟨_, _, _, .failed asked⟩
  | gives d =>
    cases request : creation.request id d with
    | error e => exact ⟨_, _, _, .unbuilt asked request⟩
    | ok r => exact ⟨_, _, _, .built asked request⟩

theorem exists_awaits (trip : RoundTrip) :
    ∃ seg inFlight s' w, Awaits pool creation c s trip seg inFlight s' w := by
  rcases look : pool.pollReply c s with ⟨answer?, s'⟩
  cases answer? with
  | none =>
    cases token : pool.isCancelled s' with
    | true => exact ⟨_, _, _, _, .cancelled look token⟩
    | false => exact ⟨_, _, _, _, .waiting look token⟩
  | some answer =>
    cases answer with
    | crashes message => exact ⟨_, _, _, _, .crashed look⟩
    | gives reply => exact ⟨_, _, _, _, .answered look rfl⟩
    | fails e => exact ⟨_, _, _, _, .answered look rfl⟩

theorem exists_begins : ∃ seg inFlight s' w, Begins pool creation id c s seg inFlight s' w := by
  obtain ⟨seg, s', result, prepared⟩ := exists_prepares pool creation id c s
  cases result with
  | error halt => exact ⟨_, _, _, _, .stopped prepared⟩
  | ok built =>
    cases token : pool.isCancelled s' with
    | true => exact ⟨_, _, _, _, .cancelled prepared token⟩
    | false =>
      obtain ⟨rest, inFlight, s'', w, awaits⟩ := exists_awaits pool
        (creation.afterBuild id built.1) c (pool.send c built.2 s') (built.2.trip built.1)
      exact ⟨_, _, _, _, .sent prepared token awaits⟩

theorem exists_works : ∃ seg inFlight s' w, Works pool creation id c s seg inFlight s' w := by
  obtain ⟨seg, s', result, prepared⟩ := exists_prepares pool creation id c s
  cases result with
  | error halt => exact ⟨_, _, _, _, .stopped prepared⟩
  | ok built =>
    rcases sent : pool.exchange c built.2 s' with ⟨answer, s''⟩
    cases answer with
    | crashes message => exact ⟨_, _, _, _, .crashed prepared sent⟩
    | gives reply => exact ⟨_, _, _, _, .answered prepared sent rfl⟩
    | fails e => exact ⟨_, _, _, _, .answered prepared sent rfl⟩

theorem exists_executes : ∃ t, Executes pool creation id s t := by
  rcases asked : pool.checkOut s with ⟨answer, s'⟩
  cases answer with
  | crashes message => exact ⟨_, .crashed asked⟩
  | fails e => exact ⟨_, .refused asked⟩
  | gives c =>
    obtain ⟨seg, inFlight, s'', w, works⟩ := exists_works pool creation id c s'
    exact ⟨_, .worked asked works⟩

theorem exists_polls {i : Invocation κ} (sound : i.Sound) (live : i.isOver = false) :
    ∃ t i', Polls pool s i t i' := by
  cases sound with
  | finished => cases live
  | awaitingReply creation creation' id trip c =>
    obtain ⟨seg, inFlight, s', w, awaits⟩ := exists_awaits pool creation' c s trip
    exact ⟨_, _, .resumed awaits⟩
  | checkingOut creation id =>
    cases token : pool.isCancelled s with
    | true => exact ⟨_, _, .cancelled token⟩
    | false =>
      rcases look : pool.pollCheckOut s with ⟨answer?, s'⟩
      cases answer? with
      | none => exact ⟨_, _, .waiting token look⟩
      | some answer =>
        cases answer with
        | crashes message => exact ⟨_, _, .crashed token look⟩
        | fails e => exact ⟨_, _, .refused token look⟩
        | gives c =>
          obtain ⟨seg, inFlight, s'', w, begins⟩ := exists_begins pool creation id c s'
          exact ⟨_, _, .begun token look begins⟩

end Exists

/-! ## What a rule says is done -/

/-- The result of an act that ended in some way. -/
def WorkEnd.result (a : α) (scene : Scene σ κ) : WorkEnd → EStateM.Result Halt (Scene σ κ) α
  | .done => .ok a scene
  | .halted halt => .error halt scene

/-- The result of an act that has come so far. -/
def WorkState.result (scene : Scene σ κ) : WorkState → EStateM.Result Halt (Scene σ κ) Stage
  | .waits creation trip => .ok (.awaitingReply creation trip) scene
  | .ended w => w.result .over scene

section Apply

variable {pool : Pool σ κ} {creation : Creation} {id : ObjectId} {c : κ} {s s' : σ}
  {seg : Trace κ} {inFlight : Bool}

theorem Act.conclude_apply (creation : Creation) (trip : RoundTrip)
    (outcome : Except Error RawDocument) (scene : Scene σ κ) :
    Act.conclude creation trip outcome scene =
      (WorkEnd.ofVerdict (creation.verdict outcome)).result ()
        { scene with trace := scene.trace ++ trip.closing (creation.verdict outcome) } := by
  cases outcome <;> cases h : creation.verdict _ <;>
    simp_all [conclude, Creation.verdict, RoundTrip.closing, WorkEnd.ofVerdict, WorkEnd.result]

/-- A step that was prepared goes on with the request, or stops. -/
theorem Prepares.apply {r : Except Halt (Description × Request)}
    (h : Prepares pool creation id c s seg s' r)
    (f : Description → Creation × Request → Act σ κ α) (inFlight : Bool) (t : Trace κ) :
    (do
      let d ← Act.describe pool
      let built ← Act.build creation id d
      f d built) ⟨s, some ⟨some c, inFlight⟩, t⟩ =
    match r with
      | .ok (d, request) => f d (creation.afterBuild id d, request)
          ⟨s', some ⟨some c, inFlight⟩, t ++ seg⟩
      | .error halt => .error halt ⟨s', some ⟨some c, inFlight⟩, t ++ seg⟩ := by
  cases h with
  | crashed asked => simp [Act.describe, asked]
  | failed asked => simp [Act.describe, asked]
  | unbuilt asked request => simp [Act.describe, Act.build, asked, request]
  | built asked request => simp [Act.describe, Act.build, asked, request]

theorem Awaits.apply {trip : RoundTrip} {w : WorkState}
    (h : Awaits pool creation c s trip seg inFlight s' w) (t : Trace κ) :
    Act.awaitReply pool creation trip ⟨s, some ⟨some c, true⟩, t⟩ =
      w.result ⟨s', some ⟨some c, inFlight⟩, t ++ seg⟩ := by
  cases h with
  | crashed look => simp [Act.awaitReply, look, WorkState.result, WorkEnd.result]
  | cancelled look token =>
    simp [Act.awaitReply, look, token, WorkState.result, WorkEnd.result, Act.conclude_apply,
      Creation.verdict, Creation.handleFault, RoundTrip.closing, WorkEnd.ofVerdict]
  | waiting look token => simp [Act.awaitReply, look, token, WorkState.result]
  | @answered answer outcome _ look ready =>
    have concluded := Act.conclude_apply (σ := σ) (κ := κ) creation trip outcome
    cases verdict : creation.verdict outcome <;> cases answer <;> cases ready <;>
      simp [Act.awaitReply, look, concluded, verdict, WorkEnd.ofVerdict, WorkEnd.result,
        WorkState.result]

theorem Begins.apply {w : WorkState} (h : Begins pool creation id c s seg inFlight s' w)
    (t : Trace κ) :
    Act.startWork pool creation id ⟨s, some ⟨some c, false⟩, t⟩ =
      w.result ⟨s', some ⟨some c, inFlight⟩, t ++ seg⟩ := by
  cases h with
  | stopped prepared =>
    rw [Act.startWork, prepared.apply]
    rfl
  | cancelled prepared token =>
    rw [Act.startWork, prepared.apply]
    simp [token, WorkState.result, WorkEnd.result]
  | @sent start _ _ _ d r _ _ prepared token awaits =>
    have awaited := awaits.apply (t ++ start ++ [.token false, .event (r.started d), .request c r])
    rw [Act.startWork, prepared.apply]
    simpa [token, Act.startTrip, Request.trip, Request.started] using awaited

theorem Works.apply {w : WorkEnd} (h : Works pool creation id c s seg inFlight s' w)
    (t : Trace κ) :
    Act.work pool creation id ⟨s, some ⟨some c, false⟩, t⟩ =
      w.result () ⟨s', some ⟨some c, inFlight⟩, t ++ seg⟩ := by
  cases h with
  | stopped prepared =>
    rw [Act.work, prepared.apply]
    rfl
  | crashed prepared sent =>
    rw [Act.work, prepared.apply]
    simp [Act.startTrip, sent, WorkEnd.result, Request.trip, Request.started]
  | @answered _ _ _ _ _ answer outcome prepared sent ready =>
    rw [Act.work, prepared.apply]
    cases answer <;> cases ready <;>
      simp [Act.startTrip, sent, Act.conclude_apply, Request.trip, Request.started]

/-- The turn that the result of a whole invocation amounts to. -/
def Act.turn : EStateM.Result Halt (Scene σ κ) α → Turn σ κ
  | .ok _ scene => ⟨.returned (.ok ()), scene.trace, scene.pool⟩
  | .error halt scene => ⟨halt.progress, scene.trace, scene.pool⟩

theorem Act.turn_settle (pool : Pool σ κ) {work : Act σ κ α} {scene : Scene σ κ} {t : Trace κ}
    {a : α} {w : WorkEnd} (worked : work scene = w.result a ⟨s, some ⟨some c, inFlight⟩, t⟩) :
    Act.turn (Act.settle pool work scene) = (w.close pool c inFlight s).preceded t := by
  rcases back : pool.checkIn c (Lease.state ⟨some c, inFlight⟩) s with ⟨answer, s'⟩
  have released := Act.release_held back t
  have dropped := Act.drop_held back t
  rcases w with _ | e | message <;> cases answer <;>
    simp [Act.settle, Act.unwinding, Act.finish, worked, released, dropped, back, Act.turn,
      Turn.preceded, WorkEnd.result, WorkEnd.close, WorkEnd.progress, WorkEnd.complaint,
      Act.complaints, Halt.progress]

/-- The turn that the result of a poll amounts to, and what it leaves of the invocation. -/
def Invocation.after (i : Invocation κ) :
    EStateM.Result Halt (Scene σ κ) Stage → Turn σ κ × Invocation κ
  | .ok .over scene => (⟨.returned (.ok ()), scene.trace, scene.pool⟩, i.ended)
  | .ok stage scene =>
    (⟨.pending, scene.trace, scene.pool⟩, { i with stage := stage, lease := scene.lease })
  | .error halt scene => (⟨halt.progress, scene.trace, scene.pool⟩, i.ended)

theorem Invocation.after_settleStage {work : Act σ κ Stage} {scene : Scene σ κ} {t : Trace κ}
    {w : WorkState} (pool : Pool σ κ) (i : Invocation κ)
    (worked : work scene = w.result ⟨s, some ⟨some c, inFlight⟩, t⟩) :
    i.after (Act.settleStage pool work scene) =
      ((w.turn pool c inFlight s).preceded t, w.invocation i c inFlight) := by
  rcases back : pool.checkIn c (Lease.state ⟨some c, inFlight⟩) s with ⟨answer, s'⟩
  have released := Act.release_held back t
  have dropped := Act.drop_held back t
  rcases w with ⟨creation, trip⟩ | _ | e | message
  · simp [Act.settleStage, Act.unwinding, worked, Invocation.after, Turn.preceded, WorkState.turn,
      WorkState.result, WorkState.invocation]
  all_goals
    cases answer <;>
      simp [Act.settleStage, Act.unwinding, Act.finish, worked, released, dropped, back,
        Invocation.after, Turn.preceded, WorkEnd.result, WorkEnd.close, WorkEnd.progress,
        WorkEnd.complaint, Act.complaints, Halt.progress, WorkState.turn, WorkState.result,
        WorkState.invocation]

end Apply

/-! ## Invocations follow the rules -/

theorem Executes.execute {pool : Pool σ κ} {u : NewUser} {id : ObjectId} {s : σ} {turn : Turn σ κ}
    (h : Executes pool { user := u } id s turn) : u.execute pool id s = turn := by
  have run : u.execute pool id s = Act.turn (Act.invoke pool { user := u } id { pool := s }) := by
    unfold NewUser.execute Act.turn
    cases Act.invoke pool { user := u } id { pool := s } <;> rfl
  rw [run]
  cases h with
  | crashed asked => simp [Act.invoke, Act.delivered, asked, Act.turn, Halt.progress]
  | refused asked => simp [Act.invoke, Act.delivered, asked, Act.turn, Halt.progress]
  | @worked c _ _ seg _ w asked works =>
    have settled := Act.turn_settle pool (works.apply (Trace.delivery c))
    simpa [Act.invoke, Act.delivered, asked, Trace.delivery] using settled

theorem Polls.poll {pool : Pool σ κ} {s : σ} {i i' : Invocation κ} {turn : Turn σ κ}
    (h : Polls pool s i turn i') : i.poll pool s = (turn, i') := by
  change i.after (Act.advance pool i.creation i.id i.stage ⟨s, i.lease, []⟩) = (turn, i')
  cases h with
  | cancelled token =>
    simp [Act.advance, token, Invocation.after, Halt.progress, Invocation.ended]
  | waiting token look => simp [Act.advance, token, look, Invocation.after]
  | crashed token look =>
    simp [Act.advance, Act.delivered, token, look, Invocation.after, Halt.progress,
      Invocation.ended]
  | refused token look =>
    simp [Act.advance, Act.delivered, token, look, Invocation.after, Halt.progress,
      Invocation.ended]
  | @begun creation id c _ _ seg _ w token look begins =>
    have settled := Invocation.after_settleStage pool ⟨creation, id, .checkingOut, none⟩
      (begins.apply (.token false :: Trace.delivery c))
    simpa [Act.advance, Act.delivered, token, look, Trace.delivery] using settled
  | resumed awaits => exact Invocation.after_settleStage pool _ (awaits.apply [])

/-- A blocking invocation follows the rules. -/
theorem NewUser.execute_executes (u : NewUser) (pool : Pool σ κ) (id : ObjectId) (s : σ) :
    Executes pool { user := u } id s (u.execute pool id s) := by
  obtain ⟨turn, executes⟩ := exists_executes pool { user := u } id s
  exact executes.execute ▸ executes

/-- A poll follows the rules. -/
theorem Invocation.poll_polls (pool : Pool σ κ) (s : σ) {i : Invocation κ} (sound : i.Sound)
    (live : i.isOver = false) : Polls pool s i (i.poll pool s).1 (i.poll pool s).2 := by
  obtain ⟨turn, i', polls⟩ := exists_polls pool s sound live
  exact polls.poll ▸ polls

theorem Polls.sound {pool : Pool σ κ} {s : σ} {i i' : Invocation κ} {turn : Turn σ κ}
    (h : Polls pool s i turn i') : i'.Sound := by
  cases h with
  | waiting => exact .checkingOut ..
  | cancelled | crashed | refused => exact .finished ..
  | begun token look begins =>
    cases begins with
    | stopped | cancelled => exact .finished ..
    | sent prepared token awaits =>
      cases awaits with
      | waiting => exact .awaitingReply ..
      | crashed | answered | cancelled => exact .finished ..
  | resumed awaits =>
    cases awaits with
    | waiting => exact .awaitingReply ..
    | crashed | answered | cancelled => exact .finished ..

end UserProvision
