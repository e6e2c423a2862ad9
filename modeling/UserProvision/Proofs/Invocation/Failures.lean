import UserProvision.Proofs.Failure.Chain
import UserProvision.Proofs.Invocation.Run
import UserProvision.Proofs.Pool.Trace

/-!
# No failure is masked or lost

What an invocation returns depends on few entries of its trace: which connection came or why none
did, what was said about its server, that a cancellation was noticed, what came in reply, and
whether the connection could go back. `Trace.milestones` keeps just these, and `Settles` says which
result has to follow from them.

## Main definitions

* `Milestone`, `Trace.milestones` — what decides the result of an invocation.
* `Worked` — the result of the work on a connection.
* `Combined` — that result together with the answer to the check-in.
* `Settles` — the result of a whole invocation.
-/

namespace UserProvision

variable {σ κ : Type}

/-- What becomes of an error at the check-out: it stays what it is if it says that there is no
connection or that the invocation was cancelled, and else is the cause of an error that says so. -/
inductive Unavailable : Error → Error → Prop
  | told {e : Error} {message : Message} (own : e.kind = .connectionUnavailable message) :
    Unavailable e e
  | cancelled {e : Error} (own : e.kind = .cancelled) : Unavailable e e
  | caused {e e' : Error} (untold : ∀ message, e.kind ≠ .connectionUnavailable message)
    (uncancelled : e.kind ≠ .cancelled)
    (kind : e'.kind =
      .connectionUnavailable (e.quotedAfter "the binding failed to supply a connection: "))
    (labels : e'.labels = .empty) (chain : e'.chain = e'.primary :: e.chain) : Unavailable e e'

theorem Act.unavailable_checkOutError (e : Error) : Unavailable e (checkOutError e) := by
  unfold checkOutError
  split
  · rename_i message own
    exact .told own
  · rename_i own
    exact .cancelled own
  · rename_i untold uncancelled
    exact .caused untold uncancelled (Error.kind_attach ..) (Error.labels_attach ..)
      (Error.chain_attach ..)

/-! ## What decides a result -/

/-- An entry of a trace that the result depends on. -/
inductive Milestone (κ : Type) where
  | arrived (answer : Answer κ)
  | described (answer : Answer Description)
  /-- A cancellation was noticed. -/
  | noticed
  | replied (outcome : Except Error RawDocument)
  | returned (answer : Answer Unit)

def Entry.milestone? : Entry κ → Option (Milestone κ)
  | .checkOut (some answer) => some (.arrived answer)
  | .description _ answer => some (.described answer)
  | .token true => some .noticed
  | .reply _ (some answer) => answer.outcome?.map .replied
  | .checkIn _ _ answer => some (.returned answer)
  | _ => none

theorem Entry.milestone?_reply (c : κ) {answer : Answer RawDocument}
    {outcome : Except Error RawDocument} (ready : answer.outcome? = some outcome) :
    milestone? (.reply c (some answer)) = some (.replied outcome) := by
  simp [milestone?, ready]

/-- The entries that the result depends on. -/
def Trace.milestones (t : Trace κ) : List (Milestone κ) := t.filterMap Entry.milestone?

@[simp] theorem Trace.milestones_append (t t' : Trace κ) :
    milestones (t ++ t') = milestones t ++ milestones t' := by
  simp [milestones]

@[simp] theorem Trace.milestones_cons (e : Entry κ) (t : Trace κ) :
    milestones (e :: t) = e.milestone?.toList ++ milestones t := by
  cases h : e.milestone? <;> simp [milestones, h]

@[simp] theorem Trace.IsLog.milestones_eq_nil {t : Trace κ} (h : t.IsLog) : t.milestones = [] :=
  h.filterMap_eq_nil fun _ => rfl

/-- The result of the work on a connection. -/
inductive Worked (u : NewUser) (id : ObjectId) : List (Milestone κ) → Except Error Unit → Prop
  /-- The server could not be asked about. -/
  | undescribed {e : Error} : Worked u id [.described (.fails e)] (.error e)
  /-- The request could not be built. -/
  | unbuilt {d : Description} {e : Error} (request : Creation.request ⟨u, none⟩ id d = .error e) :
    Worked u id [.described (.gives d)] (.error e)
  /-- A cancellation was noticed before the request was sent, or before there was a reply. -/
  | cancelled {d : Description} {r : Request} (request : Creation.request ⟨u, none⟩ id d = .ok r) :
    Worked u id [.described (.gives d), .noticed] (.error .cancelled)
  /-- An error came in place of a reply. -/
  | broken {d : Description} {r : Request} {e : Error}
    (request : Creation.request ⟨u, none⟩ id d = .ok r) :
    Worked u id [.described (.gives d), .replied (.error e)] (.error e)
  /-- A reply came. -/
  | answered {d : Description} {r : Request} {reply : RawDocument}
    (request : Creation.request ⟨u, none⟩ id d = .ok r) :
    Worked u id [.described (.gives d), .replied (.ok reply)]
      ((Creation.handleReply ⟨u, some (.forServer d)⟩ reply).map fun _ => ())

/-- The result of work together with the answer to the check-in. -/
inductive Combined : Except Error Unit → Answer Unit → Except Error Unit → Prop
  /-- A failure to hand the connection back does not undo a success. -/
  | succeeded (back : Answer Unit) : Combined (.ok ()) back (.ok ())
  | kept (p : Error) : Combined (.error p) (.gives ()) (.error p)
  /-- Of two failures the first one matters, and the other is last in its chain. -/
  | both {p r e : Error} (kind : e.kind = p.kind) (labels : e.labels = p.labels)
    (chain : e.chain = p.chain ++ r.chain) : Combined (.error p) (.fails r) (.error e)

/-- The result of a whole invocation. -/
inductive Settles (u : NewUser) (id : ObjectId) :
    List (Milestone κ) → Except Error Unit → Prop
  /-- No connection came. -/
  | refused {e e' : Error} (unavailable : Unavailable e e') :
    Settles u id [.arrived (.fails e)] (.error e')
  /-- A cancellation was noticed before a connection came. -/
  | cancelled : Settles u id [.noticed] (.error .cancelled)
  /-- A connection came, was worked with, and went back. -/
  | worked {c : κ} {ms : List (Milestone κ)} {x result : Except Error Unit} {back : Answer Unit}
    (worked : Worked u id ms x) (combined : Combined x back result) :
    Settles u id (.arrived (.gives c) :: ms ++ [.returned back]) result

/-! ## The milestones leave no choice -/

theorem Unavailable.unique {e e' e'' : Error} (h : Unavailable e e') (h' : Unavailable e e'') :
    e' = e'' := by
  cases h with
  | told own =>
    cases h' with
    | told | cancelled => rfl
    | caused untold => exact absurd own (untold _)
  | cancelled own =>
    cases h' with
    | told | cancelled => rfl
    | caused _ uncancelled => exact absurd own uncancelled
  | caused untold uncancelled kind labels chain =>
    cases h' with
    | told own => exact absurd own (untold _)
    | cancelled own => exact absurd own uncancelled
    | caused _ _ kind' labels' chain' =>
      have whole (e : Error) : e.primary = ⟨e.kind, e.labels⟩ := rfl
      have primary : e'.primary = e''.primary := by
        rw [whole e', whole e'', kind, kind', labels, labels']
      exact Error.chain_injective (by rw [chain, chain', primary])

theorem Worked.unique {u : NewUser} {id : ObjectId} {ms : List (Milestone κ)}
    {x y : Except Error Unit} (h : Worked u id ms x) (h' : Worked u id ms y) : x = y := by
  cases h with
  | undescribed =>
    cases h'
    rfl
  | unbuilt request =>
    cases h' with
    | unbuilt request' =>
      rw [request] at request'
      cases request'
      rfl
  | cancelled | broken | answered =>
    cases h'
    rfl

theorem Combined.unique {x result result' : Except Error Unit} {back : Answer Unit}
    (h : Combined x back result) (h' : Combined x back result') : result = result' := by
  cases h with
  | succeeded | kept =>
    cases h'
    rfl
  | both _ _ chain =>
    cases h' with
    | both _ _ chain' => rw [Error.chain_injective (chain.trans chain'.symm)]

/-- The same milestones settle one result. -/
theorem Settles.unique {u : NewUser} {id : ObjectId} {ms : List (Milestone κ)}
    {result result' : Except Error Unit} (h : Settles u id ms result)
    (h' : Settles u id ms result') : result = result' := by
  cases h with
  | refused unavailable =>
    generalize eq : [Milestone.arrived (.fails _)] = ms at h'
    cases h' with
    | refused unavailable' =>
      cases eq
      rw [unavailable.unique unavailable']
    | cancelled | worked => cases eq
  | cancelled =>
    generalize eq : [Milestone.noticed] = ms at h'
    cases h' with
    | cancelled => rfl
    | refused | worked => cases eq
  | @worked c ms x _ back worked combined =>
    generalize eq : Milestone.arrived (.gives c) :: ms ++ [.returned back] = ms' at h'
    cases h' with
    | refused | cancelled => cases eq
    | worked worked' combined' =>
      obtain ⟨same, backs⟩ := List.append_inj' eq rfl
      cases same
      cases backs
      cases worked.unique worked'
      exact combined.unique combined'

/-! ## Work -/

/-- The result that work had, unless it crashed. -/
def WorkEnd.result? : WorkEnd → Option (Except Error Unit)
  | .done => some (.ok ())
  | .halted (.failed e) => some (.error e)
  | .halted (.crashed _) => none

theorem WorkEnd.result?_ofVerdict (verdict : Except Error Event) :
    (ofVerdict verdict).result? = some (verdict.map fun _ => ()) := by
  cases verdict <;> rfl

section Parts

variable {pool : Pool σ κ} {u : NewUser} {id : ObjectId} {c : κ} {s s' : σ} {seg : Trace κ}
  {inFlight : Bool}

theorem Prepares.milestones_of_ok {creation : Creation} {d : Description} {r : Request}
    (h : Prepares pool creation id c s seg s' (.ok (d, r))) :
    seg.milestones = [.described (.gives d)] ∧ creation.request id d = .ok r := by
  cases h with
  | built asked request => exact ⟨rfl, request⟩

theorem Prepares.worked {halt : Halt}
    (h : Prepares pool ⟨u, none⟩ id c s seg s' (.error halt)) {x : Except Error Unit}
    (result : (WorkEnd.halted halt).result? = some x) : Worked u id seg.milestones x := by
  cases h with
  | crashed asked => cases result
  | failed asked =>
    cases result
    exact .undescribed
  | unbuilt asked request =>
    cases result
    exact .unbuilt request

/-- A reply, or an error in place of one, tells the result of the work. -/
theorem Worked.of_verdict {d : Description} {r : Request}
    (request : Creation.request ⟨u, none⟩ id d = .ok r) (outcome : Except Error RawDocument) :
    Worked (κ := κ) u id [.described (.gives d), .replied outcome]
      (((Creation.afterBuild ⟨u, none⟩ id d).verdict outcome).map fun _ => ()) := by
  rw [Creation.afterBuild, request]
  cases outcome with
  | ok reply => exact .answered request
  | error e => exact .broken request

theorem Works.worked {w : WorkEnd} (h : Works pool ⟨u, none⟩ id c s seg inFlight s' w)
    {x : Except Error Unit} (result : w.result? = some x) : Worked u id seg.milestones x := by
  cases h with
  | stopped prepared => exact prepared.worked result
  | crashed prepared sent => cases result
  | @answered _ _ _ d r answer outcome prepared sent ready =>
    obtain ⟨described, request⟩ := prepared.milestones_of_ok
    rw [WorkEnd.result?_ofVerdict] at result
    cases result
    have log := RoundTrip.isLog_closing (κ := κ) (r.trip d)
      ((Creation.afterBuild ⟨u, none⟩ id d).verdict outcome)
    rw [Trace.milestones_append, Trace.milestones_append, log.milestones_eq_nil, described,
      Trace.milestones_cons, Trace.milestones_cons, Trace.milestones_cons,
      Entry.milestone?_reply c ready]
    exact .of_verdict request outcome

/-- How the work of a poll goes on once the request was built for a described server: it waits with
what will read the reply, or it has come to its end. -/
theorem Awaits.worked {trip : RoundTrip} {w : WorkState} {d : Description} {r : Request}
    (request : Creation.request ⟨u, none⟩ id d = .ok r)
    (h : Awaits pool (Creation.afterBuild ⟨u, none⟩ id d) c s trip seg inFlight s' w) :
    (seg.milestones = [] ∧ w = .waits (Creation.afterBuild ⟨u, none⟩ id d) trip) ∨
      ∃ e, w = .ended e ∧ ∀ x, e.result? = some x →
        Worked u id (.described (.gives d) :: seg.milestones) x := by
  cases h with
  | crashed look => exact .inr ⟨_, rfl, nofun⟩
  | waiting look token => exact .inl ⟨rfl, rfl⟩
  | cancelled look token =>
    refine .inr ⟨_, rfl, fun x result => ?_⟩
    cases result
    exact .cancelled request
  | @answered answer outcome _ look ready =>
    refine .inr ⟨_, rfl, fun x result => ?_⟩
    rw [WorkEnd.result?_ofVerdict] at result
    cases result
    have log := RoundTrip.isLog_closing (κ := κ) trip
      ((Creation.afterBuild ⟨u, none⟩ id d).verdict outcome)
    rw [Trace.milestones_cons, log.milestones_eq_nil, Entry.milestone?_reply c ready]
    exact .of_verdict request outcome

theorem Begins.worked {w : WorkState}
    (h : Begins pool ⟨u, none⟩ id c s seg inFlight s' w) :
    (∃ d r trip, Creation.request ⟨u, none⟩ id d = .ok r ∧
      seg.milestones = [.described (.gives d)] ∧
      w = .waits (Creation.afterBuild ⟨u, none⟩ id d) trip) ∨
      ∃ e, w = .ended e ∧ ∀ x, e.result? = some x → Worked u id seg.milestones x := by
  cases h with
  | stopped prepared => exact .inr ⟨_, rfl, fun x result => prepared.worked result⟩
  | cancelled prepared token =>
    obtain ⟨described, request⟩ := prepared.milestones_of_ok
    refine .inr ⟨_, rfl, fun x result => ?_⟩
    cases result
    rw [Trace.milestones_append, described]
    exact .cancelled request
  | @sent seg rest _ _ d r _ w prepared token awaits =>
    obtain ⟨described, request⟩ := prepared.milestones_of_ok
    have milestones : Trace.milestones (seg ++ [.token false, .event (r.started d), .request c r] ++
        rest) = .described (.gives d) :: rest.milestones := by
      rw [Trace.milestones_append, Trace.milestones_append, described]
      rfl
    rw [milestones]
    rcases awaits.worked request with ⟨quiet, waits⟩ | ended
    · exact .inl ⟨d, r, _, request, by rw [quiet], waits⟩
    · exact .inr ended

/-! ## The check-in -/

theorem Act.milestones_handedBack (c : κ) (state : CheckInState) (answer : Answer Unit)
    (complaint : Error → List Event) :
    (handedBack c state answer ++ complaints complaint answer).milestones = [.returned answer] := by
  obtain ⟨rest, log, eq⟩ := handedBack_eq c state answer
  rw [eq, Trace.milestones_append, Trace.milestones_cons, log.milestones_eq_nil,
    (isLog_complaints complaint answer).milestones_eq_nil]
  rfl

/-- What an invocation returns joins the result of its work with the answer to the check-in. -/
theorem WorkEnd.combined {w : WorkEnd} {back : Answer Unit} {result : Except Error Unit}
    (returned : w.progress back = .returned result) :
    ∃ x, w.result? = some x ∧ Combined x back result := by
  cases w with
  | done =>
    cases back with
    | crashes => cases returned
    | gives | fails =>
      cases returned
      exact ⟨_, rfl, .succeeded _⟩
  | halted halt =>
    cases halt with
    | crashed => cases back <;> cases returned
    | failed p =>
      cases back with
      | crashes => cases returned
      | gives =>
        cases returned
        exact ⟨_, rfl, .kept p⟩
      | fails r =>
        cases returned
        exact ⟨_, rfl, .both (p.kind_attach r) (p.labels_attach r) (p.chain_attach r)⟩

/-- An invocation that returns after its work returns what the milestones settle. -/
theorem WorkEnd.settles {w : WorkEnd} {ms : List (Milestone κ)}
    (worked : ∀ x, w.result? = some x → Worked u id ms x) {result : Except Error Unit}
    (returned : (w.close pool c inFlight s).progress = .returned result) :
    Settles u id (.arrived (.gives c) :: ms ++ (w.close pool c inFlight s).trace.milestones)
      result := by
  obtain ⟨x, done, combined⟩ := combined returned
  rw [close, Act.milestones_handedBack]
  exact .worked (worked x done) combined

end Parts

/-! ## Whole invocations -/

section Whole

variable {pool : Pool σ κ} {u : NewUser} {id : ObjectId} {s : σ}

theorem Executes.settles {turn : Turn σ κ} (h : Executes pool ⟨u, none⟩ id s turn)
    {result : Except Error Unit} (returned : turn.progress = .returned result) :
    Settles u id turn.trace.milestones result := by
  cases h with
  | crashed asked => cases returned
  | refused asked =>
    cases returned
    exact .refused (Act.unavailable_checkOutError _)
  | worked asked works =>
    rw [Turn.trace_preceded, Trace.milestones_append]
    exact WorkEnd.settles (fun x done => works.worked done) returned

/-- What the milestones have to be at each stage of an invocation. -/
inductive Invocation.Follows (u : NewUser) (id : ObjectId) :
    Invocation κ → List (Milestone κ) → Progress → Prop where
  | checkingOut : Follows u id ⟨⟨u, none⟩, id, .checkingOut, none⟩ [] .pending
  | awaitingReply {creation : Creation} {d : Description} {r : Request} {trip : RoundTrip} {c : κ}
    (request : Creation.request ⟨u, none⟩ id d = .ok r) :
    Follows u id
      ⟨creation, id, .awaitingReply (Creation.afterBuild ⟨u, none⟩ id d) trip, some ⟨some c, true⟩⟩
      [.arrived (.gives c), .described (.gives d)] .pending
  | finished {creation : Creation} {ms : List (Milestone κ)} {progress : Progress}
    (settles : ∀ result, progress = .returned result → Settles u id ms result) :
    Follows u id ⟨creation, id, .over, none⟩ ms progress

theorem Polls.follows {i i' : Invocation κ} {turn : Turn σ κ} {t : Trace κ} {progress : Progress}
    (h : Polls pool s i turn i') (before : i.Follows u id t.milestones progress) :
    i'.Follows u id (t ++ turn.trace).milestones turn.progress := by
  rw [Trace.milestones_append]
  generalize t.milestones = ms at before
  cases h with
  | cancelled token =>
    cases before
    refine .finished fun result returned => ?_
    cases returned
    exact .cancelled
  | waiting token look =>
    cases before
    exact .checkingOut
  | crashed token look =>
    cases before
    exact .finished nofun
  | refused token look =>
    cases before
    refine .finished fun result returned => ?_
    cases returned
    exact .refused (Act.unavailable_checkOutError _)
  | begun token look begins =>
    cases before
    rcases begins.worked with ⟨d, r, trip, request, described, rfl⟩ | ⟨e, rfl, worked⟩
    · obtain rfl := begins.inFlight_of_waits
      simpa [WorkState.turn, WorkState.invocation, Trace.delivery, Entry.milestone?, described]
        using Invocation.Follows.awaitingReply request
    · refine .finished fun result returned => ?_
      rw [Turn.trace_preceded, Trace.milestones_append]
      exact WorkEnd.settles worked returned
  | @resumed creation creation' _ trip c _ seg _ w awaits =>
    cases before with
    | awaitingReply request =>
      rcases awaits.worked request with ⟨quiet, rfl⟩ | ⟨e, rfl, worked⟩
      · obtain rfl := awaits.inFlight_of_waits
        simpa [WorkState.turn, WorkState.invocation, quiet]
          using Invocation.Follows.awaitingReply request
      · refine .finished fun result returned => ?_
        rw [Turn.trace_preceded, Trace.milestones_append]
        exact WorkEnd.settles worked returned

theorem Drops.follows {i : Invocation κ} {turn : Turn σ κ} {ms ms' : List (Milestone κ)}
    {progress : Progress} (h : Drops pool s i turn) (before : i.Follows u id ms progress) :
    i.ended.Follows u id ms' turn.progress := by
  have unreturned : ∀ result, turn.progress ≠ .returned result := by
    intro result
    cases h with
    | unheld => nofun
    | held creation creation' id trip c =>
      unfold Lease.abandon
      dsimp only
      split <;> nofun
  cases before with
  | checkingOut | awaitingReply | finished =>
    exact .finished fun result returned => absurd returned (unreturned result)

end Whole

/-- The milestones decide along every run what a polled invocation can return. -/
theorem Run.follows (pool : Pool σ κ) (u : NewUser) (id : ObjectId) (s : σ)
    (moves : List (Move σ)) :
    ((start u id s).follow pool moves).invocation.Follows u id
      ((start u id s).follow pool moves).trace.milestones
      ((start u id s).follow pool moves).progress := by
  -- What was passed so far is part of the invariant, since a later poll returns only on top of it.
  refine follow_invariant (I := fun r => r.invocation.Follows u id r.trace.milestones r.progress) ?_
    (start_sound u id s) .checkingOut
  intro r m r' _ sound before step
  cases step with
  | rested | changed => exact before
  | polled live polls => exact polls.follows before
  | dropped live drops => exact drops.follows before

/-- Whatever an invocation returns is what its milestones settle, whether it waits for every call or
is polled. A success of the work is a success whatever the check-in answers, a failure of the work
comes out as it is or with the failure of the check-in at the end of its chain, an error in place of
a reply is handed on, and an error of the check-out stays in the chain of what is returned. -/
theorem failures_kept (pool : Pool σ κ) (u : NewUser) (id : ObjectId) (s : σ) :
    (∀ result, (u.execute pool id s).progress = .returned result →
      Settles u id (u.execute pool id s).trace.milestones result) ∧
    (∀ (moves : List (Move σ)) (result : Except Error Unit),
      let r : Run σ κ := (Run.start u id s).follow pool moves
      r.progress = .returned result → Settles u id r.trace.milestones result) ∧
    ∀ (ms : List (Milestone κ)) (result result' : Except Error Unit),
      Settles u id ms result → Settles u id ms result' → result = result' := by
  refine ⟨fun result returned => (u.execute_executes pool id s).settles returned, ?_,
    fun _ _ _ h h' => h.unique h'⟩
  intro moves result r returned
  have follows : r.invocation.Follows u id r.trace.milestones r.progress :=
    Run.follows pool u id s moves
  rw [returned] at follows
  generalize r.invocation = i, r.trace.milestones = ms at follows
  cases follows with
  | finished settles => exact settles result rfl

theorem failures_kept_of_two :
    let u : NewUser := ⟨⟨some "alice", some "app", none⟩, false, none⟩
    let p := (Error.labelled (.transport "broken pipe") ["a"]).attach (.internal "first")
    let r := (Error.internal "second").attach (.internal "third")
    let pool : Pool Unit Unit := {
      checkOut := fun s => (.gives (), s)
      pollCheckOut := fun s => (some (.gives ()), s)
      describe := fun _ s => (.fails p, s)
      exchange := fun _ _ s => (.fails p, s)
      send := fun _ _ s => s
      pollReply := fun _ s => (some (.fails p), s)
      checkIn := fun _ _ s => (.fails r, s)
      isCancelled := fun _ => false }
    let waited := u.execute pool .zero ()
    waited.progress = .returned (.error (p.attach r)) ∧ (p.attach r).chain = p.chain ++ r.chain ∧
      Settles u .zero waited.trace.milestones (.error (p.attach r)) := by
  intro u p r pool waited
  have returned : waited.progress = .returned (.error (p.attach r)) := rfl
  exact ⟨returned, rfl, (failures_kept pool u .zero ()).1 _ returned⟩

end UserProvision
