import UserProvision.Proofs.Act.Evaluation

/-!
# Rules for what an invocation does

One rule for each thing that can happen between two points at which an invocation waits or ends,
with what it adds to the trace and what it leaves behind. `NewUser.execute_executes` and
`Invocation.poll_polls` say that invocations follow the rules; whatever holds of all rules then
holds of all invocations.

## Main definitions

* `Prepares`, `Works` — what is done with a connection by an invocation that waits for every call.
* `Begins`, `Awaits` — what is done with a connection by one poll.
* `WorkEnd.close` — how a lease ends after work that has come to its end.
* `Executes`, `Polls` — a blocking invocation and a poll, from the check-out on.
-/

namespace UserProvision

variable {σ κ α : Type}

/-! ## Verdicts -/

/-- The outcome of a call that did not crash. -/
def Answer.outcome? : Answer α → Option (Except Error α)
  | .gives a => some (.ok a)
  | .fails e => some (.error e)
  | .crashes _ => none

/-- What a reply amounts to, or an error in place of one. -/
def Creation.verdict (creation : Creation) : Except Error RawDocument → Except Error Event
  | .ok reply => creation.handleReply reply
  | .error e => creation.handleFault e

/-- What is logged about a round trip that is over. -/
def RoundTrip.closing (trip : RoundTrip) : Except Error Event → Trace κ
  | .ok acknowledgment => [.event acknowledgment, .event (.commandSucceeded trip)]
  | .error e => [.event (.commandFailed e trip)]

/-- How work on a connection came to its end. -/
inductive WorkEnd where
  | done
  | halted (halt : Halt)

/-- How far work on a connection has come. -/
inductive WorkState where
  | waits (creation : Creation) (trip : RoundTrip)
  | ended (w : WorkEnd)

/-- The end of work whose round trip had a verdict. -/
def WorkEnd.ofVerdict : Except Error Event → WorkEnd
  | .ok _ => .done
  | .error e => .halted (.failed e)

/-! ## Work on a connection -/

section Work

variable (pool : Pool σ κ) (creation : Creation) (id : ObjectId) (c : κ) (s : σ)

/-- The server is asked about, and the request is built. -/
inductive Prepares : Trace κ → σ → Except Halt (Description × Request) → Prop where
  | crashed {message : String} {s' : σ} (asked : pool.describe c s = (.crashes message, s')) :
      Prepares [.description c (.crashes message)] s' (.error (.crashed message))
  | failed {e : Error} {s' : σ} (asked : pool.describe c s = (.fails e, s')) :
      Prepares [.description c (.fails e)] s' (.error (.failed e))
  | unbuilt {d : Description} {e : Error} {s' : σ} (asked : pool.describe c s = (.gives d, s'))
      (request : creation.request id d = .error e) :
      Prepares [.description c (.gives d), .event (creation.selection d)] s' (.error (.failed e))
  | built {d : Description} {r : Request} {s' : σ} (asked : pool.describe c s = (.gives d, s'))
      (request : creation.request id d = .ok r) :
      Prepares [.description c (.gives d), .event (creation.selection d)] s' (.ok (d, r))

/-- The round trip of a request. -/
def Request.trip (r : Request) (d : Description) : RoundTrip := ⟨r.name, d.address⟩

/-- What is logged before a request is sent. -/
def Request.started (r : Request) (d : Description) : Event :=
  .commandStarted Creation.operationName r.logText r.database (r.trip d)

/-- What is done with a connection when every call is waited for. The trace is followed by whether
a reply is outstanding at the end. -/
inductive Works : Trace κ → Bool → σ → WorkEnd → Prop where
  | stopped {seg : Trace κ} {s' : σ} {halt : Halt}
      (prepared : Prepares pool creation id c s seg s' (.error halt)) :
      Works seg false s' (.halted halt)
  | crashed {seg : Trace κ} {s' s'' : σ} {d : Description} {r : Request} {message : String}
      (prepared : Prepares pool creation id c s seg s' (.ok (d, r)))
      (sent : pool.exchange c r s' = (.crashes message, s'')) :
      Works (seg ++ [.event (r.started d), .request c r, .reply c (some (.crashes message))])
        true s'' (.halted (.crashed message))
  | answered {seg : Trace κ} {s' s'' : σ} {d : Description} {r : Request}
      {answer : Answer RawDocument} {outcome : Except Error RawDocument}
      (prepared : Prepares pool creation id c s seg s' (.ok (d, r)))
      (sent : pool.exchange c r s' = (answer, s'')) (ready : answer.outcome? = some outcome) :
      Works (seg ++ [.event (r.started d), .request c r, .reply c (some answer)] ++
          (r.trip d).closing ((creation.afterBuild id d).verdict outcome))
        false s'' (.ofVerdict ((creation.afterBuild id d).verdict outcome))

/-- The reply to a request is looked for. -/
inductive Awaits (trip : RoundTrip) : Trace κ → Bool → σ → WorkState → Prop where
  | crashed {message : String} {s' : σ}
      (look : pool.pollReply c s = (some (.crashes message), s')) :
      Awaits trip [.reply c (some (.crashes message))] true s'
        (.ended (.halted (.crashed message)))
  | answered {answer : Answer RawDocument} {outcome : Except Error RawDocument} {s' : σ}
      (look : pool.pollReply c s = (some answer, s')) (ready : answer.outcome? = some outcome) :
      Awaits trip (.reply c (some answer) :: trip.closing (creation.verdict outcome)) false s'
        (.ended (.ofVerdict (creation.verdict outcome)))
  | cancelled {s' : σ} (look : pool.pollReply c s = (none, s'))
      (token : pool.isCancelled s' = true) :
      Awaits trip
        [.reply c none, .token true,
          .event (.operationCancelled Creation.operationName "awaiting the reply"),
          .event (.commandFailed .cancelled trip)] true s'
        (.ended (.halted (.failed .cancelled)))
  | waiting {s' : σ} (look : pool.pollReply c s = (none, s'))
      (token : pool.isCancelled s' = false) :
      Awaits trip [.reply c none, .token false] true s' (.waits creation trip)

/-- What a poll does with a connection that has just been delivered. -/
inductive Begins : Trace κ → Bool → σ → WorkState → Prop where
  | stopped {seg : Trace κ} {s' : σ} {halt : Halt}
      (prepared : Prepares pool creation id c s seg s' (.error halt)) :
      Begins seg false s' (.ended (.halted halt))
  | cancelled {seg : Trace κ} {s' : σ} {d : Description} {r : Request}
      (prepared : Prepares pool creation id c s seg s' (.ok (d, r)))
      (token : pool.isCancelled s' = true) :
      Begins (seg ++ [.token true,
          .event (.operationCancelled Creation.operationName "sending the request")])
        false s' (.ended (.halted (.failed .cancelled)))
  | sent {seg rest : Trace κ} {s' s'' : σ} {d : Description} {r : Request} {inFlight : Bool}
      {w : WorkState} (prepared : Prepares pool creation id c s seg s' (.ok (d, r)))
      (token : pool.isCancelled s' = false)
      (awaits : Awaits pool (creation.afterBuild id d) c (pool.send c r s') (r.trip d)
        rest inFlight s'' w) :
      Begins (seg ++ [.token false, .event (r.started d), .request c r] ++ rest) inFlight s'' w

end Work

/-- Work that goes on waiting has its reply outstanding. -/
theorem Awaits.inFlight_of_waits {pool : Pool σ κ} {creation creation' : Creation} {c : κ}
    {s s' : σ} {trip trip' : RoundTrip} {seg : Trace κ} {inFlight : Bool}
    (h : Awaits pool creation c s trip seg inFlight s' (.waits creation' trip')) :
    inFlight = true := by
  cases h
  rfl

theorem Begins.inFlight_of_waits {pool : Pool σ κ} {creation creation' : Creation} {id : ObjectId}
    {c : κ} {s s' : σ} {trip : RoundTrip} {seg : Trace κ} {inFlight : Bool}
    (h : Begins pool creation id c s seg inFlight s' (.waits creation' trip)) :
    inFlight = true := by
  cases h with
  | sent prepared token awaits => exact awaits.inFlight_of_waits

/-! ## The end of a lease -/

namespace WorkEnd

/-- How far the invocation has come when its connection has gone back. -/
def progress : WorkEnd → Answer Unit → Progress
  | _, .crashes message => .crashed message
  | .done, _ => .returned (.ok ())
  | .halted (.failed e), .gives () => .returned (.error e)
  | .halted (.failed e), .fails secondary => .returned (.error (e.attach secondary))
  | .halted (.crashed message), _ => .crashed message

/-- What is logged when the connection could not go back. -/
def complaint : WorkEnd → Error → List Event
  | .done, e => [.checkInFailedAfterSuccess e]
  | .halted (.failed _), _ => []
  | .halted (.crashed _), e => [.checkInFailedWhileAbandoning e]

/-- The last turn of an invocation, from the end of its work on. -/
def close (pool : Pool σ κ) (c : κ) (inFlight : Bool) (s : σ) (w : WorkEnd) : Turn σ κ :=
  let state := Lease.state { connection := some c, inFlight }
  let back := pool.checkIn c state s
  ⟨w.progress back.1, Act.handedBack c state back.1 ++ Act.complaints w.complaint back.1, back.2⟩

end WorkEnd

/-- The turn of an invocation that is dropped while it holds a connection. -/
def Lease.abandon (pool : Pool σ κ) (c : κ) (inFlight : Bool) (s : σ) : Turn σ κ :=
  let state := Lease.state { connection := some c, inFlight }
  let back := pool.checkIn c state s
  ⟨match back.1 with | .crashes message => .crashed message | _ => .pending,
    Act.handedBack c state back.1 ++
      Act.complaints (fun e => [.checkInFailedWhileAbandoning e]) back.1, back.2⟩

namespace Turn

/-- Puts what happened before in front of a turn. -/
def preceded (t : Turn σ κ) (before : Trace κ) : Turn σ κ := { t with trace := before ++ t.trace }

@[simp] theorem progress_preceded (t : Turn σ κ) (before : Trace κ) :
    (t.preceded before).progress = t.progress := rfl

@[simp] theorem trace_preceded (t : Turn σ κ) (before : Trace κ) :
    (t.preceded before).trace = before ++ t.trace := rfl

@[simp] theorem pool_preceded (t : Turn σ κ) (before : Trace κ) :
    (t.preceded before).pool = t.pool := rfl

end Turn

namespace WorkState

/-- The turn of a poll that did some work. -/
def turn (pool : Pool σ κ) (c : κ) (inFlight : Bool) (s : σ) : WorkState → Turn σ κ
  | .waits _ _ => ⟨.pending, [], s⟩
  | .ended w => w.close pool c inFlight s

/-- The invocation after a poll that did some work. -/
def invocation (i : Invocation κ) (c : κ) (inFlight : Bool) : WorkState → Invocation κ
  | .waits creation trip =>
    { i with stage := .awaitingReply creation trip, lease := some ⟨some c, inFlight⟩ }
  | .ended _ => i.ended

end WorkState

/-! ## Whole turns -/

/-- What the delivery of a connection adds to a trace. -/
def Trace.delivery (c : κ) : Trace κ := [.checkOut (some (.gives c)), .event .checkedOut]

/-- A blocking invocation. -/
inductive Executes (pool : Pool σ κ) (creation : Creation) (id : ObjectId) (s : σ) :
    Turn σ κ → Prop where
  | crashed {message : String} {s' : σ} (asked : pool.checkOut s = (.crashes message, s')) :
      Executes pool creation id s
        ⟨.crashed message, [.checkOut (some (.crashes message))], s'⟩
  | refused {e : Error} {s' : σ} (asked : pool.checkOut s = (.fails e, s')) :
      Executes pool creation id s
        ⟨.returned (.error (Act.checkOutError e)),
          [.checkOut (some (.fails e)), .event (.checkOutFailed e)], s'⟩
  | worked {c : κ} {s' s'' : σ} {seg : Trace κ} {inFlight : Bool} {w : WorkEnd}
      (asked : pool.checkOut s = (.gives c, s'))
      (works : Works pool creation id c s' seg inFlight s'' w) :
      Executes pool creation id s
        ((w.close pool c inFlight s'').preceded (Trace.delivery c ++ seg))

/-- A poll of an invocation that is not over. -/
inductive Polls (pool : Pool σ κ) (s : σ) : Invocation κ → Turn σ κ → Invocation κ → Prop where
  | cancelled {creation : Creation} {id : ObjectId} (token : pool.isCancelled s = true) :
      Polls pool s ⟨creation, id, .checkingOut, none⟩
        ⟨.returned (.error .cancelled), [.token true,
          .event (.operationCancelled Creation.operationName "connection check-out")], s⟩
        ⟨creation, id, .over, none⟩
  | waiting {creation : Creation} {id : ObjectId} {s' : σ} (token : pool.isCancelled s = false)
      (look : pool.pollCheckOut s = (none, s')) :
      Polls pool s ⟨creation, id, .checkingOut, none⟩
        ⟨.pending, [.token false, .checkOut none], s'⟩ ⟨creation, id, .checkingOut, none⟩
  | crashed {creation : Creation} {id : ObjectId} {message : String} {s' : σ}
      (token : pool.isCancelled s = false)
      (look : pool.pollCheckOut s = (some (.crashes message), s')) :
      Polls pool s ⟨creation, id, .checkingOut, none⟩
        ⟨.crashed message, [.token false, .checkOut (some (.crashes message))], s'⟩
        ⟨creation, id, .over, none⟩
  | refused {creation : Creation} {id : ObjectId} {e : Error} {s' : σ}
      (token : pool.isCancelled s = false)
      (look : pool.pollCheckOut s = (some (.fails e), s')) :
      Polls pool s ⟨creation, id, .checkingOut, none⟩
        ⟨.returned (.error (Act.checkOutError e)),
          [.token false, .checkOut (some (.fails e)), .event (.checkOutFailed e)], s'⟩
        ⟨creation, id, .over, none⟩
  | begun {creation : Creation} {id : ObjectId} {c : κ} {s' s'' : σ} {seg : Trace κ}
      {inFlight : Bool} {w : WorkState} (token : pool.isCancelled s = false)
      (look : pool.pollCheckOut s = (some (.gives c), s'))
      (begins : Begins pool creation id c s' seg inFlight s'' w) :
      Polls pool s ⟨creation, id, .checkingOut, none⟩
        ((w.turn pool c inFlight s'').preceded (.token false :: Trace.delivery c ++ seg))
        (w.invocation ⟨creation, id, .checkingOut, none⟩ c inFlight)
  | resumed {creation creation' : Creation} {id : ObjectId} {trip : RoundTrip} {c : κ} {s' : σ}
      {seg : Trace κ} {inFlight : Bool} {w : WorkState}
      (awaits : Awaits pool creation' c s trip seg inFlight s' w) :
      Polls pool s ⟨creation, id, .awaitingReply creation' trip, some ⟨some c, true⟩⟩
        ((w.turn pool c inFlight s').preceded seg)
        (w.invocation ⟨creation, id, .awaitingReply creation' trip, some ⟨some c, true⟩⟩ c inFlight)

theorem Polls.live {pool : Pool σ κ} {s : σ} {i i' : Invocation κ} {turn : Turn σ κ}
    (h : Polls pool s i turn i') : i.isOver = false := by
  cases h <;> rfl

/-- The stages in which an invocation holds what it should. -/
inductive Invocation.Sound : Invocation κ → Prop where
  | checkingOut (creation : Creation) (id : ObjectId) : Sound ⟨creation, id, .checkingOut, none⟩
  | awaitingReply (creation creation' : Creation) (id : ObjectId) (trip : RoundTrip) (c : κ) :
      Sound ⟨creation, id, .awaitingReply creation' trip, some ⟨some c, true⟩⟩
  | finished (creation : Creation) (id : ObjectId) : Sound ⟨creation, id, .over, none⟩

end UserProvision
