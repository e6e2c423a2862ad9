import UserProvision.Invocation.Blocking

/-!
# Polled invocations

An invocation that never waits: each poll goes on as far as it can and then says whether it is done.
It can be suspended while a connection is awaited and while the reply is awaited. At a check-out a
cancellation is looked for first, while for a reply the reply is, so that one that has arrived
always counts. A suspended invocation that is dropped hands back the connection that it holds.
-/

namespace UserProvision

/-- Where a polled invocation is suspended. -/
inductive Stage where
  | checkingOut
  | awaitingReply (creation : Creation) (trip : RoundTrip)
  | over
  deriving DecidableEq, Repr

namespace Act

variable {σ κ : Type}

/-- Looks whether the invocation has been cancelled. -/
def isCancelled (pool : Pool σ κ) : Act σ κ Bool := do
  let answer := pool.isCancelled (← get).pool
  record (.token answer)
  return answer

/-- The error for a cancellation that is noticed at some point. -/
def cancelledAt (point : String) : Act σ κ Error := do
  log (.operationCancelled Creation.operationName point)
  return .cancelled

/-- Looks for the reply. While there is none, a cancellation ends the round trip, and the reply
stays outstanding. -/
def awaitReply (pool : Pool σ κ) (creation : Creation) (trip : RoundTrip) : Act σ κ Stage := do
  match ← ask pool (.pollReply (← connection)) with
  | some answer =>
    let reply ← outcomeOf answer
    setInFlight false
    conclude creation trip reply
    return .over
  | none =>
    if ← isCancelled pool then
      let e ← cancelledAt "awaiting the reply"
      conclude creation trip (.error e)
      return .over
    else return .awaitingReply creation trip

/-- What is done with a connection when it has arrived, up to the wait for the reply. -/
def startWork (pool : Pool σ κ) (creation : Creation) (id : ObjectId) : Act σ κ Stage := do
  let d ← describe pool
  let (creation, request) ← build creation id d
  if ← isCancelled pool then throw (.failed (← cancelledAt "sending the request"))
  let trip ← startTrip request d
  ask pool (.send (← connection) request)
  awaitReply pool creation trip

/-- Like `settle`, but work that is not over keeps its lease. -/
def settleStage (pool : Pool σ κ) (work : Act σ κ Stage) : Act σ κ Stage := do
  let result ← unwinding pool <| tryCatch (Except.ok <$> work) fun
    | .failed e => return .error e
    | .crashed message => throw (.crashed message)
  match result with
  | .ok .over => finish pool (.ok .over)
  | .ok stage => return stage
  | .error e => finish pool (.error e)

/-- Goes on from a stage as far as possible. The future of a connection is asked for even before the
token is looked at for the first time; nothing comes of it until it is polled, so that asking counts
as part of the first poll (`Pool.pollCheckOut`). -/
def advance (pool : Pool σ κ) (creation : Creation) (id : ObjectId) : Stage → Act σ κ Stage
  | .checkingOut => do
    if ← isCancelled pool then throw (.failed (← cancelledAt "connection check-out"))
    match ← ask pool .pollCheckOut with
    | none => return .checkingOut
    | some answer =>
      let c ← delivered answer
      hold c
      settleStage pool (startWork pool creation id)
  | .awaitingReply creation trip => settleStage pool (awaitReply pool creation trip)
  | .over => return .over

end Act

/-- An invocation that is polled. -/
structure Invocation (κ : Type) where
  creation : Creation
  id : ObjectId
  stage : Stage := .checkingOut
  lease : Option (Lease κ) := none
  deriving Repr

namespace Invocation

variable {σ κ : Type}

/-- An invocation that has not been polled yet. -/
def start (u : NewUser) (id : ObjectId) : Invocation κ := { creation := { user := u }, id }

/-- What is left of an invocation that has ended. -/
def ended (i : Invocation κ) : Invocation κ := { i with stage := .over, lease := none }

/-- Goes on as far as possible. -/
def poll (pool : Pool σ κ) (i : Invocation κ) (s : σ) : Turn σ κ × Invocation κ :=
  match Act.advance pool i.creation i.id i.stage { pool := s, lease := i.lease } with
  | .ok .over scene => (⟨.returned (.ok ()), scene.trace, scene.pool⟩, i.ended)
  | .ok stage scene =>
    (⟨.pending, scene.trace, scene.pool⟩, { i with stage := stage, lease := scene.lease })
  | .error halt scene => (⟨halt.progress, scene.trace, scene.pool⟩, i.ended)

/-- Gives up the invocation where it is. -/
def drop (pool : Pool σ κ) (i : Invocation κ) (s : σ) : Turn σ κ × Invocation κ :=
  match Act.drop pool { pool := s, lease := i.lease } with
  | .ok () scene => (⟨.pending, scene.trace, scene.pool⟩, i.ended)
  | .error halt scene => (⟨halt.progress, scene.trace, scene.pool⟩, i.ended)

/-- Whether there is nothing left to poll. -/
def isOver (i : Invocation κ) : Bool := i.stage == .over

end Invocation

end UserProvision
