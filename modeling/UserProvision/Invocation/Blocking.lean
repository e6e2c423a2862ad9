import UserProvision.Creation.Basic
import UserProvision.Pool.Lease

/-!
# Blocking invocations

An invocation borrows a connection, builds the request that suits its server, sends it, reads the
reply and hands the connection back. Here every call waits until it is done.
-/

namespace UserProvision

namespace Act

variable {σ κ : Type}

/-- The error for a connection that could not be borrowed. Unless it says already that there is no
connection, or that the invocation was cancelled, it becomes the source of an error that does. -/
def checkOutError (e : Error) : Error :=
  match e.kind with
  | .connectionUnavailable _ | .cancelled => e
  | _ => (Error.connectionUnavailable
      (e.quotedAfter "the binding failed to supply a connection: ")).attach e

/-- Goes on with a borrowed connection, or says why there is none. -/
def delivered (answer : Answer κ) : Act σ κ κ := do
  match ← outcomeOf answer with
  | .ok c => return c
  | .error e =>
    log (.checkOutFailed e)
    throw (.failed (checkOutError e))

/-- Asks the leased connection about its server. -/
def describe (pool : Pool σ κ) : Act σ κ Description := do
  ofAnswer (← ask pool (.describe (← connection)))

/-- Builds the request for a server; the creation then knows by which strategy to read the reply. -/
def build (creation : Creation) (id : ObjectId) (d : Description) :
    Act σ κ (Creation × Request) := do
  log (creation.selection d)
  match creation.request id d with
  | .ok request => return (creation.afterBuild id d, request)
  | .error e => throw (.failed e)

/-- Logs that a request is about to be sent. From then on its reply is outstanding. -/
def startTrip (request : Request) (d : Description) : Act σ κ RoundTrip := do
  let trip : RoundTrip := ⟨request.name, d.address⟩
  log (.commandStarted Creation.operationName request.logText request.database trip)
  setInFlight true
  return trip

/-- Reads the reply, or the error in place of one, and logs how the round trip ended. -/
def conclude (creation : Creation) (trip : RoundTrip) (reply : Except Error RawDocument) :
    Act σ κ Unit := do
  let outcome := match reply with
    | .ok reply => creation.handleReply reply
    | .error e => creation.handleFault e
  match outcome with
  | .ok acknowledgment =>
    log acknowledgment
    log (.commandSucceeded trip)
  | .error e =>
    log (.commandFailed e trip)
    throw (.failed e)

/-- Goes on with what work on a lease ended with: the lease is finished, or dropped after a
crash. -/
def settle {α : Type} (pool : Pool σ κ) (work : Act σ κ α) : Act σ κ α := do
  let result ← unwinding pool <| tryCatch (Except.ok <$> work) fun
    | .failed e => return .error e
    | .crashed message => throw (.crashed message)
  finish pool result

/-- What is done with a borrowed connection. -/
def work (pool : Pool σ κ) (creation : Creation) (id : ObjectId) : Act σ κ Unit := do
  let d ← describe pool
  let (creation, request) ← build creation id d
  let trip ← startTrip request d
  let reply ← outcomeOf (← ask pool (.exchange (← connection) request))
  setInFlight false
  conclude creation trip reply

/-- A whole invocation. -/
def invoke (pool : Pool σ κ) (creation : Creation) (id : ObjectId) : Act σ κ Unit := do
  let c ← delivered (← ask pool .checkOut)
  hold c
  settle pool (work pool creation id)

end Act

/-- How far an invocation has come. -/
inductive Progress where
  | pending
  | returned (result : Except Error Unit)
  | crashed (message : String)
  deriving Repr

/-- What a step of an invocation led to: its progress, its entries and the state of the pool. -/
structure Turn (σ κ : Type) where
  progress : Progress
  trace : Trace κ
  pool : σ

namespace Turn

variable {σ κ : Type}

def events (t : Turn σ κ) : List Event := t.trace.events

end Turn

namespace Halt

def progress : Halt → Progress
  | .failed e => .returned (.error e)
  | .crashed message => .crashed message

end Halt

/-- Creates a user on a connection of the pool, waiting for every call. -/
def NewUser.execute {σ κ : Type} (u : NewUser) (pool : Pool σ κ) (id : ObjectId) (s : σ) :
    Turn σ κ :=
  match Act.invoke pool { user := u } id { pool := s } with
  | .ok () scene => ⟨.returned (.ok ()), scene.trace, scene.pool⟩
  | .error halt scene => ⟨halt.progress, scene.trace, scene.pool⟩

end UserProvision
