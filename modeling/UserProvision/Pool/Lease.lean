import UserProvision.Pool.Basic

/-!
# Leases

A lease holds a borrowed connection until it is handed back, by whoever ends the lease and at the
latest when the lease is dropped. While a reply is outstanding the connection would go back
abandoned. Work on a pool is an `Act`: it may fail or crash, and what it did up to there stays done.
-/

namespace UserProvision

/-- A borrowed connection, until it is handed back, and whether a reply to it is outstanding. -/
structure Lease (κ : Type) where
  connection : Option κ
  inFlight : Bool := false
  deriving DecidableEq, Repr

namespace Lease

variable {κ : Type}

/-- The condition in which the connection would be handed back now. -/
def state (l : Lease κ) : CheckInState := if l.inFlight then .abandoned else .clean

end Lease

/-- Why work stopped before its end. -/
inductive Halt where
  | failed (e : Error)
  | crashed (message : String)
  deriving Repr

/-- What work on a pool can see and change: the state of the pool, the lease that is held, if any,
and the trace. -/
structure Scene (σ κ : Type) where
  pool : σ
  lease : Option (Lease κ) := none
  trace : Trace κ := []

/-- Work on a pool. -/
abbrev Act (σ κ : Type) := EStateM Halt (Scene σ κ)

namespace Act

variable {σ κ α : Type}

/-- Adds an entry to the trace. -/
def record (e : Entry κ) : Act σ κ Unit := modify fun s => { s with trace := s.trace ++ [e] }

def log (e : Event) : Act σ κ Unit := record (.event e)

/-- Calls the pool. No call goes without its entries. -/
def ask (pool : Pool σ κ) (call : Call κ α) : Act σ κ α :=
  modifyGet fun s =>
    let (answer, left) := pool.perform call s.pool
    (answer, { s with pool := left, trace := s.trace ++ call.entries answer })

/-- Goes on with the value of an answer, or stops. -/
def ofAnswer : Answer α → Act σ κ α
  | .gives a => pure a
  | .fails e => throw (.failed e)
  | .crashes message => throw (.crashed message)

/-- Goes on with the outcome of a call that may have failed; only a crash stops. -/
def outcomeOf : Answer α → Act σ κ (Except Error α)
  | .gives a => pure (.ok a)
  | .fails e => pure (.error e)
  | .crashes message => throw (.crashed message)

/-- Starts the lease of a connection. -/
def hold (c : κ) : Act σ κ Unit := do
  modify fun s => { s with lease := some { connection := some c } }
  log .checkedOut

/-- Notes whether a reply is outstanding. -/
def setInFlight (inFlight : Bool) : Act σ κ Unit :=
  modify fun s => { s with lease := s.lease.map fun l => { l with inFlight := inFlight } }

/-- Changes the leased connection. -/
def change (f : κ → κ) : Act σ κ Unit :=
  modify fun s =>
    { s with lease := s.lease.map fun l => { l with connection := l.connection.map f } }

/-- The leased connection. There is one until the lease has ended. -/
def connection : Act σ κ κ := do
  match (← get).lease.bind Lease.connection with
  | some c => pure c
  | none => throw (.crashed "a connection is only taken when its lease ends")

/-- Hands the connection back, if the lease still holds it. The lease is without it from then on,
even if the pool crashes. -/
def handBack (pool : Pool σ κ) : Act σ κ (Except Error Unit) := do
  match (← get).lease with
  | some { connection := some c, inFlight } =>
    let state := Lease.state { connection := some c, inFlight }
    modify fun s => { s with lease := some { connection := none, inFlight } }
    let result ← outcomeOf (← ask pool (.checkIn c state))
    log (.checkedIn result.isOk (state == .abandoned))
    return result
  | _ => return .ok ()

/-- Drops the lease. A connection that it still holds is handed back; if that fails, only a warning
tells. -/
def drop (pool : Pool σ κ) : Act σ κ Unit := do
  match ← handBack pool with
  | .ok () => pure ()
  | .error e => log (.checkInFailedWhileAbandoning e)
  modify fun s => { s with lease := none }

/-- Ends the lease: hands the connection back, and drops what is left. -/
def release (pool : Pool σ κ) : Act σ κ (Except Error Unit) := do
  let result ← handBack pool
  drop pool
  return result

/-- Ends the lease and joins the result of the work with that of handing back. After a failure of
the work, a failure to hand back is attached to it; after a success, only a warning tells. -/
def finish (pool : Pool σ κ) (result : Except Error α) : Act σ κ α := do
  match result, ← release pool with
  | .ok a, .ok () => return a
  | .ok a, .error e =>
    log (.checkInFailedAfterSuccess e)
    return a
  | .error e, .ok () => throw (.failed e)
  | .error e, .error secondary => throw (.failed (e.attach secondary))

/-- Drops the lease when work crashes. -/
def unwinding (pool : Pool σ κ) (work : Act σ κ α) : Act σ κ α := fun s =>
  match work s with
  | .error (.crashed message) s =>
    match drop pool s with
    | .ok () s => .error (.crashed message) s
    | .error halt s => .error halt s
  | result => result

end Act

/-- What is done with a lease before it ends. -/
inductive Use (κ : Type) where
  | started
  | finished
  | change (f : κ → κ)

/-- How a lease ends. -/
inductive LeaseEnd (α : Type) where
  | release
  | finish (result : Except Error α)
  | drop
  | crash (message : String)

namespace Use

variable {σ κ : Type}

def act : Use κ → Act σ κ Unit
  | .started => Act.setInFlight true
  | .finished => Act.setInFlight false
  | .change f => do
    let _ ← Act.connection
    Act.change f

end Use

namespace Lease

variable {σ κ α : Type}

/-- Borrows a connection and uses it. -/
def uses (c : κ) (us : List (Use κ)) : Act σ κ Unit := do
  Act.hold c
  us.forM Use.act

/-- Ends a lease; the value is that of the finished work, if any. -/
def ending (pool : Pool σ κ) : LeaseEnd α → Act σ κ (Option α)
  | .release => do
    match ← Act.release pool with
    | .ok () => return none
    | .error e => throw (.failed e)
  | .finish result => some <$> Act.finish pool result
  | .drop => do
    Act.drop pool
    return none
  | .crash message => Act.unwinding pool (throw (.crashed message))

end Lease

end UserProvision
