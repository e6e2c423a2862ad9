import UserProvision.Log.Event

/-!
# Pools of connections

A pool lends connections to invocations. It is given by what each call to it answers; `σ` is the
state of the pool and of everything around it, `κ` the type of connections. A call may give a value,
fail, or crash. What an invocation did with a pool is told by the entries of its trace, and every
call has its entries.
-/

namespace UserProvision

/-- How a call ends. -/
inductive Answer (α : Type) where
  | gives (a : α)
  | fails (e : Error)
  | crashes (message : String)
  deriving Repr

/-- The condition in which a connection is handed back. -/
inductive CheckInState where
  /-- No reply is outstanding. -/
  | clean
  /-- A request was sent whose reply was not read. -/
  | abandoned
  deriving DecidableEq, Repr

namespace CheckInState

def name : CheckInState → String
  | .clean => "Clean"
  | .abandoned => "Abandoned"

end CheckInState

/-- A pool as invocations see it. A polled call answers `none` as long as it is not done. -/
structure Pool (σ κ : Type) where
  /-- Waits for a connection. -/
  checkOut : σ → Answer κ × σ
  /-- Looks whether a connection has arrived. The first look also asks for one, just before: whoever
  asks and finds at once that the invocation has been cancelled does not look, and gets none. -/
  pollCheckOut : σ → Option (Answer κ) × σ
  /-- Tells the server at the other end of a connection. -/
  describe : κ → σ → Answer Description × σ
  /-- Sends a request and waits for the reply. -/
  exchange : κ → Request → σ → Answer RawDocument × σ
  /-- Sends a request. -/
  send : κ → Request → σ → σ
  /-- Looks whether the reply to the request has arrived. -/
  pollReply : κ → σ → Option (Answer RawDocument) × σ
  /-- Takes a connection back. -/
  checkIn : κ → CheckInState → σ → Answer Unit × σ
  /-- Whether the invocation has been cancelled. -/
  isCancelled : σ → Bool

/-- What an invocation did, saw or logged. -/
inductive Entry (κ : Type) where
  | checkOut (answer : Option (Answer κ))
  | token (isCancelled : Bool)
  | description (c : κ) (answer : Answer Description)
  | request (c : κ) (r : Request)
  | reply (c : κ) (answer : Option (Answer RawDocument))
  | checkIn (c : κ) (state : CheckInState) (answer : Answer Unit)
  | event (e : Event)
  deriving Repr

namespace Entry

variable {κ : Type}

def event? : Entry κ → Option Event
  | .event e => some e
  | _ => none

def request? : Entry κ → Option Request
  | .request _ r => some r
  | _ => none

def checkIn? : Entry κ → Option (κ × CheckInState)
  | .checkIn c state _ => some (c, state)
  | _ => none

/-- The connection that was delivered. -/
def delivered? : Entry κ → Option κ
  | .checkOut (some (.gives c)) => some c
  | _ => none

end Entry

/-- The entries of an invocation, in order. -/
abbrev Trace (κ : Type) := List (Entry κ)

/-- A call to a pool, by what it answers. -/
inductive Call (κ : Type) : Type → Type where
  | checkOut : Call κ (Answer κ)
  | pollCheckOut : Call κ (Option (Answer κ))
  | describe (c : κ) : Call κ (Answer Description)
  | exchange (c : κ) (r : Request) : Call κ (Answer RawDocument)
  | send (c : κ) (r : Request) : Call κ Unit
  | pollReply (c : κ) : Call κ (Option (Answer RawDocument))
  | checkIn (c : κ) (state : CheckInState) : Call κ (Answer Unit)

/-- What a call and its answer add to a trace. -/
def Call.entries {κ α : Type} : Call κ α → α → Trace κ
  | .checkOut, answer => [.checkOut (some answer)]
  | .pollCheckOut, answer => [.checkOut answer]
  | .describe c, answer => [.description c answer]
  | .exchange c r, answer => [.request c r, .reply c (some answer)]
  | .send c r, () => [.request c r]
  | .pollReply c, answer => [.reply c answer]
  | .checkIn c state, answer => [.checkIn c state answer]

/-- What a pool does when it is called. -/
def Pool.perform {σ κ α : Type} (pool : Pool σ κ) : Call κ α → σ → α × σ
  | .checkOut => pool.checkOut
  | .pollCheckOut => pool.pollCheckOut
  | .describe c => pool.describe c
  | .exchange c r => pool.exchange c r
  | .send c r => fun s => ((), pool.send c r s)
  | .pollReply c => pool.pollReply c
  | .checkIn c state => pool.checkIn c state

namespace Trace

variable {κ : Type}

def events (t : Trace κ) : List Event := t.filterMap Entry.event?

def requests (t : Trace κ) : List Request := t.filterMap Entry.request?

def checkIns (t : Trace κ) : List (κ × CheckInState) := t.filterMap Entry.checkIn?

def delivered (t : Trace κ) : List κ := t.filterMap Entry.delivered?

end Trace

end UserProvision
