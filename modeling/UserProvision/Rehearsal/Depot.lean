import UserProvision.Pool.Lease

/-!
# Rehearsed leases

A depot lends nothing; it takes connections back, always with the same answer. With it a lease can
be rehearsed by itself, without an invocation around it.
-/

namespace UserProvision.Rehearsal

variable {κ α : Type}

/-- What a depot answers to anything but a check-in. -/
def lendsNothing : Error := .connectionUnavailable "a depot lends no connections"

/-- A pool that does nothing but take connections back, each time failing with the fault, if any. -/
def depot (fault : Option Error) : Pool Unit κ where
  checkOut s := (.fails lendsNothing, s)
  pollCheckOut s := (some (.fails lendsNothing), s)
  describe _ s := (.fails lendsNothing, s)
  exchange _ _ s := (.fails lendsNothing, s)
  send _ _ s := s
  pollReply _ s := (some (.fails lendsNothing), s)
  checkIn _ _ s := (match fault with | some e => .fails e | none => .gives (), s)
  isCancelled _ := false

/-- How a lease went: the connection before the end, what the end led to, and the trace. -/
structure Lending (κ α : Type) where
  connection : Option κ
  outcome : Except Halt (Option α)
  trace : Trace κ

/-- A lease from its start to its end. -/
def lend (fault : Option Error) (c : κ) (uses : List (Use κ)) (ending : LeaseEnd α) : Lending κ α :=
  match Lease.uses c uses ({ pool := () } : Scene Unit κ) with
  | .error halt scene => ⟨none, .error halt, scene.trace⟩
  | .ok () scene =>
    let connection := scene.lease.bind Lease.connection
    match Lease.ending (depot fault) ending scene with
    | .ok a scene => ⟨connection, .ok a, scene.trace⟩
    | .error halt scene => ⟨connection, .error halt, scene.trace⟩

end UserProvision.Rehearsal
