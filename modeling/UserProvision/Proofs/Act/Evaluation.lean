import UserProvision.Invocation.Polled

/-!
# What acts do to a scene

The result of each primitive act in a given scene, and of the sequences that acts are composed of.
With these laws an act is evaluated by rewriting, once the answers of the pool are known.
-/

namespace UserProvision.Act

variable {σ κ α β : Type}

/-! ## Sequences -/

@[simp] theorem bind_apply (a : Act σ κ α) (f : α → Act σ κ β) (s : Scene σ κ) :
    (a >>= f) s = match a s with
      | .ok x t => f x t
      | .error halt t => .error halt t := by
  change EStateM.bind a f s = _
  unfold EStateM.bind
  cases a s <;> rfl

@[simp] theorem pure_apply (x : α) (s : Scene σ κ) : (pure x : Act σ κ α) s = .ok x s := rfl

@[simp] theorem map_apply (f : α → β) (a : Act σ κ α) (s : Scene σ κ) :
    (f <$> a) s = match a s with
      | .ok x t => .ok (f x) t
      | .error halt t => .error halt t := by
  change EStateM.map f a s = _
  unfold EStateM.map
  cases a s <;> rfl

@[simp] theorem throw_apply (halt : Halt) (s : Scene σ κ) :
    (throw halt : Act σ κ α) s = .error halt s := rfl

@[simp] theorem tryCatch_apply (a : Act σ κ α) (handler : Halt → Act σ κ α) (s : Scene σ κ) :
    tryCatch a handler s = match a s with
      | .error halt t => handler halt t
      | .ok x t => .ok x t := by
  change EStateM.tryCatch a handler s = _
  delta EStateM.tryCatch
  cases a s <;> rfl

@[simp] theorem get_apply (s : Scene σ κ) : (get : Act σ κ (Scene σ κ)) s = .ok s s := rfl

@[simp] theorem modify_apply (f : Scene σ κ → Scene σ κ) (s : Scene σ κ) :
    (modify f : Act σ κ PUnit) s = .ok ⟨⟩ (f s) := rfl

/-! ## Primitive acts -/

@[simp] theorem record_apply (e : Entry κ) (s : Scene σ κ) :
    record e s = .ok () { s with trace := s.trace ++ [e] } := rfl

@[simp] theorem log_apply (e : Event) (s : Scene σ κ) :
    log e s = .ok () { s with trace := s.trace ++ [.event e] } := rfl

@[simp] theorem ask_apply (pool : Pool σ κ) (call : Call κ α) (s : Scene σ κ) :
    ask pool call s = .ok (pool.perform call s.pool).1 { s with
      pool := (pool.perform call s.pool).2
      trace := s.trace ++ call.entries (pool.perform call s.pool).1 } := rfl

attribute [simp] Pool.perform Call.entries

@[simp] theorem hold_apply (c : κ) (s : Scene σ κ) :
    hold c s = .ok () { s with
      lease := some { connection := some c }, trace := s.trace ++ [.event .checkedOut] } := rfl

@[simp] theorem setInFlight_apply (inFlight : Bool) (s : Scene σ κ) :
    setInFlight inFlight s =
      .ok () { s with lease := s.lease.map fun l => { l with inFlight := inFlight } } := rfl

@[simp] theorem connection_apply (c : κ) (inFlight : Bool) (s : σ) (t : Trace κ) :
    connection ⟨s, some ⟨some c, inFlight⟩, t⟩ = .ok c ⟨s, some ⟨some c, inFlight⟩, t⟩ := rfl

@[simp] theorem isCancelled_apply (pool : Pool σ κ) (s : Scene σ κ) :
    isCancelled pool s =
      .ok (pool.isCancelled s.pool)
        { s with trace := s.trace ++ [.token (pool.isCancelled s.pool)] } := rfl

@[simp] theorem cancelledAt_apply (point : String) (s : Scene σ κ) :
    cancelledAt point s = .ok .cancelled { s with
      trace := s.trace ++ [.event (.operationCancelled Creation.operationName point)] } := rfl

@[simp] theorem ofAnswer_gives (a : α) : (ofAnswer (.gives a) : Act σ κ α) = pure a := rfl

@[simp] theorem ofAnswer_fails (e : Error) :
    (ofAnswer (.fails e) : Act σ κ α) = throw (.failed e) := rfl

@[simp] theorem ofAnswer_crashes (message : String) :
    (ofAnswer (.crashes message) : Act σ κ α) = throw (.crashed message) := rfl

@[simp] theorem outcomeOf_gives (a : α) : (outcomeOf (.gives a) : Act σ κ _) = pure (.ok a) := rfl

@[simp] theorem outcomeOf_fails (e : Error) :
    (outcomeOf (.fails e) : Act σ κ (Except Error α)) = pure (.error e) := rfl

@[simp] theorem outcomeOf_crashes (message : String) :
    (outcomeOf (.crashes message) : Act σ κ (Except Error α)) = throw (.crashed message) := rfl

/-! ## Ending a lease -/

@[simp] theorem drop_empty (pool : Pool σ κ) (inFlight : Bool) (s : σ) (t : Trace κ) :
    drop pool ⟨s, some ⟨none, inFlight⟩, t⟩ = .ok () ⟨s, none, t⟩ := rfl

/-- What a check-in and its answer add to a trace. -/
def handedBack (c : κ) (state : CheckInState) (answer : Answer Unit) : Trace κ :=
  .checkIn c state answer :: match answer with
    | .gives () => [.event (.checkedIn true (state == .abandoned))]
    | .fails _ => [.event (.checkedIn false (state == .abandoned))]
    | .crashes _ => []

/-- What a failure to hand back adds to a trace besides. -/
def complaints (complaint : Error → List Event) : Answer Unit → Trace κ
  | .fails e => (complaint e).map .event
  | _ => []

section Held

variable {pool : Pool σ κ} {c : κ} {inFlight : Bool} {s s' : σ} {answer : Answer Unit}
  (back : pool.checkIn c (Lease.state ⟨some c, inFlight⟩) s = (answer, s')) (t : Trace κ)

include back

theorem handBack_held :
    handBack pool ⟨s, some ⟨some c, inFlight⟩, t⟩ = outcomeOf answer
      ⟨s', some ⟨none, inFlight⟩, t ++ handedBack c (Lease.state ⟨some c, inFlight⟩) answer⟩ := by
  cases answer <;> simp [handBack, back, handedBack, Except.isOk, Except.toBool]

theorem release_held :
    release pool ⟨s, some ⟨some c, inFlight⟩, t⟩ = match answer with
      | .gives () => .ok (.ok ())
          ⟨s', none, t ++ handedBack c (Lease.state ⟨some c, inFlight⟩) answer⟩
      | .fails e => .ok (.error e)
          ⟨s', none, t ++ handedBack c (Lease.state ⟨some c, inFlight⟩) answer⟩
      | .crashes message => .error (.crashed message)
          ⟨s', some ⟨none, inFlight⟩,
            t ++ handedBack c (Lease.state ⟨some c, inFlight⟩) answer⟩ := by
  cases answer <;> simp [release, handBack_held back]

theorem drop_held :
    drop pool ⟨s, some ⟨some c, inFlight⟩, t⟩ = match answer with
      | .crashes message => .error (.crashed message)
          ⟨s', some ⟨none, inFlight⟩,
            t ++ handedBack c (Lease.state ⟨some c, inFlight⟩) answer⟩
      | _ => .ok () ⟨s', none, t ++ handedBack c (Lease.state ⟨some c, inFlight⟩) answer ++
          complaints (fun e => [.checkInFailedWhileAbandoning e]) answer⟩ := by
  cases answer <;> simp [drop, handBack_held back, complaints]

end Held

end UserProvision.Act
