import UserProvision.Proofs.Invocation.Failures
import UserProvision.Proofs.Pool.Calls

/-!
# The log is well bracketed

The events of an invocation come in fixed phases, each at most once, and tell what happened: that a
connection was delivered, that a request was sent, how its round trip ended, that the connection
went back, and that nobody but the log knows of a failure to hand it back. `WorkLog` lists what can
be logged between delivery and hand-back; the properties of whole logs are read off these lists.

The log is compared with the calls that its trace tells of. That these are the calls that were made
is shown in `Proofs.Pool.Calls`; `Run.starts_called` counts them where the pool writes them down.

## Main definitions

* `Event.phase` — the place of an event in the course of an invocation.
* `Trace.Closes` — how the round trip of a request is closed in the log.
* `Trace.WellBracketed` — what a log says, and in which order.

## Main results

* `WorkLog.wellBracketed` — a connection in use and its hand-back.
* `log_well_bracketed` — the logs of all invocations.
-/

namespace UserProvision

variable {σ κ : Type}

/-! ## What a log should say -/

/-- The place of an event in the course of an invocation. -/
def Event.phase : Event → Nat
  | .checkedOut | .checkOutFailed .. => 0
  | .strategySelected .. => 1
  | .commandStarted .. => 2
  | .operationCancelled .. | .userCreated .. | .userInserted .. => 3
  | .commandSucceeded .. | .commandFailed .. => 4
  | .checkedIn .. => 5
  | .checkInFailedAfterSuccess .. | .checkInFailedWhileAbandoning .. => 6

/-- The events of a log that have a message. -/
def Event.named (message : String) (log : List Event) : List Event :=
  log.filter (·.message == message)

/-- Whether a call did what it should. -/
def Answer.isGiven {α : Type} : Answer α → Bool
  | .gives _ => true
  | _ => false

/-- The error that a call failed with. -/
def Answer.failure? {α : Type} : Answer α → Option Error
  | .fails e => some e
  | _ => none

/-- What an event tells of a check-in. -/
def Event.ofCheckIn (back : CheckInState × Answer Unit) : Event :=
  .checkedIn back.2.isGiven (back.1 == .abandoned)

/-- The condition in which a connection was handed back, and what the pool answered. -/
def Entry.handBack? : Entry κ → Option (CheckInState × Answer Unit)
  | .checkIn _ state answer => some (state, answer)
  | _ => none

namespace Trace

def logged (t : Trace κ) (message : String) : List Event := Event.named message t.events

def handBacks (t : Trace κ) : List (CheckInState × Answer Unit) := t.filterMap Entry.handBack?

/-- The errors of the check-ins that failed. -/
def checkInFailures (t : Trace κ) : List Error := t.handBacks.filterMap (·.2.failure?)

/-- How a round trip is closed when its invocation has come to some progress. -/
inductive Closes (t : Trace κ) (trip : RoundTrip) : Progress → Prop
  /-- The work succeeded. What the server acknowledged was logged directly before. -/
  | succeeded {acknowledgment : Event} (level : acknowledgment.level = "TRACE")
    (adjacent : [acknowledgment, .commandSucceeded trip] <:+: t.events)
    (succeeded : t.logged "Command succeeded" = [.commandSucceeded trip])
    (failed : t.logged "Command failed" = []) : Closes t trip (.returned (.ok ()))
  /-- The work failed, and the log shows the text of its error. What is returned is that error, with
  the one of the check-in if that failed. -/
  | failed {e : Error} (failed : t.logged "Command failed" = [.commandFailed e trip])
    (succeeded : t.logged "Command succeeded" = []) :
    Closes t trip (.returned (.error (e.attach? t.checkInFailures.head?)))
  /-- The reply is awaited, or was when the invocation was given up. -/
  | awaited (succeeded : t.logged "Command succeeded" = [])
    (failed : t.logged "Command failed" = []) : Closes t trip .pending

end Trace

/-- No call crashed the invocation. -/
def Progress.IsSane (progress : Progress) : Prop := ∀ message, progress ≠ .crashed message

/-- The warnings about check-ins that failed. There are none if the failure is part of an error that
is returned. -/
def Progress.warnings (failures : List Error) : Progress → List Event
  | .returned (.ok ()) => failures.map fun e => .checkInFailedAfterSuccess e
  | .returned (.error _) => []
  | _ => failures.map fun e => .checkInFailedWhileAbandoning e

/-- What the log of an invocation says, and in which order. -/
structure Trace.WellBracketed (t : Trace κ) (progress : Progress) : Prop where
  /-- Of each phase there is at most one event, and it comes after all events of earlier phases. -/
  ordered : t.events.Pairwise fun e later => e.phase < later.phase
  delivered_le : t.delivered.length ≤ 1
  requests_le : t.requests.length ≤ 1
  checkedOut : (t.logged "Connection checked out").length = t.delivered.length
  selected : (t.logged "Selected user creation strategy").length ≤
    (t.logged "Connection checked out").length
  started : (t.logged "Command started").length = t.requests.length
  closes : ∀ operation command database trip,
    .commandStarted operation command database trip ∈ t.events → t.Closes trip progress
  unsent : t.requests = [] → t.logged "Command succeeded" = [] ∧ t.logged "Command failed" = []
  checkedIn : t.logged "Connection checked in" = t.handBacks.map .ofCheckIn
  warned : t.events.filter (·.level == "WARN") = progress.warnings t.checkInFailures

/-! ## What work on a connection logs -/

/-- What is logged about a round trip after its start, and how the work ended; it has not if the
reply is awaited. -/
inductive RoundTrip.Log (trip : RoundTrip) : List Event → Option (Except Error Unit) → Prop where
  | acknowledged {acknowledgment : Event} (level : acknowledgment.level = "TRACE") :
    Log trip [acknowledgment, .commandSucceeded trip] (some (.ok ()))
  | failed (e : Error) : Log trip [.commandFailed e trip] (some (.error e))
  | cancelled :
    Log trip [.operationCancelled Creation.operationName "awaiting the reply",
      .commandFailed .cancelled trip] (some (.error .cancelled))
  | awaited : Log trip [] none

/-- What is logged while a connection is in use, the requests that are sent on it, and how the work
ended. -/
inductive WorkLog : List Event → List Request → Option (Except Error Unit) → Prop where
  | undescribed (e : Error) : WorkLog [] [] (some (.error e))
  | unbuilt (c : Creation) (d : Description) (e : Error) :
    WorkLog [c.selection d] [] (some (.error e))
  | unsent (c : Creation) (d : Description) :
    WorkLog [c.selection d, .operationCancelled Creation.operationName "sending the request"] []
      (some (.error .cancelled))
  | sent (c : Creation) (d : Description) (r : Request) {log : List Event}
    {x : Option (Except Error Unit)} (after : (r.trip d).Log log x) :
    WorkLog (c.selection d :: r.started d :: log) [r] x

namespace Event

/-- Messages and the phases of their events. -/
def phases : List (String × Nat) :=
  [("Connection checked out", 0), ("Selected user creation strategy", 1), ("Command started", 2),
    ("Command succeeded", 4), ("Command failed", 4), ("Connection checked in", 5)]

theorem phase_of_message {e : Event} {n : Nat} (h : (e.message, n) ∈ phases) : e.phase = n := by
  cases e <;> simp_all [phases, message, phase]

theorem phase_of_trace {e : Event} (h : e.level = "TRACE") : e.phase = 3 := by
  cases e <;> simp_all [level, phase]

theorem phase_of_warn {e : Event} (h : e.level = "WARN") : e.phase = 6 := by
  cases e <;> simp_all [level, phase]

@[simp] theorem named_nil (message : String) : named message [] = [] := rfl

@[simp] theorem named_cons (message : String) (e : Event) (log : List Event) :
    named message (e :: log) =
      if e.message = message then e :: named message log else named message log := by
  simp [named, List.filter_cons]

@[simp] theorem named_append (message : String) (log log' : List Event) :
    named message (log ++ log') = named message log ++ named message log' :=
  List.filter_append ..

theorem named_eq_nil {message : String} {n : Nat} {log : List Event} (h : (message, n) ∈ phases)
    (other : ∀ e ∈ log, e.phase ≠ n) : named message log = [] := by
  refine List.filter_eq_nil_iff.mpr fun e mem same => other e mem (phase_of_message ?_)
  rwa [beq_iff_eq.mp same]

theorem warnings_eq_nil {log : List Event} (other : ∀ e ∈ log, e.phase ≠ 6) :
    log.filter (·.level == "WARN") = [] :=
  List.filter_eq_nil_iff.mpr fun e mem warn => other e mem (phase_of_warn (beq_iff_eq.mp warn))

theorem ordered_of_length_le {log : List Event} (single : log.length ≤ 1) :
    log.Pairwise fun e later => e.phase < later.phase := by
  rcases Nat.le_one_iff_eq_zero_or_eq_one.mp single with none | one
  · rw [List.eq_nil_of_length_eq_zero none]
    exact .nil
  · obtain ⟨e, rfl⟩ := List.length_eq_one_iff.mp one
    exact List.pairwise_singleton ..

end Event

/-- The phases of a log go up, and lie between two bounds. -/
structure Event.Spans (first last : Nat) (log : List Event) : Prop where
  ordered : log.Pairwise fun e later => e.phase < later.phase
  first_le : ∀ e ∈ log, first ≤ e.phase
  le_last : ∀ e ∈ log, e.phase ≤ last

namespace Event.Spans

variable {first last first' last' : Nat} {log log' : List Event}

theorem nil : Spans first last [] := ⟨.nil, List.forall_mem_nil _, List.forall_mem_nil _⟩

theorem cons {e : Event} (n : Nat) (h : Spans first last log) (phase : e.phase = n)
    (place : n < first ∧ n ≤ last) : Spans n last (e :: log) where
  ordered := .cons (fun e' mem => by have := h.first_le e' mem; omega) h.ordered
  first_le e' mem := by
    rcases List.mem_cons.mp mem with rfl | mem
    · omega
    · have := h.first_le e' mem
      omega
  le_last e' mem := by
    rcases List.mem_cons.mp mem with rfl | mem
    · omega
    · exact h.le_last e' mem

/-- A log of at most one event spans its phase. -/
theorem of_length_le {n : Nat} (single : log.length ≤ 1) (phase : ∀ e ∈ log, e.phase = n) :
    Spans n n log where
  ordered := ordered_of_length_le single
  first_le e mem := Nat.le_of_eq (phase e mem).symm
  le_last e mem := Nat.le_of_eq (phase e mem)

/-- A log of later phases can follow. -/
theorem append (h : Spans first last log) (h' : Spans first' last' log')
    (later : first ≤ first' ∧ last < first' ∧ last ≤ last') :
    Spans first last' (log ++ log') where
  ordered := by
    refine List.pairwise_append.mpr ⟨h.ordered, h'.ordered, fun e mem e' mem' => ?_⟩
    have := h.le_last e mem
    have := h'.first_le e' mem'
    omega
  first_le e mem := by
    rcases List.mem_append.mp mem with mem | mem
    · exact h.first_le e mem
    · have := h'.first_le e mem
      omega
  le_last e mem := by
    rcases List.mem_append.mp mem with mem | mem
    · have := h.le_last e mem
      omega
    · exact h'.le_last e mem

theorem named_eq_nil (h : Spans first last log) (message : String) (n : Nat)
    (phase : (message, n) ∈ phases) (outside : n < first ∨ last < n) : named message log = [] := by
  refine Event.named_eq_nil phase fun e mem same => ?_
  have := h.first_le e mem
  have := h.le_last e mem
  omega

theorem warnings_eq_nil (h : Spans first last log) (before : last < 6) :
    log.filter (·.level == "WARN") = [] := by
  refine Event.warnings_eq_nil fun e mem same => ?_
  have := h.le_last e mem
  omega

end Event.Spans

theorem RoundTrip.Log.spans {trip : RoundTrip} {log : List Event} {x : Option (Except Error Unit)}
    (h : trip.Log log x) : Event.Spans 3 4 log := by
  have closed {e : Event} (fourth : e.phase = 4) : Event.Spans 4 4 [e] :=
    Event.Spans.cons 4 (@Event.Spans.nil 5 4) fourth (by decide)
  cases h with
  | acknowledged level => exact .cons 3 (closed rfl) (Event.phase_of_trace level) (by decide)
  | failed e => exact (@Event.Spans.nil 3 3).append (closed rfl) (by decide)
  | cancelled => exact .cons 3 (closed rfl) rfl (by decide)
  | awaited => exact .nil

theorem WorkLog.spans {log : List Event} {rs : List Request} {x : Option (Except Error Unit)}
    (h : WorkLog log rs x) : Event.Spans 1 4 log := by
  cases h with
  | undescribed => exact .nil
  | unbuilt => exact .cons 1 (@Event.Spans.nil 5 4) rfl (by decide)
  | unsent => exact .cons 1 (.cons 3 (@Event.Spans.nil 5 4) rfl (by decide)) rfl (by decide)
  | sent c d r after => exact .cons 1 (.cons 2 after.spans rfl (by decide)) rfl (by decide)

/-! ### What it says -/

namespace WorkLog

variable {log : List Event} {rs : List Request} {x : Option (Except Error Unit)}

theorem requests_le (h : WorkLog log rs x) : rs.length ≤ 1 := by
  cases h <;> simp

theorem selected_le (h : WorkLog log rs x) :
    (Event.named "Selected user creation strategy" log).length ≤ 1 := by
  cases h with
  | undescribed | unbuilt | unsent => simp [Creation.selection, Event.message]
  | sent c d r after =>
    have rest := after.spans.named_eq_nil "Selected user creation strategy" 1 (by decide)
      (by decide)
    simp [rest, Creation.selection, Request.started, Event.message]

theorem started (h : WorkLog log rs x) :
    (Event.named "Command started" log).length = rs.length := by
  cases h with
  | undescribed | unbuilt | unsent => simp [Creation.selection, Event.message]
  | sent c d r after =>
    have rest := after.spans.named_eq_nil "Command started" 2 (by decide) (by decide)
    simp [rest, Creation.selection, Request.started, Event.message]

/-- A request that was started is the one that was sent, and its round trip is logged next. -/
theorem exists_log_of_mem (h : WorkLog log rs x) {operation command database : String}
    {trip : RoundTrip} (mem : .commandStarted operation command database trip ∈ log) :
    ∃ opening after, log = opening ++ after ∧ Event.Spans 1 2 opening ∧ trip.Log after x := by
  cases h with
  | undescribed => cases mem
  | unbuilt => simp [Creation.selection] at mem
  | unsent => simp [Creation.selection] at mem
  | @sent c d r after _ tripLog =>
    have opened : Event.Spans 1 2 [c.selection d, r.started d] :=
      .cons 1 (.cons 2 (@Event.Spans.nil 3 2) rfl (by decide)) rfl (by decide)
    have same : trip = r.trip d := by
      rcases List.mem_cons.mp mem with selected | mem
      · cases selected
      rcases List.mem_cons.mp mem with started | mem
      · cases started
        rfl
      · exact absurd (tripLog.spans.first_le _ mem) (by simp [Event.phase])
    exact ⟨_, after, rfl, opened, same ▸ tripLog⟩

theorem unsent_closes (h : WorkLog log [] x) :
    Event.named "Command succeeded" log = [] ∧ Event.named "Command failed" log = [] := by
  cases h <;> simp [Creation.selection, Event.message]

end WorkLog

/-! ## A connection in use and its hand-back -/

/-- The progress of an invocation after its work, given the error of the check-in if that failed. -/
def Progress.concluding : Option (Except Error Unit) → Option Error → Progress
  | none, _ => .pending
  | some (.ok ()), _ => .returned (.ok ())
  | some (.error e), failure => .returned (.error (e.attach? failure))

namespace Trace

/-- What is logged when a connection goes back. -/
def closing (t : Trace κ) (progress : Progress) : List Event :=
  t.handBacks.map .ofCheckIn ++ progress.warnings t.checkInFailures

/-- A connection was delivered, the work on it logged and ended with something, and the connection
was handed back at most once. -/
structure Served (t : Trace κ) (log : List Event) (x : Option (Except Error Unit)) : Prop where
  delivered : t.delivered.length = 1
  handBacks : t.handBacks.length ≤ 1
  work : WorkLog log t.requests x
  events : t.events =
    .checkedOut :: log ++ t.closing (.concluding x t.checkInFailures.head?)

variable {t : Trace κ} {progress : Progress}

theorem level_of_mem_warnings {failures : List Error} {e : Event}
    (mem : e ∈ progress.warnings failures) : e.level = "WARN" := by
  unfold Progress.warnings at mem
  split at mem
  · obtain ⟨_, -, rfl⟩ := List.mem_map.mp mem
    rfl
  · cases mem
  · obtain ⟨_, -, rfl⟩ := List.mem_map.mp mem
    rfl

theorem length_warnings_le (failures : List Error) (progress : Progress) :
    (progress.warnings failures).length ≤ failures.length := by
  unfold Progress.warnings
  split <;> simp

theorem spans_checkedIn (single : t.handBacks.length ≤ 1) :
    Event.Spans 5 5 (t.handBacks.map .ofCheckIn) := by
  refine .of_length_le (by rwa [List.length_map]) fun e mem => ?_
  obtain ⟨_, -, rfl⟩ := List.mem_map.mp mem
  rfl

theorem spans_warnings (single : t.handBacks.length ≤ 1) (progress : Progress) :
    Event.Spans 6 6 (progress.warnings t.checkInFailures) := by
  have failures : t.checkInFailures.length ≤ t.handBacks.length := List.length_filterMap_le ..
  have warnings := length_warnings_le t.checkInFailures progress
  exact .of_length_le (by omega) fun e mem => Event.phase_of_warn (level_of_mem_warnings mem)

theorem spans_closing (single : t.handBacks.length ≤ 1) (progress : Progress) :
    Event.Spans 5 6 (t.closing progress) :=
  (spans_checkedIn single).append (spans_warnings single progress) (by decide)

theorem checkedIn_closing (single : t.handBacks.length ≤ 1) (progress : Progress) :
    Event.named "Connection checked in" (t.closing progress) = t.handBacks.map .ofCheckIn := by
  have warnings := (spans_warnings single progress).named_eq_nil "Connection checked in" 5
    (by decide) (by decide)
  rw [closing, Event.named_append, warnings, List.append_nil]
  refine List.filter_eq_self.mpr fun e mem => ?_
  obtain ⟨_, -, rfl⟩ := List.mem_map.mp mem
  rfl

theorem warnings_closing (single : t.handBacks.length ≤ 1) (progress : Progress) :
    (t.closing progress).filter (·.level == "WARN") = progress.warnings t.checkInFailures := by
  rw [closing, List.filter_append, (spans_checkedIn single).warnings_eq_nil (by decide),
    List.nil_append]
  exact List.filter_eq_self.mpr fun e mem => beq_iff_eq.mpr (level_of_mem_warnings mem)

end Trace

/-- The log of a round trip closes it. -/
theorem RoundTrip.Log.closes {t : Trace κ} {trip : RoundTrip} {log : List Event}
    {x : Option (Except Error Unit)} (h : trip.Log log x)
    (succeeded : t.logged "Command succeeded" = Event.named "Command succeeded" log)
    (failed : t.logged "Command failed" = Event.named "Command failed" log)
    (inside : log <:+: t.events) : t.Closes trip (.concluding x t.checkInFailures.head?) := by
  cases h with
  | @acknowledged acknowledgment level =>
    have third := Event.phase_of_trace level
    have rest {message : String} (phase : (message, 4) ∈ Event.phases) :
        Event.named message [acknowledgment, .commandSucceeded trip] =
          Event.named message [.commandSucceeded trip] := by
      rw [← List.singleton_append, Event.named_append,
        Event.named_eq_nil phase (by simp [third]), List.nil_append]
    exact .succeeded level inside (succeeded.trans (rest (by decide)))
      (failed.trans (rest (by decide)))
  | failed e => exact .failed failed succeeded
  | cancelled => exact .failed failed succeeded
  | awaited => exact .awaited succeeded failed

namespace Trace

variable {t : Trace κ}

namespace Served

variable {log : List Event} {x : Option (Except Error Unit)}

theorem opened (h : t.Served log x) : Event.Spans 0 4 (.checkedOut :: log) :=
  .cons 0 h.work.spans rfl (by decide)

theorem closed (h : t.Served log x) :
    Event.Spans 5 6 (t.closing (.concluding x t.checkInFailures.head?)) :=
  spans_closing h.handBacks _

/-- In the phases of the work, only the work is logged. -/
theorem logged_eq (h : t.Served log x) {message : String} {n : Nat}
    (phase : (message, n) ∈ Event.phases) (inside : 0 < n ∧ n < 5) :
    t.logged message = Event.named message log := by
  have opening : Event.named message [.checkedOut] = [] :=
    (Event.Spans.cons 0 (@Event.Spans.nil 1 0) rfl (by decide)).named_eq_nil _ n phase (by omega)
  rw [logged, h.events, Event.named_append, h.closed.named_eq_nil _ n phase (by omega),
    List.append_nil, ← List.singleton_append, Event.named_append, opening, List.nil_append]

theorem ordered (h : t.Served log x) :
    t.events.Pairwise fun e later => e.phase < later.phase := by
  rw [h.events]
  exact (h.opened.append h.closed (by decide)).ordered

theorem checkedOut (h : t.Served log x) :
    t.logged "Connection checked out" = [.checkedOut] := by
  have worked := h.work.spans.named_eq_nil "Connection checked out" 0 (by decide) (by decide)
  rw [logged, h.events, Event.named_append, h.closed.named_eq_nil _ 0 (by decide) (by decide),
    Event.named_cons, worked]
  rfl

theorem checkedIn (h : t.Served log x) :
    t.logged "Connection checked in" = t.handBacks.map .ofCheckIn := by
  rw [logged, h.events, Event.named_append, checkedIn_closing h.handBacks,
    h.opened.named_eq_nil _ 5 (by decide) (by decide), List.nil_append]

theorem warned (h : t.Served log x) :
    t.events.filter (·.level == "WARN") =
      (Progress.concluding x t.checkInFailures.head?).warnings t.checkInFailures := by
  rw [h.events, List.filter_append, h.opened.warnings_eq_nil (by decide), List.nil_append,
    warnings_closing h.handBacks]

/-- What was started is closed as the log of its round trip says. -/
theorem closes (h : t.Served log x) {operation command database : String} {trip : RoundTrip}
    (mem : .commandStarted operation command database trip ∈ t.events) :
    t.Closes trip (.concluding x t.checkInFailures.head?) := by
  have started : .commandStarted operation command database trip ∈ log := by
    rw [h.events] at mem
    rcases List.mem_append.mp mem with mem | mem
    · exact (List.mem_cons.mp mem).resolve_left nofun
    · exact absurd (h.closed.first_le _ mem) (by simp [Event.phase])
  obtain ⟨opening, after, rfl, opened, trip⟩ := h.work.exists_log_of_mem started
  have late {message : String} (phase : (message, 4) ∈ Event.phases) :
      t.logged message = Event.named message after := by
    rw [h.logged_eq phase (by decide), Event.named_append,
      opened.named_eq_nil _ 4 phase (by decide), List.nil_append]
  have inside : after <:+: t.events := by
    rw [h.events]
    exact ⟨.checkedOut :: opening, t.closing (.concluding x t.checkInFailures.head?), by simp⟩
  exact trip.closes (late (by decide)) (late (by decide)) inside

theorem wellBracketed (h : t.Served log x) :
    t.WellBracketed (.concluding x t.checkInFailures.head?) where
  ordered := h.ordered
  delivered_le := Nat.le_of_eq h.delivered
  requests_le := h.work.requests_le
  checkedOut := by rw [h.checkedOut, h.delivered, List.length_singleton]
  selected := by
    rw [h.logged_eq (n := 1) (by decide) (by decide), h.checkedOut]
    exact h.work.selected_le
  started := by
    rw [h.logged_eq (n := 2) (by decide) (by decide)]
    exact h.work.started
  closes _ _ _ _ mem := h.closes mem
  unsent := by
    intro none
    have work := h.work
    rw [none] at work
    rw [h.logged_eq (n := 4) (by decide) (by decide), h.logged_eq (n := 4) (by decide) (by decide)]
    exact work.unsent_closes
  checkedIn := h.checkedIn
  warned := h.warned

end Served

end Trace

/-! ## The parts of an invocation -/

namespace Trace

@[simp] theorem handBacks_append (t t' : Trace κ) :
    handBacks (t ++ t') = handBacks t ++ handBacks t' := by
  simp [handBacks]

@[simp] theorem handBacks_cons (e : Entry κ) (t : Trace κ) :
    handBacks (e :: t) = e.handBack?.toList ++ handBacks t := by
  cases h : e.handBack? <;> simp [handBacks, h]

/-- A part of a trace in which no connection is delivered or handed back. -/
structure Serves (t : Trace κ) (log : List Event) (rs : List Request) : Prop where
  delivered : t.delivered = []
  handBacks : t.handBacks = []
  events : t.events = log
  requests : t.requests = rs

theorem Serves.append {t t' : Trace κ} {log log' : List Event} {rs rs' : List Request}
    (h : t.Serves log rs) (h' : t'.Serves log' rs') : (t ++ t').Serves (log ++ log') (rs ++ rs') :=
  ⟨by simp [h.delivered, h'.delivered], by simp [h.handBacks, h'.handBacks],
    by simp [h.events, h'.events], by simp [h.requests, h'.requests]⟩

end Trace

attribute [simp] Entry.handBack?

/-- What a server acknowledged is logged as a trace. -/
theorem Strategy.level_of_acknowledgment {strategy : Strategy} {reply : RawDocument}
    {acknowledgment : Event} (h : strategy.acknowledgment reply = .ok acknowledgment) :
    acknowledgment.level = "TRACE" := by
  cases strategy with
  | command =>
    change (CommandReply.outcome reply).map _ = _ at h
    cases outcome : CommandReply.outcome reply <;> rw [outcome] at h <;> cases h
    rfl
  | insert =>
    change (LastError.outcome reply).map _ = _ at h
    cases outcome : LastError.outcome reply <;> rw [outcome] at h <;> cases h
    rfl

theorem Creation.level_of_verdict {creation : Creation} {outcome : Except Error RawDocument}
    {acknowledgment : Event} (h : creation.verdict outcome = .ok acknowledgment) :
    acknowledgment.level = "TRACE" := by
  cases outcome with
  | error e => cases h
  | ok reply =>
    change creation.handleReply reply = .ok acknowledgment at h
    unfold Creation.handleReply at h
    split at h
    · exact Strategy.level_of_acknowledgment h
    · cases h

theorem RoundTrip.serves_closing (trip : RoundTrip) (creation : Creation)
    (outcome : Except Error RawDocument) :
    ∃ log, (trip.closing (creation.verdict outcome) : Trace κ).Serves log [] ∧
      trip.Log log ((WorkEnd.ofVerdict (creation.verdict outcome)).result?) := by
  cases verdict : creation.verdict outcome with
  | ok acknowledgment =>
    exact ⟨_, ⟨rfl, rfl, rfl, rfl⟩, .acknowledged (Creation.level_of_verdict verdict)⟩
  | error e => exact ⟨_, ⟨rfl, rfl, rfl, rfl⟩, .failed e⟩

section Parts

variable {pool : Pool σ κ} {creation : Creation} {id : ObjectId} {c : κ} {s s' : σ}
  {seg : Trace κ} {inFlight : Bool}

theorem Prepares.serves_of_ok {d : Description} {r : Request}
    (h : Prepares pool creation id c s seg s' (.ok (d, r))) :
    seg.Serves [creation.selection d] [] := by
  cases h
  exact ⟨rfl, rfl, rfl, rfl⟩

theorem Prepares.serves_of_error {halt : Halt}
    (h : Prepares pool creation id c s seg s' (.error halt)) {x : Except Error Unit}
    (result : (WorkEnd.halted halt).result? = some x) :
    ∃ log rs, seg.Serves log rs ∧ WorkLog log rs (some x) := by
  cases h with
  | crashed => cases result
  | failed =>
    cases result
    exact ⟨_, _, ⟨rfl, rfl, rfl, rfl⟩, .undescribed _⟩
  | unbuilt =>
    cases result
    exact ⟨_, _, ⟨rfl, rfl, rfl, rfl⟩, .unbuilt ..⟩

/-- The reply is awaited with nothing logged, or the round trip is closed. -/
theorem Awaits.serves {trip : RoundTrip} {w : WorkState}
    (h : Awaits pool creation c s trip seg inFlight s' w) :
    (w = .waits creation trip ∧ seg.Serves [] []) ∨
      ∃ e, w = .ended e ∧ ∀ x, e.result? = some x →
        ∃ log, seg.Serves log [] ∧ trip.Log log (some x) := by
  cases h with
  | crashed => exact .inr ⟨_, rfl, nofun⟩
  | waiting => exact .inl ⟨rfl, rfl, rfl, rfl, rfl⟩
  | cancelled =>
    refine .inr ⟨_, rfl, fun x result => ?_⟩
    cases result
    exact ⟨_, ⟨rfl, rfl, rfl, rfl⟩, .cancelled⟩
  | @answered answer outcome =>
    refine .inr ⟨_, rfl, fun x result => ?_⟩
    obtain ⟨log, serves, closed⟩ := RoundTrip.serves_closing (κ := κ) trip creation outcome
    have replied : Trace.Serves [.reply c (some answer)] [] [] := ⟨rfl, rfl, rfl, rfl⟩
    exact ⟨log, replied.append serves, result ▸ closed⟩

theorem Begins.serves {w : WorkState} (h : Begins pool creation id c s seg inFlight s' w) :
    (∃ creation' d r, w = .waits creation' (r.trip d) ∧
      seg.Serves [creation.selection d, r.started d] [r]) ∨
      ∃ e, w = .ended e ∧ ∀ x, e.result? = some x →
        ∃ log rs, seg.Serves log rs ∧ WorkLog log rs (some x) := by
  cases h with
  | stopped prepared => exact .inr ⟨_, rfl, fun x result => prepared.serves_of_error result⟩
  | cancelled prepared =>
    refine .inr ⟨_, rfl, fun x result => ?_⟩
    cases result
    exact ⟨_, _, prepared.serves_of_ok.append ⟨rfl, rfl, rfl, rfl⟩, .unsent creation _⟩
  | @sent seg rest _ _ d r _ _ prepared token awaits =>
    have sent : Trace.Serves (seg ++ [.token false, .event (r.started d), .request c r])
        [creation.selection d, r.started d] [r] :=
      prepared.serves_of_ok.append ⟨rfl, rfl, rfl, rfl⟩
    rcases awaits.serves with ⟨rfl, quiet⟩ | ⟨e, rfl, closed⟩
    · exact .inl ⟨_, d, r, rfl, sent.append quiet⟩
    · refine .inr ⟨e, rfl, fun x result => ?_⟩
      obtain ⟨log, serves, after⟩ := closed x result
      exact ⟨_, _, sent.append serves, .sent creation d r after⟩

theorem Works.serves {w : WorkEnd} (h : Works pool creation id c s seg inFlight s' w)
    {x : Except Error Unit} (result : w.result? = some x) :
    ∃ log rs, seg.Serves log rs ∧ WorkLog log rs (some x) := by
  cases h with
  | stopped prepared => exact prepared.serves_of_error result
  | crashed => cases result
  | @answered seg _ _ d r answer outcome prepared =>
    have sent :
        Trace.Serves (seg ++ [.event (r.started d), .request c r, .reply c (some answer)])
          [creation.selection d, r.started d] [r] :=
      prepared.serves_of_ok.append ⟨rfl, rfl, rfl, rfl⟩
    obtain ⟨log, serves, closed⟩ :=
      RoundTrip.serves_closing (κ := κ) (r.trip d) (creation.afterBuild id d) outcome
    exact ⟨_, _, sent.append serves, .sent creation d r (result ▸ closed)⟩

end Parts

/-! ## Handing back what is in use -/

namespace Trace

/-- Unless the invocation crashed, its log is well bracketed, and what was delivered went back. -/
def Concluded (t : Trace κ) (progress : Progress) : Prop :=
  progress.IsSane → t.WellBracketed progress ∧ t.handBacks.length = t.delivered.length

/-- A connection is in use, with what was logged and sent meanwhile. -/
structure InUse (t : Trace κ) (log : List Event) (rs : List Request) : Prop where
  delivered : t.delivered.length = 1
  handBacks : t.handBacks = []
  events : t.events = .checkedOut :: log
  requests : t.requests = rs

variable {t t' : Trace κ} {log log' : List Event} {rs rs' : List Request}

theorem inUse_delivery (c : κ) : (delivery c).InUse [] [] := ⟨rfl, rfl, rfl, rfl⟩

theorem Serves.inUse (h : t.Serves [] []) (h' : t'.InUse log rs) : (t ++ t').InUse log rs :=
  ⟨by simp [h.delivered, h'.delivered], by simp [h.handBacks, h'.handBacks],
    by simp [h.events, h'.events], by simp [h.requests, h'.requests]⟩

theorem InUse.append (h : t.InUse log rs) (h' : t'.Serves log' rs') :
    (t ++ t').InUse (log ++ log') (rs ++ rs') :=
  ⟨by simp [h.delivered, h'.delivered], by simp [h.handBacks, h'.handBacks],
    by simp [h.events, h'.events], by simp [h.requests, h'.requests]⟩

/-- While the connection is in use, nothing of its hand-back is logged. -/
theorem InUse.wellBracketed (h : t.InUse log rs) (work : WorkLog log rs none) :
    t.WellBracketed .pending := by
  have served : t.Served log none := by
    refine ⟨h.delivered, by simp [h.handBacks], by rwa [h.requests], ?_⟩
    simp [h.events, closing, checkInFailures, h.handBacks, Progress.concluding, Progress.warnings]
  exact served.wellBracketed

@[simp] theorem events_map_event (log : List Event) :
    events (log.map (.event : Event → Entry κ)) = log := by
  simp [events, List.filterMap_map, Function.comp_def]

theorem IsLog.handBacks_eq_nil (h : t.IsLog) : t.handBacks = [] := h.filterMap_eq_nil fun _ => rfl

/-- The hand-back closes the log, if what it complains of is due after work that ended so. -/
theorem InUse.handedBack {x : Option (Except Error Unit)} (h : t.InUse log rs)
    (work : WorkLog log rs x) (c : κ) (state : CheckInState) {answer : Answer Unit}
    (sane : ∀ message, answer ≠ .crashes message) {complaint : Error → List Event}
    (due : ∀ e, complaint e = (Progress.concluding x (some e)).warnings [e]) {progress : Progress}
    (concluded : progress = .concluding x answer.failure?) :
    (t ++ (Act.handedBack c state answer ++ Act.complaints complaint answer)).Concluded
      progress := by
  intro _
  generalize whole : t ++ (Act.handedBack c state answer ++ Act.complaints complaint answer) = t'
  have log' := Act.isLog_complaints (κ := κ) complaint answer
  have delivered : t'.delivered.length = 1 := by
    cases answer <;> simp [← whole, Act.handedBack, log'.delivered_eq_nil, h.delivered]
  have requests : t'.requests = rs := by
    cases answer <;> simp [← whole, Act.handedBack, log'.requests_eq_nil, h.requests]
  have handBacks : t'.handBacks = [(state, answer)] := by
    cases answer <;> simp [← whole, Act.handedBack, log'.handBacks_eq_nil, h.handBacks]
  have failures : t'.checkInFailures.head? = answer.failure? := by
    rw [checkInFailures, handBacks]
    cases answer <;> rfl
  -- Only here does it matter how the work ended: that decides whether a failure is complained of.
  have events : t'.events = .checkedOut :: log ++ t'.closing progress := by
    rw [concluded, closing, checkInFailures, handBacks, ← whole, events_append, h.events]
    cases answer with
    | crashes message => exact absurd rfl (sane message)
    | gives =>
      cases x with
      | none => rfl
      | some x => cases x <;> rfl
    | fails e =>
      simp [Act.handedBack, Act.complaints, due, Event.ofCheckIn, Answer.isGiven, Answer.failure?]
  have served : t'.Served log x :=
    ⟨delivered, by simp [handBacks], requests ▸ work, by rwa [failures, ← concluded]⟩
  refine ⟨?_, by rw [handBacks, delivered, List.length_singleton]⟩
  have := served.wellBracketed
  rwa [failures, ← concluded] at this

end Trace

section Ends

variable {pool : Pool σ κ} {c : κ} {inFlight : Bool} {s : σ} {t : Trace κ}

theorem WorkEnd.progress_eq {w : WorkEnd} {x : Except Error Unit} (result : w.result? = some x)
    {answer : Answer Unit} (sane : ∀ message, answer ≠ .crashes message) :
    w.progress answer = .concluding (some x) answer.failure? := by
  rcases w with _ | e | message
  · cases result
    cases answer with
    | gives | fails => rfl
    | crashes message => exact absurd rfl (sane message)
  · cases result
    cases answer with
    | gives | fails => rfl
    | crashes message => exact absurd rfl (sane message)
  · cases result

theorem WorkEnd.complaint_eq {w : WorkEnd} {x : Except Error Unit} (result : w.result? = some x)
    (e : Error) : w.complaint e = (Progress.concluding (some x) (some e)).warnings [e] := by
  rcases w with _ | e | message <;> cases result <;> rfl

/-- An invocation that comes to the end of its work concludes. -/
theorem WorkEnd.concluded {w : WorkEnd}
    (worked : ∀ x, w.result? = some x → ∃ log rs, t.InUse log rs ∧ WorkLog log rs (some x)) :
    (t ++ (w.close pool c inFlight s).trace).Concluded (w.close pool c inFlight s).progress := by
  intro sane
  unfold close at sane ⊢
  dsimp only at sane ⊢
  generalize (pool.checkIn c _ s).1 = answer at sane ⊢
  have uncrashed : ∀ message, answer ≠ .crashes message := by
    rintro message rfl
    cases w <;> exact sane message rfl
  cases result : w.result? with
  | none =>
    rcases w with _ | e | message
    · cases result
    · cases result
    · cases answer <;> exact absurd rfl (sane _)
  | some x =>
    obtain ⟨log, rs, inUse, work⟩ := worked x result
    exact inUse.handedBack work c _ uncrashed (complaint_eq result)
      (progress_eq result uncrashed) sane

/-- An invocation that is given up while the reply is awaited concludes. -/
theorem Lease.concluded_abandon {log : List Event} {rs : List Request} (inUse : t.InUse log rs)
    (work : WorkLog log rs none) :
    (t ++ (Lease.abandon pool c inFlight s).trace).Concluded
      (Lease.abandon pool c inFlight s).progress := by
  intro sane
  unfold abandon at sane ⊢
  dsimp only at sane ⊢
  generalize (pool.checkIn c _ s).1 = answer at sane ⊢
  have uncrashed : ∀ message, answer ≠ .crashes message := by
    rintro message rfl
    exact sane message rfl
  refine inUse.handedBack work c _ uncrashed (fun _ => rfl) ?_ sane
  cases answer with
  | gives | fails => rfl
  | crashes message => exact absurd rfl (uncrashed message)

end Ends

/-! ## Whole invocations -/

/-- An event of an invocation that ends before a connection is delivered. -/
inductive Event.Early : Event → Prop where
  | refused (error : Error) : Early (.checkOutFailed error)
  | cancelled (operation stage : String) : Early (.operationCancelled operation stage)

/-- A log is well bracketed if no connection was delivered and it tells at most why. -/
theorem Trace.Serves.wellBracketed {t : Trace κ} {log : List Event} (h : t.Serves log [])
    (single : log.length ≤ 1) (early : ∀ e ∈ log, e.Early) (progress : Progress) :
    t.WellBracketed progress := by
  have named (message : String) (n : Nat) (phase : (message, n) ∈ Event.phases) :
      t.logged message = [] := by
    rw [logged, h.events]
    refine List.filter_eq_nil_iff.mpr fun e mem same => ?_
    have same := beq_iff_eq.mp same
    subst same
    cases early e mem <;> simp [Event.phases, Event.message] at phase
  have warnings : t.events.filter (·.level == "WARN") = [] := by
    rw [h.events]
    refine List.filter_eq_nil_iff.mpr fun e mem => ?_
    cases early e mem <;> simp [Event.level]
  have unwarned : progress.warnings t.checkInFailures = [] := by
    rw [checkInFailures, h.handBacks]
    unfold Progress.warnings
    split <;> rfl
  have unstarted (operation command database : String) (trip : RoundTrip) :
      .commandStarted operation command database trip ∉ t.events := by
    rw [h.events]
    intro mem
    cases early _ mem
  exact {
    ordered := by rw [h.events]; exact Event.ordered_of_length_le single
    delivered_le := by simp [h.delivered]
    requests_le := by simp [h.requests]
    checkedOut := by rw [named _ 0 (by decide), h.delivered, List.length_nil, List.length_nil]
    selected := by rw [named _ 1 (by decide)]; exact Nat.zero_le _
    started := by rw [named _ 2 (by decide), h.requests, List.length_nil, List.length_nil]
    closes := fun _ _ _ _ mem => (unstarted _ _ _ _ mem).elim
    unsent := fun _ => ⟨named _ 4 (by decide), named _ 4 (by decide)⟩
    checkedIn := by rw [named _ 5 (by decide), h.handBacks, List.map_nil]
    warned := by rw [warnings, unwarned] }

theorem Trace.Serves.concluded {t : Trace κ} {log : List Event} (h : t.Serves log [])
    (single : log.length ≤ 1) (early : ∀ e ∈ log, e.Early) (progress : Progress) :
    t.Concluded progress :=
  fun _ => ⟨h.wellBracketed single early progress, by simp [h.handBacks, h.delivered]⟩

section Whole

variable {pool : Pool σ κ} {id : ObjectId} {s : σ}

theorem Executes.concluded {creation : Creation} {turn : Turn σ κ}
    (h : Executes pool creation id s turn) : turn.trace.Concluded turn.progress := by
  cases h with
  | crashed => exact fun sane => absurd rfl (sane _)
  | @refused e =>
    exact Trace.Serves.concluded ⟨rfl, rfl, rfl, rfl⟩ (.refl ..) (by simp [Event.Early.refused]) _
  | @worked c _ _ seg _ _ asked works =>
    refine WorkEnd.concluded (t := Trace.delivery c ++ seg) fun x result => ?_
    obtain ⟨log, rs, serves, work⟩ := works.serves result
    exact ⟨log, rs, (Trace.inUse_delivery c).append serves, work⟩

/-- What the trace has to be at each stage of an invocation. -/
inductive Invocation.Chronicles : Invocation κ → Trace κ → Progress → Prop where
  | checkingOut {creation : Creation} {id : ObjectId} {t : Trace κ} (serves : t.Serves [] []) :
    Chronicles ⟨creation, id, .checkingOut, none⟩ t .pending
  | awaitingReply {creation creation' creation'' : Creation} {id : ObjectId} {d : Description}
    {r : Request} {c : κ} {t : Trace κ}
    (inUse : t.InUse [creation''.selection d, r.started d] [r]) :
    Chronicles ⟨creation, id, .awaitingReply creation' (r.trip d), some ⟨some c, true⟩⟩ t .pending
  | finished {creation : Creation} {id : ObjectId} {t : Trace κ} {progress : Progress}
    (concluded : t.Concluded progress) : Chronicles ⟨creation, id, .over, none⟩ t progress

theorem Polls.chronicles {i i' : Invocation κ} {turn : Turn σ κ} {t : Trace κ}
    {progress : Progress} (h : Polls pool s i turn i') (before : i.Chronicles t progress) :
    i'.Chronicles (t ++ turn.trace) turn.progress := by
  cases h with
  | cancelled =>
    cases before with
    | checkingOut serves =>
      refine .finished (Trace.Serves.concluded (serves.append ⟨rfl, rfl, rfl, rfl⟩) (.refl ..) ?_ _)
      simp [Event.Early.cancelled]
  | waiting =>
    cases before with
    | checkingOut serves => exact .checkingOut (serves.append ⟨rfl, rfl, rfl, rfl⟩)
  | crashed =>
    cases before with
    | checkingOut serves => exact .finished fun sane => absurd rfl (sane _)
  | refused =>
    cases before with
    | checkingOut serves =>
      refine .finished (Trace.Serves.concluded (serves.append ⟨rfl, rfl, rfl, rfl⟩) (.refl ..) ?_ _)
      simp [Event.Early.refused]
  | @begun creation id c _ _ seg _ w token look begins =>
    cases before with
    | checkingOut serves =>
      have looked : Trace.Serves (t ++ [.token false]) [] [] :=
        serves.append ⟨rfl, rfl, rfl, rfl⟩
      have split : t ++ (.token false :: Trace.delivery c ++ seg) =
          t ++ [Entry.token false] ++ (Trace.delivery c ++ seg) := by simp
      have inUse {log : List Event} {rs : List Request} (serves : seg.Serves log rs) :
          (t ++ (.token false :: Trace.delivery c ++ seg)).InUse log rs :=
        split ▸ looked.inUse ((Trace.inUse_delivery c).append serves)
      rw [Turn.trace_preceded, ← List.append_assoc]
      rcases begins.serves with ⟨creation', d, r, rfl, serves⟩ | ⟨e, rfl, worked⟩
      · obtain rfl := begins.inFlight_of_waits
        simpa [WorkState.turn, WorkState.invocation] using
          Invocation.Chronicles.awaitingReply (inUse serves)
      · refine .finished (WorkEnd.concluded fun x result => ?_)
        obtain ⟨log, rs, serves, work⟩ := worked x result
        exact ⟨log, rs, inUse serves, work⟩
  | @resumed creation creation' id trip c _ seg _ w awaits =>
    cases before with
    | @awaitingReply _ _ creation'' _ d r _ _ inUse =>
      rw [Turn.trace_preceded, ← List.append_assoc]
      rcases awaits.serves with ⟨rfl, quiet⟩ | ⟨e, rfl, closed⟩
      · obtain rfl := awaits.inFlight_of_waits
        simpa [WorkState.turn, WorkState.invocation] using
          Invocation.Chronicles.awaitingReply (inUse.append quiet)
      · refine .finished (WorkEnd.concluded fun x result => ?_)
        obtain ⟨log, serves, after⟩ := closed x result
        exact ⟨_, _, inUse.append serves, .sent creation'' d r after⟩

theorem Drops.chronicles {i : Invocation κ} {turn : Turn σ κ} {t : Trace κ} {progress : Progress}
    (h : Drops pool s i turn) (before : i.Chronicles t progress) :
    i.ended.Chronicles (t ++ turn.trace) turn.progress := by
  cases h with
  | unheld =>
    cases before with
    | checkingOut serves =>
      exact .finished (Trace.Serves.concluded (serves.append ⟨rfl, rfl, rfl, rfl⟩) (Nat.zero_le _)
        (by simp) _)
  | held =>
    cases before with
    | @awaitingReply _ _ creation'' _ d r _ _ inUse =>
      exact .finished (Lease.concluded_abandon inUse (.sent creation'' d r .awaited))

end Whole

/-- The log is chronicled along every run. -/
theorem Run.chronicles (pool : Pool σ κ) (u : NewUser) (id : ObjectId) (s : σ)
    (moves : List (Move σ)) :
    ((start u id s).follow pool moves).invocation.Chronicles
      ((start u id s).follow pool moves).trace ((start u id s).follow pool moves).progress := by
  refine follow_invariant (I := fun r => r.invocation.Chronicles r.trace r.progress) ?_
    (start_sound u id s) (.checkingOut ⟨rfl, rfl, rfl, rfl⟩)
  intro r m r' _ sound before step
  cases step with
  | rested | changed => exact before
  | polled live polls => exact polls.chronicles before
  | dropped live drops => exact drops.chronicles before

theorem Invocation.Chronicles.wellBracketed {i : Invocation κ} {t : Trace κ} {progress : Progress}
    (h : i.Chronicles t progress) (sane : progress.IsSane) :
    t.WellBracketed progress ∧
      (i.isOver = true → t.handBacks.length = t.delivered.length) := by
  cases h with
  | checkingOut serves => exact ⟨serves.wellBracketed (Nat.zero_le _) (by simp) _, nofun⟩
  | @awaitingReply _ _ creation'' _ d r _ _ inUse =>
    exact ⟨inUse.wellBracketed (.sent creation'' d r .awaited), nofun⟩
  | finished concluded =>
    obtain ⟨bracketed, balanced⟩ := concluded sane
    exact ⟨bracketed, fun _ => balanced⟩

/-- A command is logged as started whenever a pool that writes down its calls was sent a request. -/
theorem Run.starts_called (pool : Pool σ κ) (u : NewUser) (id : ObjectId) (s : σ)
    (moves : List (Move σ)) :
    let r : Run (Recorded σ κ) κ :=
      (start u id { pool := s }).follow pool.recording (moves.map Move.recording)
    r.progress.IsSane →
      (r.trace.logged "Command started").length = r.pool.calls.requests.length := by
  intro r sane
  have written : r.pool.calls = r.trace.calls := writes_follow pool u id s moves
  rw [written, Trace.requests_calls]
  exact ((Run.chronicles pool.recording u id _ _).wellBracketed sane).1.started

/-- Whatever the pool answers and whenever it is cancelled or given up, the log of an invocation
that does not crash is well bracketed at any time, and once it is over, each connection that was
delivered was handed back. -/
theorem log_well_bracketed (pool : Pool σ κ) (u : NewUser) (id : ObjectId) (s : σ) :
    (u.execute pool id s).trace.Concluded (u.execute pool id s).progress ∧
    ∀ moves : List (Move σ),
      let r : Run σ κ := (Run.start u id s).follow pool moves
      r.progress.IsSane →
        r.trace.WellBracketed r.progress ∧
          (r.isOver = true → r.trace.handBacks.length = r.trace.delivered.length) :=
  ⟨(u.execute_executes pool id s).concluded,
    fun moves => (Run.chronicles pool u id s moves).wellBracketed⟩

theorem log_well_bracketed_of_failed_check_in :
    let u : NewUser := ⟨⟨some "alice", some "app", none⟩, false, none⟩
    let e := Error.internal "closed"
    let pool : Pool Unit Unit := {
      checkOut := fun s => (.gives (), s)
      pollCheckOut := fun s => (some (.gives ()), s)
      describe := fun _ s => (.gives ⟨.localhost, some 8, 16777216⟩, s)
      exchange := fun _ _ s => (.gives (.ofDocument [("ok", .int32 1)]), s)
      send := fun _ _ s => s
      pollReply := fun _ s => (none, s)
      checkIn := fun _ _ s => (.fails e, s)
      isCancelled := fun _ => false }
    let waited := u.execute pool .zero ()
    let dropped : Run Unit Unit := (Run.start u .zero ()).follow pool [.poll, .drop]
    waited.progress = .returned (.ok ()) ∧
      waited.trace.WellBracketed (.returned (.ok ())) ∧
      waited.events.map Event.message =
        ["Connection checked out", "Selected user creation strategy", "Command started",
          "User created", "Command succeeded", "Connection checked in",
          "Connection check-in failed after the operation succeeded"] ∧
      dropped.isOver = true ∧ dropped.trace.WellBracketed .pending ∧
      dropped.trace.events.map Event.message =
        ["Connection checked out", "Selected user creation strategy", "Command started",
          "Connection checked in", "Connection check-in failed while abandoning an operation"] := by
  intro u e pool waited dropped
  have returned : waited.progress = .returned (.ok ()) := rfl
  have pending : dropped.progress = .pending := rfl
  obtain ⟨blocking, polled⟩ := log_well_bracketed pool u .zero ()
  have waitedLog := (blocking (returned ▸ nofun)).1
  have droppedLog := (polled [.poll, .drop] (pending ▸ nofun)).1
  exact ⟨returned, waitedLog, by decide +kernel, rfl, droppedLog, by decide +kernel⟩

end UserProvision
