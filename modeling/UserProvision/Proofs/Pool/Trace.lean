import Mathlib.Data.List.Basic
import UserProvision.Proofs.Invocation.Rules

/-!
# Looking into traces

A trace tells which connections were delivered, used and handed back, and whether a reply is owed.
The laws here say what joining traces does to each of these views, and what the parts of an
invocation contribute to them.

## Main definitions

* `Trace.subjects` — the connections that calls were about.
* `Trace.isOwed` — a request was sent, and neither a reply nor an error has come.
-/

namespace UserProvision

variable {σ κ : Type}

/-- The connection that a call was about. A check-out and a check-in only pass it on. -/
def Entry.subject? : Entry κ → Option κ
  | .description c _ | .request c _ | .reply c _ => some c
  | _ => none

/-- Whether an entry tells of a reply, or of an error in place of one. -/
def Entry.isOutcome : Entry κ → Bool
  | .reply _ (some answer) => answer.outcome?.isSome
  | _ => false

namespace Trace

def subjects (t : Trace κ) : List κ := t.filterMap Entry.subject?

/-- Whether a request was sent whose reply, or the error in place of one, has not come. -/
def isOwed (t : Trace κ) : Bool := !t.requests.isEmpty && !t.any Entry.isOutcome

section Append

variable (t t' : Trace κ) (e : Entry κ)

@[simp] theorem events_append : events (t ++ t') = events t ++ events t' := by simp [events]

@[simp] theorem requests_append : requests (t ++ t') = requests t ++ requests t' := by
  simp [requests]

@[simp] theorem checkIns_append : checkIns (t ++ t') = checkIns t ++ checkIns t' := by
  simp [checkIns]

@[simp] theorem delivered_append : delivered (t ++ t') = delivered t ++ delivered t' := by
  simp [delivered]

@[simp] theorem subjects_append : subjects (t ++ t') = subjects t ++ subjects t' := by
  simp [subjects]

@[simp] theorem events_nil : events ([] : Trace κ) = [] := rfl
@[simp] theorem requests_nil : requests ([] : Trace κ) = [] := rfl
@[simp] theorem subjects_nil : subjects ([] : Trace κ) = [] := rfl

@[simp] theorem events_cons : events (e :: t) = e.event?.toList ++ events t := by
  cases h : e.event? <;> simp [events, h]

@[simp] theorem requests_cons : requests (e :: t) = e.request?.toList ++ requests t := by
  cases h : e.request? <;> simp [requests, h]

@[simp] theorem checkIns_cons : checkIns (e :: t) = e.checkIn?.toList ++ checkIns t := by
  cases h : e.checkIn? <;> simp [checkIns, h]

@[simp] theorem delivered_cons : delivered (e :: t) = e.delivered?.toList ++ delivered t := by
  cases h : e.delivered? <;> simp [delivered, h]

@[simp] theorem subjects_cons : subjects (e :: t) = e.subject?.toList ++ subjects t := by
  cases h : e.subject? <;> simp [subjects, h]

end Append

/-- A view of a trace is one of its part that the view does not skip. -/
theorem filterMap_filter {α : Type} {p : Entry κ → Bool} {f : Entry κ → Option α} (t : Trace κ)
    (skips : ∀ e, p e = false → f e = none) : (t.filter p).filterMap f = t.filterMap f := by
  rw [List.filterMap_filter]
  refine List.filterMap_congr fun e _ => ?_
  cases kept : p e with
  | true => rfl
  | false => exact (skips e kept).symm

end Trace

attribute [simp] Entry.event? Entry.request? Entry.checkIn? Entry.delivered? Entry.subject?
  Entry.isOutcome

namespace Trace

/-- A trace that holds nothing but events. -/
def IsLog (t : Trace κ) : Prop := ∀ e ∈ t, ∃ event, e = .event event

namespace IsLog

variable {t : Trace κ}

theorem map_event (events : List Event) : IsLog (events.map (.event : Event → Entry κ)) := by
  intro e he
  obtain ⟨event, -, rfl⟩ := List.mem_map.mp he
  exact ⟨event, rfl⟩

theorem filterMap_eq_nil (h : t.IsLog) {α : Type} {f : Entry κ → Option α}
    (skips : ∀ event, f (.event event) = none) : t.filterMap f = [] := by
  rw [List.filterMap_eq_nil_iff]
  intro e he
  obtain ⟨event, rfl⟩ := h e he
  exact skips event

theorem requests_eq_nil (h : t.IsLog) : t.requests = [] := h.filterMap_eq_nil fun _ => rfl
theorem checkIns_eq_nil (h : t.IsLog) : t.checkIns = [] := h.filterMap_eq_nil fun _ => rfl
theorem delivered_eq_nil (h : t.IsLog) : t.delivered = [] := h.filterMap_eq_nil fun _ => rfl
theorem subjects_eq_nil (h : t.IsLog) : t.subjects = [] := h.filterMap_eq_nil fun _ => rfl

theorem notMem (h : t.IsLog) {e : Entry κ} (silent : e.event? = none) : e ∉ t := by
  intro he
  obtain ⟨event, rfl⟩ := h e he
  cases silent

theorem token_notMem (h : t.IsLog) (b : Bool) : .token b ∉ t := h.notMem rfl

theorem reply_notMem (h : t.IsLog) (c : κ) (answer : Option (Answer RawDocument)) :
    .reply c answer ∉ t := h.notMem rfl

theorem any_isOutcome (h : t.IsLog) : t.any Entry.isOutcome = false := by
  rw [List.any_eq_false]
  intro e he
  obtain ⟨event, rfl⟩ := h e he
  simp

end IsLog

end Trace

/-! ## What is logged -/

theorem RoundTrip.isLog_closing (trip : RoundTrip) (verdict : Except Error Event) :
    (trip.closing verdict : Trace κ).IsLog := by
  cases verdict with
  | ok acknowledgment => exact .map_event [acknowledgment, .commandSucceeded trip]
  | error e => exact .map_event [.commandFailed e trip]

theorem Act.isLog_complaints (complaint : Error → List Event) (answer : Answer Unit) :
    (Act.complaints complaint answer : Trace κ).IsLog := by
  cases answer with
  | fails e => exact .map_event (complaint e)
  | gives | crashes => exact .map_event []

/-- What is added when a connection goes back: the check-in, and then only events. -/
theorem Act.handedBack_eq (c : κ) (state : CheckInState) (answer : Answer Unit) :
    ∃ rest : Trace κ, rest.IsLog ∧
      Act.handedBack c state answer = .checkIn c state answer :: rest := by
  cases answer with
  | gives => exact ⟨_, .map_event [.checkedIn true _], rfl⟩
  | fails => exact ⟨_, .map_event [.checkedIn false _], rfl⟩
  | crashes => exact ⟨_, .map_event [], rfl⟩

/-- Whether an entry can stand after the end of work. -/
def Entry.isClosing : Entry κ → Bool
  | .checkIn .. | .event _ => true
  | _ => false

theorem Act.isClosing_of_mem {c : κ} {state : CheckInState} {answer : Answer Unit}
    {complaint : Error → List Event} {e : Entry κ}
    (mem : e ∈ Act.handedBack c state answer ++ Act.complaints complaint answer) :
    e.isClosing = true := by
  rcases List.mem_append.mp mem with back | complained
  · obtain ⟨rest, log, eq⟩ := Act.handedBack_eq c state answer
    rw [eq] at back
    rcases List.mem_cons.mp back with rfl | logged
    · rfl
    · obtain ⟨event, rfl⟩ := log e logged
      rfl
  · obtain ⟨event, rfl⟩ := Act.isLog_complaints complaint answer e complained
    rfl

theorem WorkState.isClosing_of_mem_turn {pool : Pool σ κ} {w : WorkState} {c : κ}
    {inFlight : Bool} {s : σ} {e : Entry κ}
    (mem : e ∈ (w.turn pool c inFlight s).trace) : e.isClosing = true := by
  cases w with
  | waits => cases mem
  | ended w => exact Act.isClosing_of_mem mem

end UserProvision
