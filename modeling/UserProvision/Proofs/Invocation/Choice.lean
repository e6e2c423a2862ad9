import UserProvision.Proofs.Invocation.Bracketing

/-!
# What a strategy is chosen by

An invocation chooses its strategy, and builds its request, by what its own connection told about
its server. Only the part of a trace that begins the work on a connection can do either; all others
are plain.

## Main results

* `Run.chooses` — the choices along a run.
-/

namespace UserProvision

variable {σ κ : Type}

namespace Trace

/-- Whatever strategy was selected and whatever request was sent, it was by what a connection that
was delivered told about its server. -/
structure Chosen (u : NewUser) (id : ObjectId) (t : Trace κ) : Prop where
  selected : ∀ e ∈ t.events, e.message = "Selected user creation strategy" →
    ∃ c d, .checkOut (some (.gives c)) ∈ t ∧ .description c (.gives d) ∈ t ∧
      e = Creation.selection ⟨u, none⟩ d
  sent : ∀ c r, .request c r ∈ t →
    ∃ d, .checkOut (some (.gives c)) ∈ t ∧ .description c (.gives d) ∈ t ∧
      Creation.request ⟨u, none⟩ id d = .ok r

/-- The same for a part of a trace that is about one connection. -/
structure ChosenOn (c : κ) (u : NewUser) (id : ObjectId) (t : Trace κ) : Prop where
  selected : ∀ e ∈ t.events, e.message = "Selected user creation strategy" →
    ∃ d, .description c (.gives d) ∈ t ∧ e = Creation.selection ⟨u, none⟩ d
  sent : ∀ c' r, .request c' r ∈ t →
    c' = c ∧ ∃ d, .description c (.gives d) ∈ t ∧ Creation.request ⟨u, none⟩ id d = .ok r

/-- Nothing was selected and nothing was sent. -/
structure IsPlain (t : Trace κ) : Prop where
  selected : ∀ e ∈ t.events, e.message ≠ "Selected user creation strategy"
  sent : ∀ c r, .request c r ∉ t

variable {u : NewUser} {id : ObjectId} {t t' : Trace κ} {c : κ}

theorem IsPlain.append (h : t.IsPlain) (h' : t'.IsPlain) : (t ++ t').IsPlain where
  selected e mem := by
    rw [events_append, List.mem_append] at mem
    exact mem.elim (h.selected e) (h'.selected e)
  sent c r mem := (List.mem_append.mp mem).elim (h.sent c r) (h'.sent c r)

theorem ChosenOn.append (h : t.ChosenOn c u id) (plain : t'.IsPlain) :
    (t ++ t').ChosenOn c u id where
  selected e mem message := by
    rw [events_append, List.mem_append] at mem
    obtain ⟨d, told, eq⟩ :=
      h.selected e (mem.resolve_right fun late => plain.selected e late message) message
    exact ⟨d, List.mem_append_left _ told, eq⟩
  sent c' r mem := by
    obtain ⟨same, d, told, request⟩ :=
      h.sent c' r ((List.mem_append.mp mem).resolve_right (plain.sent c' r))
    exact ⟨same, d, List.mem_append_left _ told, request⟩

theorem Chosen.append (h : t.Chosen u id) (plain : t'.IsPlain) : (t ++ t').Chosen u id where
  selected e mem message := by
    rw [events_append, List.mem_append] at mem
    obtain ⟨c, d, lent, told, eq⟩ :=
      h.selected e (mem.resolve_right fun late => plain.selected e late message) message
    exact ⟨c, d, List.mem_append_left _ lent, List.mem_append_left _ told, eq⟩
  sent c r mem := by
    obtain ⟨d, lent, told, request⟩ :=
      h.sent c r ((List.mem_append.mp mem).resolve_right (plain.sent c r))
    exact ⟨d, List.mem_append_left _ lent, List.mem_append_left _ told, request⟩

/-- Work begins on a connection that was delivered before. -/
theorem ChosenOn.chosen (h : t'.ChosenOn c u id) (plain : t.IsPlain)
    (lent : .checkOut (some (.gives c)) ∈ t) : (t ++ t').Chosen u id where
  selected e mem message := by
    rw [events_append, List.mem_append] at mem
    obtain ⟨d, told, eq⟩ :=
      h.selected e (mem.resolve_left fun early => plain.selected e early message) message
    exact ⟨c, d, List.mem_append_left _ lent, List.mem_append_right _ told, eq⟩
  sent c' r mem := by
    obtain ⟨rfl, d, told, request⟩ :=
      h.sent c' r ((List.mem_append.mp mem).resolve_left (plain.sent c' r))
    exact ⟨d, List.mem_append_left _ lent, List.mem_append_right _ told, request⟩

end Trace

/-! ## The parts of an invocation -/

section Parts

variable {pool : Pool σ κ} {u : NewUser} {creation : Creation} {id : ObjectId} {c : κ} {s s' : σ}
  {seg : Trace κ} {inFlight : Bool}

theorem Prepares.chosenOn {r : Except Halt (Description × Request)}
    (h : Prepares pool ⟨u, none⟩ id c s seg s' r) : seg.ChosenOn c u id := by
  cases h with
  | crashed | failed => exact ⟨by simp, by simp⟩
  | unbuilt | built => exact ⟨by simp, by simp⟩

theorem RoundTrip.isPlain_closing (trip : RoundTrip) (creation : Creation)
    (outcome : Except Error RawDocument) :
    (trip.closing (creation.verdict outcome) : Trace κ).IsPlain := by
  cases verdict : creation.verdict outcome with
  | ok acknowledgment =>
    have third := Event.phase_of_trace (Creation.level_of_verdict verdict)
    refine ⟨fun e mem message => ?_, by simp [closing]⟩
    have first := Event.phase_of_message (e := e) (n := 1) (by rw [message]; decide)
    simp [closing] at mem
    rcases mem with rfl | rfl
    · omega
    · cases first
  | error e => exact ⟨by simp [closing, Event.message], by simp [closing]⟩

theorem Awaits.isPlain {trip : RoundTrip} {w : WorkState}
    (h : Awaits pool creation c s trip seg inFlight s' w) : seg.IsPlain := by
  cases h with
  | crashed | waiting => exact ⟨by simp, by simp⟩
  | cancelled => exact ⟨by simp [Event.message], by simp⟩
  | @answered answer outcome =>
    have replied : Trace.IsPlain [.reply c (some answer)] := ⟨by simp, by simp⟩
    exact replied.append (trip.isPlain_closing creation outcome)

theorem Begins.chosenOn {w : WorkState} (h : Begins pool ⟨u, none⟩ id c s seg inFlight s' w) :
    seg.ChosenOn c u id := by
  cases h with
  | stopped prepared => exact prepared.chosenOn
  | cancelled prepared => exact prepared.chosenOn.append ⟨by simp [Event.message], by simp⟩
  | @sent seg rest _ _ d r _ _ prepared token awaits =>
    refine Trace.ChosenOn.append ?_ awaits.isPlain
    cases prepared with
    | built asked request =>
      constructor
      · simp [Request.started, Event.message]
      · simpa using request

theorem Act.isPlain_handedBack (c : κ) (state : CheckInState) (answer : Answer Unit)
    {complaint : Error → List Event} (warns : ∀ e, ∀ event ∈ complaint e, event.level = "WARN") :
    (handedBack c state answer ++ complaints complaint answer).IsPlain := by
  have quiet : ∀ e, ∀ event ∈ complaint e, event.message ≠ "Selected user creation strategy" := by
    intro e event mem message
    have first := Event.phase_of_message (e := event) (n := 1) (by rw [message]; decide)
    have sixth := Event.phase_of_warn (warns e event mem)
    omega
  constructor
  · cases answer <;> simp [handedBack, complaints, Event.message]
    exact quiet _
  · cases answer <;> simp [handedBack, complaints]

theorem WorkState.isPlain_turn (w : WorkState) : (w.turn pool c inFlight s).trace.IsPlain := by
  cases w with
  | waits => exact ⟨by simp [turn], by simp [turn]⟩
  | ended w =>
    refine Act.isPlain_handedBack c _ _ fun e event mem => ?_
    rcases w with _ | _ | _
    · obtain rfl := List.mem_singleton.mp mem
      rfl
    · cases mem
    · obtain rfl := List.mem_singleton.mp mem
      rfl

theorem Lease.isPlain_abandon : (Lease.abandon pool c inFlight s).trace.IsPlain := by
  refine Act.isPlain_handedBack c _ _ fun e event mem => ?_
  obtain rfl := List.mem_singleton.mp mem
  rfl

end Parts

/-! ## Whole invocations -/

theorem Trace.IsPlain.chosen {u : NewUser} {id : ObjectId} {t : Trace κ} (h : t.IsPlain) :
    t.Chosen u id :=
  ⟨fun e mem message => absurd message (h.selected e mem), fun c r mem => absurd mem (h.sent c r)⟩

/-- While the connection is awaited, nothing was chosen. -/
structure Invocation.Chooses (u : NewUser) (id : ObjectId) (i : Invocation κ) (t : Trace κ) :
    Prop where
  early : i.stage = .checkingOut → i.creation = ⟨u, none⟩ ∧ i.id = id ∧ t.IsPlain
  chosen : t.Chosen u id

section Whole

variable {pool : Pool σ κ} {u : NewUser} {id : ObjectId} {s : σ} {i i' : Invocation κ}
  {turn : Turn σ κ} {t : Trace κ}

theorem WorkState.chooses {w : WorkState} {c : κ} {inFlight : Bool} (chosen : t.Chosen u id) :
    (w.invocation i c inFlight).Chooses u id (t ++ (w.turn pool c inFlight s).trace) :=
  ⟨by cases w <;> nofun, chosen.append w.isPlain_turn⟩

theorem Polls.chooses (h : Polls pool s i turn i') (before : i.Chooses u id t) :
    i'.Chooses u id (t ++ turn.trace) := by
  cases h with
  | cancelled => exact ⟨nofun, before.chosen.append ⟨by simp [Event.message], by simp⟩⟩
  | waiting =>
    obtain ⟨rfl, rfl, plain⟩ := before.early rfl
    have looked : Trace.IsPlain (t ++ [.token false, .checkOut none]) :=
      plain.append ⟨by simp, by simp⟩
    exact ⟨fun _ => ⟨rfl, rfl, looked⟩, looked.chosen⟩
  | crashed => exact ⟨nofun, before.chosen.append ⟨by simp, by simp⟩⟩
  | refused => exact ⟨nofun, before.chosen.append ⟨by simp [Event.message], by simp⟩⟩
  | @begun creation id' c _ _ seg _ w token look begins =>
    obtain ⟨rfl, rfl, plain⟩ := before.early rfl
    have delivery : Trace.IsPlain (t ++ .token false :: Trace.delivery c) :=
      plain.append ⟨by simp [Trace.delivery, Event.message], by simp [Trace.delivery]⟩
    have worked := begins.chosenOn.chosen delivery (by simp [Trace.delivery])
    rw [Turn.trace_preceded, ← List.append_assoc, ← List.append_assoc]
    exact WorkState.chooses worked
  | resumed awaits =>
    rw [Turn.trace_preceded, ← List.append_assoc]
    exact WorkState.chooses (before.chosen.append awaits.isPlain)

theorem Drops.chooses (h : Drops pool s i turn) (before : i.Chooses u id t) :
    i.ended.Chooses u id (t ++ turn.trace) := by
  cases h with
  | unheld => exact ⟨nofun, before.chosen.append ⟨by simp, by simp⟩⟩
  | held => exact ⟨nofun, before.chosen.append Lease.isPlain_abandon⟩

end Whole

theorem Run.chooses (pool : Pool σ κ) (u : NewUser) (id : ObjectId) (s : σ)
    (moves : List (Move σ)) :
    ((start u id s).follow pool moves).invocation.Chooses u id
      ((start u id s).follow pool moves).trace := by
  have plain : Trace.IsPlain ([] : Trace κ) := ⟨by simp, by simp⟩
  refine follow_invariant (I := fun r => r.invocation.Chooses u id r.trace) ?_ (start_sound u id s)
    ⟨fun _ => ⟨rfl, rfl, plain⟩, plain.chosen⟩
  intro r m r' _ sound before step
  cases step with
  | rested | changed => exact before
  | polled live polls => exact polls.chooses before
  | dropped live drops => exact drops.chooses before

end UserProvision
