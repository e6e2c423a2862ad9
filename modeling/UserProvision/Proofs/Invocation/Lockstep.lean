import Mathlib.Data.List.Forall2
import UserProvision.Proofs.Invocation.Run
import UserProvision.Proofs.Pool.Trace

/-!
# Invocations in lockstep

Two invocations whose pools answer alike and whose requests look alike do the same, step by step.
Their pools need not have the same states, only related ones. Polled invocations can part in one
way: the token of the first is seen to be cancelled when that of the second is not.

## Main definitions

* `Pool.Mirrors`, `Pool.MirrorsCalls`, `Pool.MirrorsPolls` — pools that answer alike in related
  states.
* `Trace.Agrees` — the same entries, with related requests.
* `Creation.Agrees` — creations whose requests are related for every server.
-/

namespace UserProvision

variable {σ τ κ α : Type}

/-! ## Agreement -/

/-- Requests that look the same in logs. -/
structure Request.LooksLike (r r' : Request) : Prop where
  name : r.name = r'.name
  database : r.database = r'.database
  logText : r.logText = r'.logText

/-- Of an insert, logs show the collection only. -/
theorem Insert.looksLike {i i' : Insert} (target : i.target = i'.target) :
    (Request.insert i).LooksLike (.insert i') where
  name := rfl
  database := congrArg Namespace.database target
  logText := rfl

/-- Two calls that were answered alike and left related states. -/
def Answered (R : σ → τ → Prop) (x : α × σ) (y : α × τ) : Prop := x.1 = y.1 ∧ R x.2 y.2

theorem Answered.of_eq {R : σ → τ → Prop} {x : α × σ} {y : α × τ} (h : Answered R x y) {a : α}
    {s : σ} (eq : x = (a, s)) : ∃ t, y = (a, t) ∧ R s t := by
  subst eq
  exact ⟨y.2, by rw [show a = y.1 from h.1], h.2⟩

/-- Two pools are asked about servers and given connections back with the same answers in related
states. Related requests look alike. -/
structure Pool.Mirrors (P : Pool σ κ) (Q : Pool τ κ) (R : σ → τ → Prop)
    (S : Request → Request → Prop) : Prop where
  looks : ∀ {r r' : Request}, S r r' → r.LooksLike r'
  describe : ∀ (c : κ) {s : σ} {t : τ}, R s t → Answered R (P.describe c s) (Q.describe c t)
  checkIn : ∀ (c : κ) (state : CheckInState) {s : σ} {t : τ}, R s t →
    Answered R (P.checkIn c state s) (Q.checkIn c state t)

/-- Two pools that answer alike to invocations that wait. -/
structure Pool.MirrorsCalls (P : Pool σ κ) (Q : Pool τ κ) (R : σ → τ → Prop)
    (S : Request → Request → Prop) : Prop extends P.Mirrors Q R S where
  checkOut : ∀ {s : σ} {t : τ}, R s t → Answered R (P.checkOut s) (Q.checkOut t)
  exchange : ∀ (c : κ) {r r' : Request} {s : σ} {t : τ}, S r r' → R s t →
    Answered R (P.exchange c r s) (Q.exchange c r' t)

/-- Two pools that answer alike to polled invocations. The first may be cancelled on its own. -/
structure Pool.MirrorsPolls (P : Pool σ κ) (Q : Pool τ κ) (R : σ → τ → Prop)
    (S : Request → Request → Prop) : Prop extends P.Mirrors Q R S where
  pollCheckOut : ∀ {s : σ} {t : τ}, R s t → Answered R (P.pollCheckOut s) (Q.pollCheckOut t)
  send : ∀ (c : κ) {r r' : Request} {s : σ} {t : τ}, S r r' → R s t →
    R (P.send c r s) (Q.send c r' t)
  pollReply : ∀ (c : κ) {s : σ} {t : τ}, R s t → Answered R (P.pollReply c s) (Q.pollReply c t)
  token : ∀ {s : σ} {t : τ}, R s t → Q.isCancelled t = true → P.isCancelled s = true

theorem Pool.MirrorsPolls.token_eq_false {P : Pool σ κ} {Q : Pool τ κ} {R : σ → τ → Prop}
    {S : Request → Request → Prop} (h : P.MirrorsPolls Q R S) {s : σ} {t : τ} (related : R s t)
    (live : P.isCancelled s = false) : Q.isCancelled t = false := by
  cases token : Q.isCancelled t with
  | false => rfl
  | true => rw [h.token related token] at live; cases live

/-- The first token is cancelled and the second is not, in related states. -/
def Pool.Parts (P : Pool σ κ) (Q : Pool τ κ) (R : σ → τ → Prop) : Prop :=
  ∃ s t, R s t ∧ P.isCancelled s = true ∧ Q.isCancelled t = false

/-- The same entry, or requests that are related. -/
inductive Entry.Agrees (S : Request → Request → Prop) : Entry κ → Entry κ → Prop where
  | same {e : Entry κ} (unsent : e.request? = none) : Agrees S e e
  | request (c : κ) {r r' : Request} (related : S r r') : Agrees S (.request c r) (.request c r')

/-- Traces that agree entry by entry. -/
def Trace.Agrees (S : Request → Request → Prop) (t t' : Trace κ) : Prop :=
  List.Forall₂ (Entry.Agrees S) t t'

namespace Trace.Agrees

variable {S : Request → Request → Prop} {t t' u u' : Trace κ}

theorem of_requests_eq_nil (h : t.requests = []) : t.Agrees S t :=
  List.forall₂_same.mpr fun e he => .same (List.filterMap_eq_nil_iff.mp h e he)

theorem append (h : t.Agrees S t') (h' : u.Agrees S u') : (t ++ u).Agrees S (t' ++ u') :=
  List.rel_append h h'

/-- Views that do not tell related requests apart are the same on both sides. -/
theorem filterMap_eq {β : Type} {f : Entry κ → Option β}
    (blind : ∀ c r r', S r r' → f (.request c r) = f (.request c r')) (h : t.Agrees S t') :
    t.filterMap f = t'.filterMap f := by
  induction h with
  | nil => rfl
  | cons agrees _ ih =>
    cases agrees with
    | same => simp [List.filterMap_cons, ih]
    | request c related => simp [List.filterMap_cons, ih, blind _ _ _ related]

theorem events (h : t.Agrees S t') : t.events = t'.events := h.filterMap_eq fun _ _ _ _ => rfl

theorem checkIns (h : t.Agrees S t') : t.checkIns = t'.checkIns :=
  h.filterMap_eq fun _ _ _ _ => rfl

theorem requests (h : t.Agrees S t') : List.Forall₂ S t.requests t'.requests := by
  induction h with
  | nil => exact .nil
  | cons agrees _ ih =>
    cases agrees with
    | same unsent =>
      rw [requests_cons, requests_cons, unsent]
      exact ih
    | request c related => exact .cons related ih

theorem eq (h : t.Agrees Eq t') : t = t' := by
  induction h with
  | nil => rfl
  | cons agrees _ ih =>
    cases agrees with
    | same => rw [ih]
    | request c related => rw [related, ih]

end Trace.Agrees

/-- Turns that ended alike. -/
structure Turn.Agrees (R : σ → τ → Prop) (S : Request → Request → Prop) (turn : Turn σ κ)
    (turn' : Turn τ κ) : Prop where
  progress : turn.progress = turn'.progress
  trace : turn.trace.Agrees S turn'.trace
  pool : R turn.pool turn'.pool

theorem Turn.Agrees.preceded {R : σ → τ → Prop} {S : Request → Request → Prop} {turn : Turn σ κ}
    {turn' : Turn τ κ} (h : turn.Agrees R S turn') {t t' : Trace κ} (before : t.Agrees S t') :
    (turn.preceded t).Agrees R S (turn'.preceded t') :=
  ⟨h.progress, before.append h.trace, h.pool⟩

/-- The same failure, or values that are related. -/
inductive SameOutcome {ε : Type} (S : α → α → Prop) : Except ε α → Except ε α → Prop where
  | failed (e : ε) : SameOutcome S (.error e) (.error e)
  | given {a a' : α} (related : S a a') : SameOutcome S (.ok a) (.ok a')

namespace SameOutcome

variable {ε : Type} {S : α → α → Prop} {x y : Except ε α}

theorem of_error (h : SameOutcome S x y) {e : ε} (eq : x = .error e) : y = .error e := by
  subst eq
  cases h
  rfl

theorem of_ok (h : SameOutcome S x y) {a : α} (eq : x = .ok a) : ∃ a', y = .ok a' ∧ S a a' := by
  subst eq
  cases h with
  | given related => exact ⟨_, rfl, related⟩

end SameOutcome

/-- Creations that differ in what they request, but not beyond the given relation. -/
structure Creation.Agrees (S : Request → Request → Prop) (creation : Creation) (id : ObjectId)
    (creation' : Creation) (id' : ObjectId) : Prop where
  selection : ∀ d, creation.selection d = creation'.selection d
  request : ∀ d, SameOutcome S (creation.request id d) (creation'.request id' d)
  strategy : creation.strategy = creation'.strategy

theorem Creation.Agrees.refl {S : Request → Request → Prop} (reflexive : ∀ r, S r r)
    (creation : Creation) (id : ObjectId) : creation.Agrees S id creation id where
  selection _ := rfl
  strategy := rfl
  request d := by
    cases creation.request id d with
    | ok r => exact .given (reflexive r)
    | error e => exact .failed e

/-- A reply is read by the strategy alone. -/
theorem Creation.verdict_congr {creation creation' : Creation}
    (same : creation.strategy = creation'.strategy) : creation.verdict = creation'.verdict := by
  funext outcome
  cases outcome with
  | error e => rfl
  | ok reply => simp only [verdict, handleReply, same]

theorem Creation.Agrees.afterBuild {S : Request → Request → Prop} {creation creation' : Creation}
    {id id' : ObjectId} (h : creation.Agrees S id creation' id') (d : Description) :
    (creation.afterBuild id d).strategy = (creation'.afterBuild id' d).strategy := by
  have built := h.request d
  unfold Creation.afterBuild
  cases request : creation.request id d with
  | error e => rw [built.of_error request, h.strategy]
  | ok r =>
    obtain ⟨r', request', -⟩ := built.of_ok request
    rw [request']

/-! ## Steps -/

/-- The same server, and related requests for it. -/
def Prepared (S : Request → Request → Prop) (x y : Description × Request) : Prop :=
  x.1 = y.1 ∧ S x.2 y.2

section Steps

variable {P : Pool σ κ} {Q : Pool τ κ} {R : σ → τ → Prop} {S : Request → Request → Prop}
  {creation creation' : Creation} {id id' : ObjectId} {c : κ} {s s' : σ} {t : τ} {seg : Trace κ}
  {inFlight : Bool}

theorem Prepares.mirrored {r : Except Halt (Description × Request)} (mirrors : P.Mirrors Q R S)
    (agrees : creation.Agrees S id creation' id') (related : R s t)
    (h : Prepares P creation id c s seg s' r) :
    ∃ seg' t' r', Prepares Q creation' id' c t seg' t' r' ∧ seg.Agrees S seg' ∧ R s' t' ∧
      SameOutcome (Prepared S) r r' := by
  have answered := mirrors.describe c related
  cases h with
  | crashed asked =>
    obtain ⟨t', asked', related'⟩ := answered.of_eq asked
    exact ⟨_, _, _, .crashed asked', .of_requests_eq_nil rfl, related', .failed _⟩
  | failed asked =>
    obtain ⟨t', asked', related'⟩ := answered.of_eq asked
    exact ⟨_, _, _, .failed asked', .of_requests_eq_nil rfl, related', .failed _⟩
  | @unbuilt d e _ asked request =>
    obtain ⟨t', asked', related'⟩ := answered.of_eq asked
    have request' := (agrees.request d).of_error request
    refine ⟨_, _, _, .unbuilt asked' request', ?_, related', .failed _⟩
    rw [agrees.selection d]
    exact .of_requests_eq_nil rfl
  | @built d r _ asked request =>
    obtain ⟨t', asked', related'⟩ := answered.of_eq asked
    obtain ⟨r', request', similar⟩ := (agrees.request d).of_ok request
    refine ⟨_, _, _, .built asked' request', ?_, related', .given ⟨rfl, similar⟩⟩
    rw [agrees.selection d]
    exact .of_requests_eq_nil rfl

/-- Requests that look alike begin and end their round trips alike. -/
theorem Request.LooksLike.trip {r r' : Request} (h : r.LooksLike r') (d : Description) :
    r.trip d = r'.trip d := by rw [Request.trip, Request.trip, h.name]

theorem Request.LooksLike.started {r r' : Request} (h : r.LooksLike r') (d : Description) :
    r.started d = r'.started d := by
  rw [Request.started, Request.started, h.logText, h.database, h.trip d]

/-- Two related requests are sent alike. -/
theorem Trace.Agrees.sending {r r' : Request} (mirrors : P.Mirrors Q R S) (similar : S r r')
    (d : Description) {rest : Trace κ} (unsent : rest.requests = []) :
    Trace.Agrees S (.event (r.started d) :: .request c r :: rest)
      (.event (r'.started d) :: .request c r' :: rest) := by
  rw [(mirrors.looks similar).started d]
  exact .cons (.same rfl) (.cons (.request c similar) (of_requests_eq_nil unsent))

theorem Works.mirrored {w : WorkEnd} (mirrors : P.MirrorsCalls Q R S)
    (agrees : creation.Agrees S id creation' id') (related : R s t)
    (h : Works P creation id c s seg inFlight s' w) :
    ∃ seg' t', Works Q creation' id' c t seg' inFlight t' w ∧ seg.Agrees S seg' ∧ R s' t' := by
  cases h with
  | stopped prepared =>
    obtain ⟨seg', t', r', prepared', same, related', outcome⟩ :=
      prepared.mirrored mirrors.toMirrors agrees related
    obtain rfl := outcome.of_error rfl
    exact ⟨_, _, .stopped prepared', same, related'⟩
  | @crashed _ _ _ d r message prepared sent =>
    obtain ⟨seg', t', r', prepared', same, related', outcome⟩ :=
      prepared.mirrored mirrors.toMirrors agrees related
    obtain ⟨⟨d', r''⟩, rfl, rfl, similar⟩ := outcome.of_ok rfl
    obtain ⟨t'', sent', related''⟩ := (mirrors.exchange c similar related').of_eq sent
    exact ⟨_, _, .crashed prepared' sent',
      same.append (.sending mirrors.toMirrors similar d rfl), related''⟩
  | @answered _ _ _ d r _ outcome prepared sent ready =>
    obtain ⟨seg', t', r', prepared', same, related', prepares⟩ :=
      prepared.mirrored mirrors.toMirrors agrees related
    obtain ⟨⟨d', r''⟩, rfl, rfl, similar⟩ := prepares.of_ok rfl
    obtain ⟨t'', sent', related''⟩ := (mirrors.exchange c similar related').of_eq sent
    rw [Creation.verdict_congr (agrees.afterBuild d), (mirrors.looks similar).trip d]
    refine ⟨_, _, .answered prepared' sent' ready, ?_, related''⟩
    exact (same.append (.sending mirrors.toMirrors similar d rfl)).append
      (.of_requests_eq_nil (RoundTrip.isLog_closing _ _).requests_eq_nil)

/-- How far two invocations have come that do the same. -/
inductive WorkState.Agrees : WorkState → WorkState → Prop where
  | waits {creation creation' : Creation} (strategy : creation.strategy = creation'.strategy)
      (trip : RoundTrip) : Agrees (.waits creation trip) (.waits creation' trip)
  | ended (w : WorkEnd) : Agrees (.ended w) (.ended w)

theorem Awaits.mirrored {trip : RoundTrip} {w : WorkState} (mirrors : P.MirrorsPolls Q R S)
    (strategy : creation.strategy = creation'.strategy) (related : R s t)
    (h : Awaits P creation c s trip seg inFlight s' w) :
    (∃ t' w', Awaits Q creation' c t trip seg inFlight t' w' ∧ R s' t' ∧ w.Agrees w') ∨
      (Entry.token true ∈ seg ∧ P.Parts Q R) := by
  have answered := mirrors.pollReply c related
  cases h with
  | crashed look =>
    obtain ⟨t', look', related'⟩ := answered.of_eq look
    exact .inl ⟨_, _, .crashed look', related', .ended _⟩
  | answered look ready =>
    obtain ⟨t', look', related'⟩ := answered.of_eq look
    rw [Creation.verdict_congr strategy]
    exact .inl ⟨_, _, .answered look' ready, related', .ended _⟩
  | cancelled look token =>
    obtain ⟨t', look', related'⟩ := answered.of_eq look
    cases token' : Q.isCancelled t' with
    | true => exact .inl ⟨_, _, .cancelled look' token', related', .ended _⟩
    | false => exact .inr ⟨by simp, _, _, related', token, token'⟩
  | waiting look token =>
    obtain ⟨t', look', related'⟩ := answered.of_eq look
    have token' := mirrors.token_eq_false related' token
    exact .inl ⟨_, _, .waiting look' token', related', .waits strategy trip⟩

theorem Awaits.requests_eq_nil {trip : RoundTrip} {w : WorkState}
    (h : Awaits P creation c s trip seg inFlight s' w) : seg.requests = [] := by
  cases h with
  | crashed | cancelled | waiting => rfl
  | answered => simp [(RoundTrip.isLog_closing _ _).requests_eq_nil]

theorem Begins.mirrored {w : WorkState} (mirrors : P.MirrorsPolls Q R S)
    (agrees : creation.Agrees S id creation' id') (related : R s t)
    (h : Begins P creation id c s seg inFlight s' w) :
    (∃ seg' t' w', Begins Q creation' id' c t seg' inFlight t' w' ∧ seg.Agrees S seg' ∧ R s' t' ∧
        w.Agrees w') ∨
      (Entry.token true ∈ seg ∧ P.Parts Q R) := by
  cases h with
  | stopped prepared =>
    obtain ⟨seg', t', r', prepared', same, related', outcome⟩ :=
      prepared.mirrored mirrors.toMirrors agrees related
    obtain rfl := outcome.of_error rfl
    exact .inl ⟨_, _, _, .stopped prepared', same, related', .ended _⟩
  | cancelled prepared token =>
    obtain ⟨seg', t', r', prepared', same, related', outcome⟩ :=
      prepared.mirrored mirrors.toMirrors agrees related
    obtain ⟨⟨d', r''⟩, rfl, -, similar⟩ := outcome.of_ok rfl
    cases token' : Q.isCancelled t' with
    | true =>
      exact .inl ⟨_, _, _, .cancelled prepared' token', same.append (.of_requests_eq_nil rfl),
        related', .ended _⟩
    | false => exact .inr ⟨by simp, _, _, related', token, token'⟩
  | @sent start rest _ _ d r _ _ prepared token awaits =>
    obtain ⟨seg', t', r', prepared', same, related', outcome⟩ :=
      prepared.mirrored mirrors.toMirrors agrees related
    obtain ⟨⟨d', r''⟩, rfl, rfl, similar⟩ := outcome.of_ok rfl
    have token' := mirrors.token_eq_false related' token
    have sent := mirrors.send c similar related'
    have trip := (mirrors.looks similar).trip d
    rcases awaits.mirrored mirrors (agrees.afterBuild d) sent with
      ⟨t'', w', awaits', related'', states⟩ | ⟨noticed, parts⟩
    · rw [trip] at awaits'
      refine .inl ⟨_, _, _, .sent prepared' token' awaits', ?_, related'', states⟩
      have sending : Trace.Agrees S [.token false, .event (r.started d), .request c r]
          [.token false, .event (r''.started d), .request c r''] :=
        .cons (.same rfl) (Trace.Agrees.sending mirrors.toMirrors similar d rfl)
      exact (same.append sending).append (.of_requests_eq_nil awaits.requests_eq_nil)
    · exact .inr ⟨List.mem_append_right _ noticed, parts⟩

/-! ## Turns -/

theorem WorkEnd.mirrored (w : WorkEnd) (mirrors : P.Mirrors Q R S) (related : R s t) :
    (w.close P c inFlight s).Agrees R S (w.close Q c inFlight t) := by
  obtain ⟨answer, pool⟩ := mirrors.checkIn c (Lease.state ⟨some c, inFlight⟩) related
  refine ⟨?_, ?_, pool⟩
  · simp only [close, answer]
  · simp only [close, answer]
    refine .of_requests_eq_nil ?_
    cases (Q.checkIn c (Lease.state ⟨some c, inFlight⟩) t).1 <;>
      simp [Act.handedBack, Act.complaints, Trace.IsLog.requests_eq_nil (.map_event _)]

theorem Lease.abandon_mirrored (mirrors : P.Mirrors Q R S) (related : R s t) :
    (Lease.abandon P c inFlight s).Agrees R S (Lease.abandon Q c inFlight t) := by
  obtain ⟨answer, pool⟩ := mirrors.checkIn c (Lease.state ⟨some c, inFlight⟩) related
  refine ⟨?_, ?_, pool⟩
  · simp only [abandon, answer]
  · simp only [abandon, answer]
    refine .of_requests_eq_nil ?_
    cases (Q.checkIn c (Lease.state ⟨some c, inFlight⟩) t).1 <;>
      simp [Act.handedBack, Act.complaints]

theorem Executes.mirrored {turn : Turn σ κ} (mirrors : P.MirrorsCalls Q R S)
    (agrees : creation.Agrees S id creation' id') (related : R s t)
    (h : Executes P creation id s turn) :
    ∃ turn', Executes Q creation' id' t turn' ∧ turn.Agrees R S turn' := by
  have answered := mirrors.checkOut related
  cases h with
  | crashed asked =>
    obtain ⟨t', asked', related'⟩ := answered.of_eq asked
    exact ⟨_, .crashed asked', rfl, .of_requests_eq_nil rfl, related'⟩
  | refused asked =>
    obtain ⟨t', asked', related'⟩ := answered.of_eq asked
    exact ⟨_, .refused asked', rfl, .of_requests_eq_nil rfl, related'⟩
  | @worked c _ _ seg _ w asked works =>
    obtain ⟨t', asked', related'⟩ := answered.of_eq asked
    obtain ⟨seg', t'', works', same, related''⟩ := works.mirrored mirrors agrees related'
    have delivery : (Trace.delivery c).Agrees S (Trace.delivery c) := .of_requests_eq_nil rfl
    exact ⟨_, .worked asked' works',
      (w.mirrored mirrors.toMirrors related'').preceded (delivery.append same)⟩

/-- Invocations that wait at the same point, having done the same. -/
inductive Invocation.Agrees (S : Request → Request → Prop) :
    Invocation κ → Invocation κ → Prop where
  | checkingOut {creation creation' : Creation} {id id' : ObjectId}
      (agrees : creation.Agrees S id creation' id') :
      Agrees S ⟨creation, id, .checkingOut, none⟩ ⟨creation', id', .checkingOut, none⟩
  | awaitingReply {first first' creation creation' : Creation} {id id' : ObjectId}
      (strategy : creation.strategy = creation'.strategy) (trip : RoundTrip) (c : κ) :
      Agrees S ⟨first, id, .awaitingReply creation trip, some ⟨some c, true⟩⟩
        ⟨first', id', .awaitingReply creation' trip, some ⟨some c, true⟩⟩
  | finished {creation creation' : Creation} {id id' : ObjectId} :
      Agrees S ⟨creation, id, .over, none⟩ ⟨creation', id', .over, none⟩

theorem WorkState.Agrees.turn {w w' : WorkState} (h : w.Agrees w') (mirrors : P.Mirrors Q R S)
    (related : R s t) : (w.turn P c inFlight s).Agrees R S (w'.turn Q c inFlight t) := by
  cases h with
  | waits => exact ⟨rfl, .nil, related⟩
  | ended w => exact w.mirrored mirrors related

theorem WorkState.Agrees.invocation {w w' : WorkState} (h : w.Agrees w') (i i' : Invocation κ)
    (waits : ∀ creation trip, w = .waits creation trip → inFlight = true) :
    (w.invocation i c inFlight).Agrees S (w'.invocation i' c inFlight) := by
  cases h with
  | waits strategy trip =>
    obtain rfl := waits _ _ rfl
    exact .awaitingReply strategy trip c
  | ended w => exact .finished

theorem Polls.mirrored {i i' j : Invocation κ} {turn : Turn σ κ} (mirrors : P.MirrorsPolls Q R S)
    (agrees : i.Agrees S j) (related : R s t) (h : Polls P s i turn i') :
    (∃ turn' j', Polls Q t j turn' j' ∧ turn.Agrees R S turn' ∧ i'.Agrees S j') ∨
      (Entry.token true ∈ turn.trace ∧ P.Parts Q R) := by
  have answered := mirrors.pollCheckOut related
  cases h with
  | cancelled token =>
    cases agrees with
    | checkingOut agrees =>
      cases token' : Q.isCancelled t with
      | true =>
        exact .inl ⟨_, _, .cancelled token', ⟨rfl, .of_requests_eq_nil rfl, related⟩, .finished⟩
      | false => exact .inr ⟨by simp, _, _, related, token, token'⟩
  | waiting token look =>
    cases agrees with
    | checkingOut agrees =>
      obtain ⟨t', look', related'⟩ := answered.of_eq look
      have token' := mirrors.token_eq_false related token
      exact .inl ⟨_, _, .waiting token' look', ⟨rfl, .of_requests_eq_nil rfl, related'⟩,
        .checkingOut agrees⟩
  | crashed token look =>
    cases agrees with
    | checkingOut agrees =>
      obtain ⟨t', look', related'⟩ := answered.of_eq look
      have token' := mirrors.token_eq_false related token
      exact .inl ⟨_, _, .crashed token' look', ⟨rfl, .of_requests_eq_nil rfl, related'⟩, .finished⟩
  | refused token look =>
    cases agrees with
    | checkingOut agrees =>
      obtain ⟨t', look', related'⟩ := answered.of_eq look
      have token' := mirrors.token_eq_false related token
      exact .inl ⟨_, _, .refused token' look', ⟨rfl, .of_requests_eq_nil rfl, related'⟩, .finished⟩
  | @begun creation id c _ _ seg inFlight w token look begins =>
    cases agrees with
    | checkingOut agrees =>
      obtain ⟨t', look', related'⟩ := answered.of_eq look
      have token' := mirrors.token_eq_false related token
      rcases begins.mirrored mirrors agrees related' with
        ⟨seg', t'', w', begins', same, related'', states⟩ | ⟨noticed, parts⟩
      · have before : Trace.Agrees S (.token false :: Trace.delivery c)
            (.token false :: Trace.delivery c) := .of_requests_eq_nil rfl
        exact .inl ⟨_, _, .begun token' look' begins',
          (states.turn mirrors.toMirrors related'').preceded (before.append same),
          states.invocation _ _ fun _ _ waits => (waits ▸ begins).inFlight_of_waits⟩
      · exact .inr ⟨by simp [noticed], parts⟩
  | @resumed creation creation' id trip c _ seg inFlight w awaits =>
    cases agrees with
    | awaitingReply strategy =>
      rcases awaits.mirrored mirrors strategy related with
        ⟨t', w', awaits', related', states⟩ | ⟨noticed, parts⟩
      · have same : seg.Agrees S seg := .of_requests_eq_nil awaits.requests_eq_nil
        exact .inl ⟨_, _, .resumed awaits', (states.turn mirrors.toMirrors related').preceded same,
          states.invocation _ _ fun _ _ waits => (waits ▸ awaits).inFlight_of_waits⟩
      · exact .inr ⟨by simp [noticed], parts⟩

theorem Drops.mirrored {i j : Invocation κ} {turn : Turn σ κ} (mirrors : P.Mirrors Q R S)
    (agrees : i.Agrees S j) (related : R s t) (h : Drops P s i turn) :
    ∃ turn', Drops Q t j turn' ∧ turn.Agrees R S turn' := by
  cases h with
  | unheld =>
    cases agrees with
    | checkingOut => exact ⟨_, .unheld _ _, rfl, .nil, related⟩
  | held =>
    cases agrees with
    | awaitingReply => exact ⟨_, .held .., Lease.abandon_mirrored mirrors related⟩

end Steps

/-! ## Pools that do not look closely -/

/-- A pool that answers related requests alike. -/
structure Pool.IsBlind (S : Request → Request → Prop) (pool : Pool σ κ) : Prop where
  exchange : ∀ c {r r' : Request}, S r r' → ∀ s, pool.exchange c r s = pool.exchange c r' s
  send : ∀ c {r r' : Request}, S r r' → ∀ s, pool.send c r s = pool.send c r' s

namespace Pool.IsBlind

variable {pool : Pool σ κ} {S S' : Request → Request → Prop}

theorem mono (h : pool.IsBlind S') (le : ∀ r r', S r r' → S' r r') : pool.IsBlind S where
  exchange c _ _ related := h.exchange c (le _ _ related)
  send c _ _ related := h.send c (le _ _ related)

theorem mirrors (looks : ∀ {r r' : Request}, S r r' → r.LooksLike r') :
    pool.Mirrors pool Eq S where
  looks := looks
  describe := by rintro c s _ rfl; exact ⟨rfl, rfl⟩
  checkIn := by rintro c state s _ rfl; exact ⟨rfl, rfl⟩

theorem mirrorsCalls (h : pool.IsBlind S) (looks : ∀ {r r' : Request}, S r r' → r.LooksLike r') :
    pool.MirrorsCalls pool Eq S where
  toMirrors := mirrors looks
  checkOut := by rintro s _ rfl; exact ⟨rfl, rfl⟩
  exchange := by
    rintro c r r' s _ related rfl
    rw [h.exchange c related]
    exact ⟨rfl, rfl⟩

theorem mirrorsPolls (h : pool.IsBlind S) (looks : ∀ {r r' : Request}, S r r' → r.LooksLike r') :
    pool.MirrorsPolls pool Eq S where
  toMirrors := mirrors looks
  pollCheckOut := by rintro s _ rfl; exact ⟨rfl, rfl⟩
  send := by rintro c r r' s _ related rfl; exact h.send c related s
  pollReply := by rintro c s _ rfl; exact ⟨rfl, rfl⟩
  token := by rintro s _ rfl token; exact token

end Pool.IsBlind

/-- The token of a pool does not part from itself. -/
theorem Pool.not_parts (pool : Pool σ κ) : ¬pool.Parts pool Eq := by
  rintro ⟨s, _, rfl, cancelled, live⟩
  rw [cancelled] at live
  cases live

/-! ## Runs -/

/-- Moves that do the same, as far as the pools can tell. -/
inductive Move.Agrees (R : σ → τ → Prop) : Move σ → Move τ → Prop where
  | poll : Agrees R .poll .poll
  | drop : Agrees R .drop .drop
  | meanwhile {f : σ → σ} {g : τ → τ} (related : ∀ s t, R s t → R (f s) (g t)) :
      Agrees R (.meanwhile f) (.meanwhile g)

/-- Runs that came to the same. -/
structure Run.Agrees (R : σ → τ → Prop) (S : Request → Request → Prop) (r : Run σ κ)
    (r' : Run τ κ) : Prop where
  invocation : r.invocation.Agrees S r'.invocation
  pool : R r.pool r'.pool
  progress : r.progress = r'.progress
  trace : r.trace.Agrees S r'.trace

section Runs

variable {P : Pool σ κ} {Q : Pool τ κ} {R : σ → τ → Prop} {S : Request → Request → Prop}

theorem Invocation.Agrees.isOver {i j : Invocation κ} (h : i.Agrees S j) : i.isOver = j.isOver := by
  cases h <;> rfl

theorem Invocation.Agrees.sound {i j : Invocation κ} (h : i.Agrees S j) : i.Sound ∧ j.Sound := by
  cases h with
  | checkingOut => exact ⟨.checkingOut .., .checkingOut ..⟩
  | awaitingReply => exact ⟨.awaitingReply .., .awaitingReply ..⟩
  | finished => exact ⟨.finished .., .finished ..⟩

namespace Run.Agrees

theorem after {r : Run σ κ} {r' : Run τ κ} (h : r.Agrees R S r') {turn : Turn σ κ}
    {turn' : Turn τ κ} (turns : turn.Agrees R S turn') {i j : Invocation κ} (left : i.Agrees S j) :
    (r.after turn i).Agrees R S (r'.after turn' j) :=
  ⟨left, turns.pool, turns.progress, h.trace.append turns.trace⟩

/-- A move keeps two runs together, unless only the first is seen to be cancelled. -/
theorem move (mirrors : P.MirrorsPolls Q R S) {r : Run σ κ} {r' : Run τ κ} (h : r.Agrees R S r')
    {m : Move σ} {m' : Move τ} (moves : m.Agrees R m') :
    (r.move P m).Agrees R S (r'.move Q m') ∨
      (Entry.token true ∈ (r.move P m).trace ∧ P.Parts Q R) := by
  have ended : r.isOver = r'.isOver := h.invocation.isOver
  have sound := h.invocation.sound
  cases moves with
  | meanwhile related => exact .inl { h with pool := related _ _ h.pool }
  | drop =>
    have step := Run.steps_move P sound.1 .drop
    generalize r.move P .drop = left at step
    cases step with
    | rested rests => exact .inl (by simpa [Run.move, ← ended, rests] using h)
    | dropped live drops =>
      obtain ⟨turn', drops', turns⟩ := drops.mirrored mirrors.toMirrors h.invocation h.pool
      have left : r.invocation.ended.Agrees S r'.invocation.ended := .finished
      refine .inl ?_
      simpa [Run.move, ← ended, live, drops'.drop] using h.after turns left
  | poll =>
    have step := Run.steps_move P sound.1 .poll
    generalize r.move P .poll = left at step
    cases step with
    | rested rests => exact .inl (by simpa [Run.move, ← ended, rests] using h)
    | polled live polls =>
      rcases polls.mirrored mirrors h.invocation h.pool with
        ⟨turn', j, polls', turns, left⟩ | ⟨noticed, parts⟩
      · refine .inl ?_
        simpa [Run.move, ← ended, live, polls'.poll] using h.after turns left
      · exact .inr ⟨List.mem_append_right _ noticed, parts⟩

/-- Two runs in lockstep come to the same, unless only the first is seen to be cancelled. -/
theorem follow (mirrors : P.MirrorsPolls Q R S) {r : Run σ κ} {r' : Run τ κ}
    (h : r.Agrees R S r') {moves : List (Move σ)} {moves' : List (Move τ)}
    (same : List.Forall₂ (Move.Agrees R) moves moves') :
    (r.follow P moves).Agrees R S (r'.follow Q moves') ∨
      (Entry.token true ∈ (r.follow P moves).trace ∧ P.Parts Q R) := by
  induction same generalizing r r' with
  | nil => exact .inl h
  | @cons m m' moves _ step _ ih =>
    rcases h.move mirrors step with together | ⟨noticed, parts⟩
    · exact ih together
    · exact .inr ⟨(Run.trace_follow P (r.move P m) moves).subset noticed, parts⟩

end Run.Agrees

end Runs

end UserProvision
