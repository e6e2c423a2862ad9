import UserProvision.Proofs.Creation.Requests
import UserProvision.Proofs.Log.Lines
import UserProvision.Proofs.Pool.Script

/-!
# Waiting and polling agree

A script answers every call, after some polls that find nothing yet. An invocation that is polled to
its end does the same as one that waits for every call: it logs the same events, sends the same
requests but for the identifier of the user's document, hands the connection back in the same
condition and ends in the same way.

## Main definitions

* `Trace.settled` — a trace without the polls that found nothing.
* `Request.SameButId` — requests that differ in the identifier alone.
-/

namespace UserProvision

variable {σ κ : Type}

/-! ## Traces without waiting -/

/-- Whether an entry tells only that there was nothing yet. -/
def Entry.isWaiting : Entry κ → Bool
  | .token _ | .checkOut none | .reply _ none => true
  | _ => false

namespace Trace

/-- A trace without the entries that tell only that there was nothing yet. -/
def settled (t : Trace κ) : Trace κ := t.filter fun e => !e.isWaiting

@[simp] theorem settled_append (t t' : Trace κ) : settled (t ++ t') = settled t ++ settled t' :=
  List.filter_append ..

theorem settled_waiting {e : Entry κ} {t : Trace κ} (h : e.isWaiting = true) :
    settled (e :: t) = settled t := by
  simp [settled, h]

theorem settled_cons {e : Entry κ} {t : Trace κ} (h : e.isWaiting = false) :
    settled (e :: t) = e :: settled t := by
  simp [settled, h]

theorem settled_eq_self {t : Trace κ} (h : ∀ e ∈ t, e.isWaiting = false) : t.settled = t :=
  List.filter_eq_self.mpr fun e he => by simp [h e he]

theorem IsLog.settled_eq {t : Trace κ} (h : t.IsLog) : t.settled = t := by
  refine settled_eq_self fun e he => ?_
  obtain ⟨event, rfl⟩ := h e he
  rfl

theorem events_settled (t : Trace κ) : t.settled.events = t.events :=
  t.filterMap_filter fun e waiting => by cases e <;> first | rfl | cases waiting

theorem requests_settled (t : Trace κ) : t.settled.requests = t.requests :=
  t.filterMap_filter fun e waiting => by cases e <;> first | rfl | cases waiting

theorem checkIns_settled (t : Trace κ) : t.settled.checkIns = t.checkIns :=
  t.filterMap_filter fun e waiting => by cases e <;> first | rfl | cases waiting

end Trace

/-! ## Requests that differ in the identifier -/

/-- The same command, or inserts of documents that differ in the identifier alone. -/
inductive Request.SameButId : Request → Request → Prop where
  | command (c : Command) : SameButId (.command c) (.command c)
  | insert (u : NewUser) (id id' : ObjectId) (target : Namespace) (w : WriteConcern) :
      SameButId (.insert ⟨target, [.ofDocument (u.document id)], w⟩)
        (.insert ⟨target, [.ofDocument (u.document id')], w⟩)

theorem Request.SameButId.looks {r r' : Request} (h : r.SameButId r') : r.LooksLike r' := by
  cases h with
  | command => exact ⟨rfl, rfl, rfl⟩
  | insert => exact Insert.looksLike rfl

theorem Creation.agrees_ofId (u : NewUser) (id id' : ObjectId) :
    Creation.Agrees Request.SameButId { user := u } id { user := u } id' where
  selection _ := rfl
  strategy := rfl
  request d := by
    unfold Creation.request
    cases Strategy.forServer d with
    | command =>
      change SameOutcome _ (u.command.map Request.command)
        (u.command.map Request.command)
      cases u.command with
      | error e => exact .failed e
      | ok c => exact .given (.command c)
    | insert =>
      change SameOutcome _ ((u.insert id d.maxDocumentSize).map Request.insert)
        ((u.insert id' d.maxDocumentSize).map Request.insert)
      have size := (u.size_document id).trans (u.size_document id').symm
      rw [NewUser.insert_eq, NewUser.insert_eq, size]
      by_cases large : d.maxDocumentSize.toInt < (RawDocument.ofDocument (u.document id')).size
      · rw [if_pos large, if_pos large]
        exact .failed _
      · rw [if_neg large, if_neg large]
        exact .given (.insert u id id' _ _)

/-! ## Polling until the answer -/

section Polling

variable {S : Request → Request → Prop} {script : Script S σ κ} {s : Delayed σ}

namespace Run

/-- Several polls in a row. -/
def polls (pool : Pool σ κ) (r : Run σ κ) (count : Nat) : Run σ κ :=
  r.follow pool (List.replicate count .poll)

theorem polls_add (pool : Pool σ κ) (r : Run σ κ) (m n : Nat) :
    r.polls pool (m + n) = (r.polls pool m).polls pool n := by
  rw [polls, List.replicate_add, follow_append, polls, polls]

theorem polls_succ (pool : Pool σ κ) (r : Run σ κ) (n : Nat) :
    r.polls pool (n + 1) = (r.move pool .poll).polls pool n := rfl

/-- An invocation that is over does not go on. -/
theorem polls_of_isOver {r : Run σ κ} (pool : Pool σ κ) (ended : r.isOver = true) (n : Nat) :
    r.polls pool n = r := by
  induction n with
  | zero => rfl
  | succ n ih => rw [polls_succ, move, if_pos ended, ih]

/-- Once an invocation is over, further polls lead nowhere. -/
theorem polls_of_le {r : Run σ κ} (pool : Pool σ κ) {m n : Nat} (le : m ≤ n)
    (ended : (r.polls pool m).isOver = true) : r.polls pool n = r.polls pool m := by
  obtain ⟨more, rfl⟩ := Nat.exists_eq_add_of_le le
  rw [polls_add, polls_of_isOver pool ended]

/-- A poll does what its rule says. -/
theorem move_poll {pool : Pool σ κ} {r : Run σ κ} {s : σ} {turn : Turn σ κ} {i i' : Invocation κ}
    (stage : r.invocation = i) (state : r.pool = s) (h : Polls pool s i turn i') :
    r.move pool .poll = r.after turn i' := by
  subst stage state
  have live : r.isOver = false := h.live
  simp [move, live, h.poll]

end Run

theorem Run.after_after (r : Run σ κ) (turn turn' : Turn σ κ) (i i' : Invocation κ) :
    (r.after turn i).after turn' i' = r.after (turn'.preceded turn.trace) i' := by
  simp [after]

/-- A reply that is delayed is found after so many polls and one. -/
theorem Run.polls_awaiting {creation creation' : Creation} {id : ObjectId} {trip : RoundTrip}
    {c : κ} {rest : Trace κ} {inFlight : Bool} {w : WorkEnd}
    (final : Awaits script.pool creation' c { s with replyDelay := 0 } trip rest inFlight
      { s with replyDelay := 0 } (.ended w))
    (delay : Nat) {r : Run (Delayed σ) κ} (stage : r.invocation =
      ⟨creation, id, .awaitingReply creation' trip, some ⟨some c, true⟩⟩)
    (state : r.pool = { s with replyDelay := delay }) :
    ∃ waiting : Trace κ, waiting.settled = [] ∧ r.polls script.pool (delay + 1) =
      r.after ((w.close script.pool c inFlight { s with replyDelay := 0 }).preceded
        (waiting ++ rest)) ⟨creation, id, .over, none⟩ := by
  induction delay generalizing r with
  | zero =>
    have polled := move_poll stage state (.resumed final)
    exact ⟨[], rfl, by rw [polls_succ, polled]; rfl⟩
  | succ delay ih =>
    have polled := move_poll stage state
      (.resumed (.waiting (script.pollReply_succ s c delay) (script.isCancelled_eq _)))
    obtain ⟨waiting, quiet, eq⟩ := ih (r := r.move script.pool .poll) (by rw [polled]; rfl)
      (by rw [polled]; rfl)
    refine ⟨[.reply c none, .token false] ++ waiting, quiet, ?_⟩
    rw [polls_succ, eq, polled, after_after]
    simp [WorkState.turn, Turn.preceded]

/-- A connection that is delayed is found after so many polls and one. -/
theorem Run.polls_checkingOut (script : Script S σ κ) (delay : Nat) {r : Run (Delayed σ) κ}
    {creation : Creation} {id : ObjectId} (stage : r.invocation = ⟨creation, id, .checkingOut, none⟩)
    (state : r.pool = { s with checkOutDelay := delay }) (pending : r.progress = .pending) :
    ∃ waiting : Trace κ, waiting.settled = [] ∧ r.polls script.pool delay =
      r.after ⟨.pending, waiting, { s with checkOutDelay := 0 }⟩
        ⟨creation, id, .checkingOut, none⟩ := by
  induction delay generalizing r with
  | zero =>
    refine ⟨[], rfl, ?_⟩
    rw [← stage, ← state, ← pending]
    simp [polls, after]
  | succ delay ih =>
    have polled := move_poll stage state
      (.waiting (script.isCancelled_eq _) (script.pollCheckOut_succ s delay))
    obtain ⟨waiting, quiet, eq⟩ := ih (r := r.move script.pool .poll) (by rw [polled]; rfl)
      (by rw [polled]; rfl) (by rw [polled]; rfl)
    refine ⟨[.token false, .checkOut none] ++ waiting, quiet, ?_⟩
    rw [polls_succ, eq, polled, after_after]
    rfl

/-- A request that was sent is answered after so many polls as its reply is delayed and one, counted
from the poll that sent it. -/
theorem Run.polls_sending {creation : Creation} {id : ObjectId} {c : κ} {s₀ s₁ s₂ : Delayed σ}
    {d : Description} {request : Request} {seg rest : Trace κ} {inFlight : Bool} {w : WorkEnd}
    (look : script.pool.pollCheckOut s₀ = (some (.gives c), s₁))
    (prepared : Prepares script.pool creation id c s₁ seg s₂ (.ok (d, request)))
    (delay : Nat) (sent : script.pool.send c request s₂ = { s with replyDelay := delay })
    (final : Awaits script.pool (creation.afterBuild id d) c { s with replyDelay := 0 }
      (request.trip d) rest inFlight { s with replyDelay := 0 } (.ended w))
    {r : Run (Delayed σ) κ} (stage : r.invocation = ⟨creation, id, .checkingOut, none⟩)
    (state : r.pool = s₀) :
    ∃ waiting : Trace κ, waiting.settled = [] ∧ r.polls script.pool (delay + 1) =
      r.after ((w.close script.pool c inFlight { s with replyDelay := 0 }).preceded
        (.token false :: Trace.delivery c ++
          (seg ++ [.token false, .event (request.started d), .request c request]) ++
            waiting ++ rest)) ⟨creation, id, .over, none⟩ := by
  cases delay with
  | zero =>
    have looked : Awaits script.pool (creation.afterBuild id d) c (script.pool.send c request s₂)
        (request.trip d) rest inFlight { s with replyDelay := 0 } (.ended w) := by
      rw [sent]
      exact final
    have polled := move_poll stage state (.begun rfl look (.sent prepared rfl looked))
    refine ⟨[], rfl, ?_⟩
    rw [polls_succ, polled]
    simp only [WorkState.turn, WorkState.invocation, List.append_assoc, List.nil_append]
    rfl
  | succ delay =>
    have looked : Awaits script.pool (creation.afterBuild id d) c (script.pool.send c request s₂)
        (request.trip d) [.reply c none, .token false] true { s with replyDelay := delay }
        (.waits (creation.afterBuild id d) (request.trip d)) := by
      rw [sent]
      exact .waiting rfl rfl
    have polled := move_poll stage state (.begun rfl look (.sent prepared rfl looked))
    obtain ⟨waiting, quiet, eq⟩ := polls_awaiting final delay (r := r.move script.pool .poll)
      (by rw [polled]; rfl) (by rw [polled]; rfl)
    refine ⟨[.reply c none, .token false] ++ waiting, quiet, ?_⟩
    rw [polls_succ, eq, polled, after_after]
    simp [WorkState.turn, Turn.preceded, after]

/-! ## Both conventions together -/

/-- States of one script, the second with a reply that will be delayed. -/
def Delayed.Tracks (delay : Nat) (s t : Delayed σ) : Prop :=
  s.script = t.script ∧ t.replyDelay = delay

namespace Script

theorem mirrors (script : Script S σ κ) (looks : ∀ {r r' : Request}, S r r' → r.LooksLike r')
    (delay : Nat) : script.pool.Mirrors script.pool (Delayed.Tracks delay) S where
  looks := looks
  describe c s t tracks := by
    obtain ⟨same, rfl⟩ := tracks
    simp [Answered, pool, Delayed.Tracks, same]
  checkIn c state s t tracks := by
    obtain ⟨same, rfl⟩ := tracks
    simp [Answered, pool, Delayed.Tracks, same]

theorem pollCheckOut_of_checkOut {s s' t : Delayed σ} {answer : Answer κ}
    (asked : script.pool.checkOut s = (answer, s')) (same : s.script = t.script) :
    ∃ t', script.pool.pollCheckOut { t with checkOutDelay := 0 } = (some answer, t') ∧
      Delayed.Tracks t.replyDelay s' t' := by
  cases asked
  refine ⟨{ t with checkOutDelay := 0, script := (script.checkOut t.script).2 }, ?_, ?_, rfl⟩
  · simp [pool, same]
  · simp [same]

/-- The reply that an exchange gives is there when the request has been sent and the delay is
over. -/
theorem send_of_exchange {s s' t : Delayed σ} {c : κ} {r r' : Request} {delay : Nat}
    {answer : Answer RawDocument} (sent : script.pool.exchange c r s = (answer, s'))
    (related : S r r') (tracks : Delayed.Tracks delay s t) :
    ∃ t' : Delayed σ, script.pool.send c r' t = { t' with replyDelay := delay } ∧
      t'.answer = some answer ∧ Delayed.Tracks 0 s' { t' with replyDelay := 0 } := by
  obtain ⟨same, rfl⟩ := tracks
  cases sent
  refine ⟨script.pool.send c r' t, rfl, ?_, ?_, rfl⟩ <;>
    simp [pool, script.blind c related, same]

end Script

/-- A run that came to its end by doing what a turn did, apart from waiting. -/
structure Run.Matches (S : Request → Request → Prop) (turn : Turn (Delayed σ) κ)
    (r : Run (Delayed σ) κ) : Prop where
  ended : r.isOver = true
  progress : turn.progress = r.progress
  trace : turn.trace.Agrees S r.trace.settled
  pool : turn.pool.script = r.pool.script

/-- A turn is matched by a run that one like it completes. -/
theorem Run.Matches.after {turn turn' : Turn (Delayed σ) κ} {r : Run (Delayed σ) κ}
    (quiet : r.trace.settled = []) (progress : turn.progress = turn'.progress)
    (trace : turn.trace.Agrees S turn'.trace.settled)
    (pool : turn.pool.script = turn'.pool.script) (creation : Creation) (id : ObjectId) :
    Matches S turn (r.after turn' ⟨creation, id, .over, none⟩) where
  ended := rfl
  progress := progress
  trace := by
    rw [Run.after, Trace.settled_append, quiet, List.nil_append]
    exact trace
  pool := pool

theorem Prepares.settled_eq {pool : Pool σ κ} {creation : Creation} {id : ObjectId} {c : κ}
    {s s' : σ} {seg : Trace κ} {r : Except Halt (Description × Request)}
    (h : Prepares pool creation id c s seg s' r) : seg.settled = seg := by
  cases h <;> rfl

theorem WorkEnd.settled_close (pool : Pool σ κ) (c : κ) (inFlight : Bool) (s : σ) (w : WorkEnd) :
    (w.close pool c inFlight s).trace.settled = (w.close pool c inFlight s).trace := by
  refine Trace.settled_eq_self fun e he => ?_
  have closing := WorkState.isClosing_of_mem_turn (w := .ended w) he
  cases e <;> first | rfl | cases closing

/-- The same for turns that end by handing the connection back. -/
theorem Run.Matches.close {r : Run (Delayed σ) κ} (quiet : r.trace.settled = []) {delay : Nat}
    (mirrors : script.pool.Mirrors script.pool (Delayed.Tracks delay) S) {t : Delayed σ}
    (tracks : Delayed.Tracks delay s t) {before before' : Trace κ}
    (agree : before.Agrees S before'.settled) (w : WorkEnd) (c : κ) (inFlight : Bool)
    (creation : Creation) (id : ObjectId) :
    Matches S ((w.close script.pool c inFlight s).preceded before)
      (r.after ((w.close script.pool c inFlight t).preceded before')
        ⟨creation, id, .over, none⟩) := by
  have closed : (w.close script.pool c inFlight s).Agrees (Delayed.Tracks delay) S
    (w.close script.pool c inFlight t) := w.mirrored mirrors tracks
  refine .after quiet ?_ ?_ ?_ creation id
  · exact closed.progress
  · rw [Turn.trace_preceded, Turn.trace_preceded, Trace.settled_append, WorkEnd.settled_close]
    exact agree.append closed.trace
  · exact closed.pool.1

/-- What is left of a turn that sent a request, without the waiting. -/
theorem Prepares.settled_sending {pool : Pool σ κ} {creation : Creation} {id : ObjectId} {c : κ}
    {s s' : σ} {seg waiting rest : Trace κ} {d : Description} {request : Request}
    (h : Prepares pool creation id c s seg s' (.ok (d, request))) (quiet : waiting.settled = [])
    (settled : rest.settled = rest) :
    Trace.settled (.token false :: Trace.delivery c ++
        (seg ++ [.token false, .event (request.started d), .request c request]) ++
          waiting ++ rest) =
      Trace.delivery c ++ (seg ++ .event (request.started d) :: .request c request :: rest) := by
  have front : Trace.settled (.token false :: Trace.delivery c) = Trace.delivery c := rfl
  have sending : Trace.settled [.token false, .event (request.started d), .request c request] =
      [.event (request.started d), .request c request] := rfl
  simp only [Trace.settled_append, front, sending, h.settled_eq, quiet, settled, List.append_nil]
  simp only [List.append_assoc, List.cons_append, List.nil_append]

/-- A turn that sent a request and had its answer at once is matched by a run whose answer was
delayed. -/
theorem Run.Matches.sending {creation creation' : Creation} {id id' : ObjectId} {c : κ}
    {s s' s'' t t' : Delayed σ} {d : Description} {request : Request}
    {answer : Answer RawDocument} {seg rest : Trace κ} {inFlight : Bool} {w : WorkEnd}
    (looks : ∀ {r r' : Request}, S r r' → r.LooksLike r')
    (agrees : creation.Agrees S id creation' id')
    (look : script.pool.pollCheckOut { t with checkOutDelay := 0 } = (some (.gives c), t'))
    (tracks : Delayed.Tracks t.replyDelay s t')
    (prepared : Prepares script.pool creation id c s seg s' (.ok (d, request)))
    (sent : script.pool.exchange c request s' = (answer, s''))
    (reads : ∀ q : Delayed σ, q.answer = some answer →
      Awaits script.pool (creation'.afterBuild id' d) c { q with replyDelay := 0 } (request.trip d)
        (.reply c (some answer) :: rest) inFlight { q with replyDelay := 0 } (.ended w))
    (log : rest.IsLog) {r : Run (Delayed σ) κ}
    (stage : r.invocation = ⟨creation', id', .checkingOut, none⟩)
    (pool : r.pool = { t with checkOutDelay := 0 }) (quiet : r.trace.settled = []) :
    Matches S
      ((w.close script.pool c inFlight s'').preceded (Trace.delivery c ++
        (seg ++ [.event (request.started d), .request c request, .reply c (some answer)] ++ rest)))
      (r.polls script.pool (t.replyDelay + 1)) := by
  have mirrors := script.mirrors looks t.replyDelay
  obtain ⟨seg', t'', r', prepared', agree, tracks', outcome⟩ :=
    prepared.mirrored mirrors agrees tracks
  obtain ⟨⟨d', request'⟩, rfl, rfl, related⟩ := outcome.of_ok rfl
  obtain ⟨q, sent', answered, tracks''⟩ := script.send_of_exchange sent related tracks'
  have final := reads q answered
  rw [(looks related).trip d] at final
  obtain ⟨waiting, quiet', eq⟩ :=
    Run.polls_sending look prepared' t.replyDelay sent' final stage pool
  have reading : Trace.settled (.reply c (some answer) :: rest) = .reply c (some answer) :: rest := by
    rw [Trace.settled_cons rfl, log.settled_eq]
  have delivery : (Trace.delivery c).Agrees S (Trace.delivery c) := .of_requests_eq_nil rfl
  rw [eq]
  refine .close quiet (script.mirrors looks 0) tracks'' ?_ w c inFlight _ _
  rw [prepared'.settled_sending quiet' reading, List.append_assoc]
  refine delivery.append (agree.append (.sending mirrors related d ?_))
  simp [log.requests_eq_nil]

/-- A run that polls to the end does what an invocation does that waits. -/
theorem Executes.polled {creation creation' : Creation} {id id' : ObjectId}
    {turn : Turn (Delayed σ) κ} (h : Executes script.pool creation id s turn)
    (looks : ∀ {r r' : Request}, S r r' → r.LooksLike r')
    (agrees : creation.Agrees S id creation' id') {t : Delayed σ} (same : s.script = t.script)
    {r : Run (Delayed σ) κ} (stage : r.invocation = ⟨creation', id', .checkingOut, none⟩)
    (pool : r.pool = { t with checkOutDelay := 0 }) (quiet : r.trace.settled = []) :
    Run.Matches S turn (r.polls script.pool (t.replyDelay + 1)) := by
  cases h with
  | crashed asked =>
    obtain ⟨t', look, tracks⟩ := script.pollCheckOut_of_checkOut asked same
    have polled := Run.move_poll stage pool (.crashed (script.isCancelled_eq _) look)
    rw [Run.polls_succ, polled, Run.polls_of_isOver _ rfl]
    refine .after quiet ?_ ?_ tracks.1 _ _
    · rfl
    · exact .of_requests_eq_nil rfl
  | refused asked =>
    obtain ⟨t', look, tracks⟩ := script.pollCheckOut_of_checkOut asked same
    have polled := Run.move_poll stage pool (.refused (script.isCancelled_eq _) look)
    rw [Run.polls_succ, polled, Run.polls_of_isOver _ rfl]
    refine .after quiet ?_ ?_ tracks.1 _ _
    · rfl
    · exact .of_requests_eq_nil rfl
  | @worked c _ _ seg inFlight w asked works =>
    obtain ⟨t', look, tracks⟩ := script.pollCheckOut_of_checkOut asked same
    cases works with
    | stopped prepared =>
      have mirrors := script.mirrors looks t.replyDelay
      have delivery : (Trace.delivery c).Agrees S (Trace.delivery c) := .of_requests_eq_nil rfl
      obtain ⟨seg', t'', r', prepared', agree, tracks', outcome⟩ :=
        prepared.mirrored mirrors agrees tracks
      obtain rfl := outcome.of_error rfl
      have polled := Run.move_poll stage pool
        (.begun (script.isCancelled_eq _) look (.stopped prepared'))
      rw [Run.polls_succ, polled, Run.polls_of_isOver _ rfl]
      refine .close quiet mirrors tracks' ?_ _ c false _ _
      rw [List.cons_append, Trace.settled_waiting rfl, Trace.settled_append, prepared'.settled_eq]
      exact delivery.append agree
    | crashed prepared sent =>
      have matched := Run.Matches.sending looks agrees look tracks prepared sent
        (fun q answered => .crashed (by simp [Script.pool, answered])) (List.forall_mem_nil _)
        stage pool quiet
      rwa [List.append_nil] at matched
    | @answered _ _ _ d request answer outcome prepared sent ready =>
      have verdict : (creation.afterBuild id d).verdict = (creation'.afterBuild id' d).verdict :=
        Creation.verdict_congr (agrees.afterBuild d)
      refine .sending looks agrees look tracks prepared sent ?_ (RoundTrip.isLog_closing _ _) stage
        pool quiet
      intro q answered
      rw [verdict]
      exact .answered (by simp [Script.pool, answered]) ready

end Polling

/-- An invocation that is not over says that it is pending. -/
theorem Polls.pending_of_live {pool : Pool σ κ} {s : σ} {i i' : Invocation κ} {turn : Turn σ κ}
    (h : Polls pool s i turn i') (live : i'.isOver = false) : turn.progress = .pending := by
  cases h with
  | waiting => rfl
  | cancelled | crashed | refused => cases live
  | @begun _ _ _ _ _ _ _ w =>
    cases w with
    | waits => rfl
    | ended => cases live
  | @resumed _ _ _ _ _ _ _ _ w =>
    cases w with
    | waits => rfl
    | ended => cases live

theorem Run.pending_of_live (pool : Pool σ κ) (u : NewUser) (id : ObjectId) (s : σ) (count : Nat) :
    ((start u id s).polls pool count).isOver = false →
      ((start u id s).polls pool count).progress = .pending := by
  refine follow_invariant (I := fun r => r.isOver = false → r.progress = .pending) ?_
    (start_sound u id s) (fun _ => rfl)
  intro r m r' mem _ before step live
  cases step with
  | rested | changed => exact before live
  | polled _ polls => exact polls.pending_of_live live
  | dropped => cases live

/-- Polling comes to the same as waiting. Whatever a script answers, and however often the polled
invocation finds no connection and no reply yet, it is over after so many polls and one. As soon as
it is over it has ended in the way in which the waiting one ends, and done the same in between but
for the identifier of the user's document. Until then it says that it is pending. The events are the
same, each with the same error; the lines in which they are told differ at most in the order in
which error texts list their labels, which is any order each time. -/
theorem polling_agrees_with_waiting (script : Script Request.SameButId σ κ) (u : NewUser)
    (id id' : ObjectId) (s : σ) (checkOutDelay replyDelay count : Nat) :
    let waited := u.execute script.pool id ⟨s, checkOutDelay, replyDelay, none⟩
    let r : Run (Delayed σ) κ :=
      (Run.start u id' ⟨s, checkOutDelay, replyDelay, none⟩).polls script.pool count
    (r.isOver = true ∨ count ≤ checkOutDelay + replyDelay) ∧
    if r.isOver then
      r.progress = waited.progress ∧ waited.trace.Agrees Request.SameButId r.trace.settled ∧
        r.trace.events = waited.trace.events ∧ waited.trace.LoggedAlike r.trace ∧
        List.Forall₂ Request.SameButId waited.trace.requests r.trace.requests ∧
        r.trace.checkIns = waited.trace.checkIns ∧ r.pool.script = waited.pool.script
    else r.progress = .pending := by
  intro waited r
  have whole : Run.Matches Request.SameButId waited
      ((Run.start u id' ⟨s, checkOutDelay, replyDelay, none⟩).polls script.pool
        (checkOutDelay + (replyDelay + 1))) := by
    obtain ⟨waiting, quiet, eq⟩ := Run.polls_checkingOut script
      (s := ⟨s, checkOutDelay, replyDelay, none⟩) checkOutDelay
      (r := Run.start u id' ⟨s, checkOutDelay, replyDelay, none⟩) rfl rfl rfl
    have executes := u.execute_executes script.pool id ⟨s, checkOutDelay, replyDelay, none⟩
    rw [Run.polls_add, eq]
    exact executes.polled Request.SameButId.looks (Creation.agrees_ofId u id id')
      (t := ⟨s, 0, replyDelay, none⟩) rfl rfl rfl quiet
  refine ⟨?_, ?_⟩
  · refine or_iff_not_imp_right.mpr fun many => ?_
    have enough : checkOutDelay + (replyDelay + 1) ≤ count := by omega
    have last : r = _ := Run.polls_of_le _ enough whole.ended
    rw [last]
    exact whole.ended
  · split
    · rename_i ended
      have matched : Run.Matches Request.SameButId waited r := by
        rcases Nat.le_total count (checkOutDelay + (replyDelay + 1)) with few | enough
        · have last : _ = r := Run.polls_of_le _ few ended
          rwa [last] at whole
        · have last : r = _ := Run.polls_of_le _ enough whole.ended
          rwa [last]
      have same := matched.trace
      have events : r.trace.events = waited.trace.events := by
        rw [← r.trace.events_settled, same.events]
      refine ⟨matched.progress.symm, same, events, .of_events events.symm, ?_, ?_,
        matched.pool.symm⟩
      · rw [← r.trace.requests_settled]
        exact same.requests
      · rw [← r.trace.checkIns_settled, same.checkIns]
    · rename_i live
      exact Run.pending_of_live _ u id' _ count (Bool.eq_false_iff.mpr live)

end UserProvision
