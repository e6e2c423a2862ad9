import Mathlib.Data.List.FinRange
import Mathlib.Data.List.Perm.Basic
import UserProvision.Proofs.Invocation.Choice
import UserProvision.Proofs.Invocation.HandBack
import UserProvision.Proofs.Invocation.Replay
import UserProvision.Proofs.Log.Lines

/-!
# Invocations side by side

Several invocations for the same user share what is behind their pools: each has a pool of its own,
through which it sees the common state, so that its token and its pending calls are its own. They
are polled and dropped in any order.

For one member, the moves of the others are changes of its surroundings (`Crowd.exists_moves`), so
that whatever holds of runs holds of members. The books of the whole crowd are those of its members,
since every entry of the common history is an entry of one member (`Crowd.perm_own`).

## Main definitions

* `Crowd` — invocations side by side, and what they did.
* `Crowd.deliveries`, `Crowd.held`, `Crowd.checkedIn` — the books on connections.

## Main results

* `Crowd.ledger` — what was delivered is what is held and what was handed back.
* `crowd_undisturbed` — the books, and what each member does, whatever the others do.
-/

namespace UserProvision

variable {σ κ : Type} {n : Nat}

/-- One of several invocations, and the progress that it reported last. -/
structure Member (κ : Type) where
  invocation : Invocation κ
  progress : Progress := .pending

/-- Invocations side by side, the state behind their pools, and what they did in order. -/
structure Crowd (n : Nat) (σ κ : Type) where
  members : Fin n → Member κ
  pool : σ
  history : List (Fin n × Entry κ) := []

/-- The parts of a common list that belong to a member. -/
def own {α : Type} (l : List (Fin n × α)) (i : Fin n) : List α :=
  l.filterMap fun p => if p.1 = i then some p.2 else none

namespace Crowd

/-- A crowd of which no member has been polled yet. -/
def start (u : NewUser) (ids : Fin n → ObjectId) (s : σ) : Crowd n σ κ where
  members i := { invocation := .start u (ids i) }
  pool := s

/-- What a member did, saw or logged. -/
def trace (c : Crowd n σ κ) (i : Fin n) : Trace κ := own c.history i

/-- A member by itself. -/
def run (c : Crowd n σ κ) (i : Fin n) : Run σ κ :=
  ⟨(c.members i).invocation, c.pool, (c.members i).progress, c.trace i⟩

/-- One member makes a move. -/
def move (pools : Fin n → Pool σ κ) (c : Crowd n σ κ) (m : Fin n × Move σ) : Crowd n σ κ :=
  let r := Run.move (pools m.1) { c.run m.1 with trace := [] } m.2
  ⟨Function.update c.members m.1 ⟨r.invocation, r.progress⟩, r.pool,
    c.history ++ r.trace.map fun e => (m.1, e)⟩

/-- All moves in order. -/
def follow (pools : Fin n → Pool σ κ) (c : Crowd n σ κ) (moves : List (Fin n × Move σ)) :
    Crowd n σ κ :=
  moves.foldl (move pools) c

/-! ## The books -/

/-- The connections that were delivered to anyone. -/
def deliveries (c : Crowd n σ κ) : List κ := c.history.filterMap fun p => p.2.delivered?

/-- The connections that anyone handed back. -/
def checkedIn (c : Crowd n σ κ) : List κ :=
  c.history.filterMap fun p => p.2.checkIn?.map Prod.fst

end Crowd

/-- The connection that an unfinished invocation holds. -/
def Invocation.held? (i : Invocation κ) : Option κ :=
  if i.isOver then none else i.lease.bind Lease.connection

/-- The connections that unfinished members hold. -/
def Crowd.held (c : Crowd n σ κ) : List κ :=
  (List.finRange n).filterMap fun i => (c.members i).invocation.held?

/-! ## Members by themselves -/

section Own

variable {α : Type}

theorem own_append (l l' : List (Fin n × α)) (i : Fin n) : own (l ++ l') i = own l i ++ own l' i :=
  List.filterMap_append ..

theorem own_map_self (l : List α) (i : Fin n) : own (l.map fun a => (i, a)) i = l := by
  simp [own, List.filterMap_map]

theorem own_map_other (l : List α) {i j : Fin n} (other : j ≠ i) :
    own (l.map fun a => (j, a)) i = [] := by
  simp [own, List.filterMap_map, other]

/-- Every part of a common list belongs to one member. -/
theorem perm_own (l : List (Fin n × α)) :
    (l.map Prod.snd).Perm ((List.finRange n).flatMap (own l)) := by
  induction l with
  | nil => simp [own]
  | cons p l ih =>
    obtain ⟨j, a⟩ := p
    -- Only the part of `j` grows, so `j` is brought to the front of the members.
    have split := List.perm_cons_erase (List.mem_finRange j)
    have once : j ∉ (List.finRange n).erase j := (List.nodup_finRange n).not_mem_erase
    have self : own ((j, a) :: l) j = a :: own l j := by simp [own]
    have others : ((List.finRange n).erase j).flatMap (own ((j, a) :: l)) =
        ((List.finRange n).erase j).flatMap (own l) := by
      refine List.flatMap_congr fun i mem => ?_
      have other : j ≠ i := by
        rintro rfl
        exact once mem
      simp [own, other]
    have before := (split.flatMap_right (own l)).cons a
    have after := (split.flatMap_right (own ((j, a) :: l))).symm
    rw [List.flatMap_cons, self, others, List.cons_append, ← List.flatMap_cons] at after
    exact ((ih.cons a).trans before).trans after

end Own

/-- A move only adds to the trace, whatever is there already. -/
theorem Run.move_eq (pool : Pool σ κ) (r : Run σ κ) (m : Move σ) :
    r.move pool m =
      { Run.move pool { r with trace := [] } m with
        trace := r.trace ++ (Run.move pool { r with trace := [] } m).trace } := by
  cases m with
  | meanwhile => simp [move]
  | poll | drop => cases ended : r.invocation.isOver <;> simp [move, isOver, after, ended]

namespace Crowd

variable (pools : Fin n → Pool σ κ) (c : Crowd n σ κ)

@[simp] theorem follow_cons (m : Fin n × Move σ) (moves : List (Fin n × Move σ)) :
    c.follow pools (m :: moves) = (c.move pools m).follow pools moves := rfl

/-- A member that moves does what it would do by itself. -/
theorem run_move_self (i : Fin n) (m : Move σ) :
    (c.move pools (i, m)).run i = (c.run i).move (pools i) m := by
  rw [Run.move_eq]
  simp [run, move, trace, own_append, own_map_self]

/-- For a member, the moves of others are changes of its surroundings. -/
theorem run_move_other {i j : Fin n} (other : j ≠ i) (m : Move σ) :
    (c.move pools (j, m)).run i =
      (c.run i).move (pools i) (.meanwhile fun _ => (c.move pools (j, m)).pool) := by
  simp [run, move, trace, Run.move, own_append, own_map_other _ other,
    Function.update_of_ne other.symm]

/-- A member's part in a crowd is a run with the moves that it makes itself. -/
theorem exists_moves (moves : List (Fin n × Move σ)) (i : Fin n) :
    ∃ ms : List (Move σ), (c.follow pools moves).run i = (c.run i).follow (pools i) ms ∧
      Run.touches ms = Run.touches (own moves i) := by
  induction moves generalizing c with
  | nil => exact ⟨[], rfl, rfl⟩
  | cons p moves ih =>
    obtain ⟨j, m⟩ := p
    obtain ⟨ms, run, touches⟩ := ih (c.move pools (j, m))
    by_cases same : j = i
    · subst same
      refine ⟨m :: ms, ?_, ?_⟩
      · rw [follow_cons, run, run_move_self, Run.follow_cons]
      · have first : own ((j, m) :: moves) j = m :: own moves j := by simp [own]
        rw [first, Run.touches_cons, touches, ← Run.touches_cons]
    · refine ⟨.meanwhile (fun _ => (c.move pools (j, m)).pool) :: ms, ?_, ?_⟩
      · rw [follow_cons, run, run_move_other pools c same, Run.follow_cons]
      · have first : own ((j, m) :: moves) i = own moves i := by simp [own, same]
        rw [first, ← touches]
        rfl

end Crowd

/-! ## The books of members and of the crowd -/

/-- What was delivered to an invocation, it holds or has handed back. -/
theorem Invocation.Accounts.delivered {i : Invocation κ} {t : Trace κ} (h : i.Accounts t) :
    t.delivered = i.held?.toList ++ t.checkIns.map Prod.fst := by
  cases h with
  | checkingOut idle => simp [idle.delivered, idle.checkIns, held?]
  | awaitingReply holding => simp [holding.delivered, holding.checkIns, held?, isOver]
  | finished balanced => simp [balanced.checkIns, held?, isOver, Function.comp_def]

namespace Crowd

variable (c : Crowd n σ κ)

/-- What the crowd did is what its members did. -/
theorem perm_filterMap {β : Type} (f : Entry κ → Option β) :
    (c.history.filterMap fun p => f p.2).Perm
      ((List.finRange n).flatMap fun i => (c.trace i).filterMap f) := by
  have all := (perm_own c.history).filterMap f
  rw [List.filterMap_map, List.filterMap_flatMap] at all
  exact all

/-- The books balance if every member accounts for its connection. -/
theorem ledger (accounts : ∀ i, (c.members i).invocation.Accounts (c.trace i)) :
    c.deliveries.Perm (c.held ++ c.checkedIn) := by
  have lent := c.perm_filterMap Entry.delivered?
  have returned := c.perm_filterMap fun e => e.checkIn?.map Prod.fst
  have each (i : Fin n) : (c.trace i).filterMap Entry.delivered? =
      (c.members i).invocation.held?.toList ++
        (c.trace i).filterMap fun e => e.checkIn?.map Prod.fst := by
    have own := (accounts i).delivered
    rwa [Trace.checkIns, List.map_filterMap] at own
  rw [List.flatMap_congr fun i _ => each i] at lent
  rw [held, List.filterMap_eq_flatMap_toList]
  exact (lent.trans (List.flatMap_append_perm ..).symm).trans (returned.symm.append_left _)

/-- A connection that was delivered once is held by one member that is not over, or was handed back
once. -/
theorem held_or_checkedIn [DecidableEq κ] (balanced : c.deliveries.Perm (c.held ++ c.checkedIn))
    {connection : κ} (once : c.deliveries.count connection = 1) :
    ((∃! i, (c.members i).invocation.held? = some connection) ∧ connection ∉ c.checkedIn) ∨
      ((∀ i, (c.members i).invocation.held? ≠ some connection) ∧
        c.checkedIn.count connection = 1) := by
  have sum : c.held.count connection + c.checkedIn.count connection = 1 := by
    rw [← List.count_append, ← balanced.count_eq, once]
  have holders : c.held.count connection = (List.finRange n).countP fun i =>
    (c.members i).invocation.held? == some connection := List.count_filterMap
  rcases Nat.add_eq_one_iff.mp sum with ⟨nobody, returned⟩ | ⟨somebody, kept⟩
  · refine .inr ⟨fun i holds => ?_, returned⟩
    rw [nobody] at holders
    exact List.countP_eq_zero.mp holders.symm i (List.mem_finRange i) (beq_iff_eq.mpr holds)
  · refine .inl ⟨?_, List.count_eq_zero.mp kept⟩
    rw [somebody, List.countP_eq_length_filter] at holders
    obtain ⟨i, only⟩ := List.length_eq_one_iff.mp holders.symm
    have holds (j : Fin n) : (c.members j).invocation.held? = some connection ↔ j = i := by
      have mem := List.mem_singleton (a := j) (b := i)
      rwa [← only, List.mem_filter, beq_iff_eq, and_iff_right (List.mem_finRange j)] at mem
    exact ⟨i, (holds i).mpr rfl, fun j => (holds j).mp⟩

end Crowd

/-- Invocations side by side keep the books, and each does what it would do alone. Whatever the
pools answer and in whatever order the members are polled and dropped: each accounts for its
connection; what was delivered is what unfinished members hold and what was handed back, so that a
connection that was delivered once is held by one of them or was handed back once, and not both;
each member comes to the same with the same trace if it is polled and dropped alone and gets no more
than the answers that it got, and so on any pool that answers alike, where its log differs at most
in the order in which error texts list their labels, which is any order each time; and it chooses
its strategy by what its own connection told. When all members are over, all that was delivered was
handed back. -/
theorem crowd_undisturbed [DecidableEq κ] (pools : Fin n → Pool σ κ) (u : NewUser)
    (ids : Fin n → ObjectId) (s : σ) (moves : List (Fin n × Move σ)) :
    let c : Crowd n σ κ := (Crowd.start u ids s).follow pools moves
    (∀ i, (c.members i).invocation.Accounts (c.trace i)) ∧
      c.deliveries.Perm (c.held ++ c.checkedIn) ∧
      (∀ connection, c.deliveries.count connection = 1 →
        ((∃! i, (c.members i).invocation.held? = some connection) ∧ connection ∉ c.checkedIn) ∨
          ((∀ i, (c.members i).invocation.held? ≠ some connection) ∧
            c.checkedIn.count connection = 1)) ∧
      (∀ i, ∃ left, (Run.start u (ids i) (c.trace i).answers).follow .replay
        ((Run.touches (own moves i)).map Touch.move) = (c.run i).replaying left) ∧
      (∀ i (τ : Type) (pool : Pool τ κ) (s' : τ) (alone : List (Move τ)),
        Run.touches alone = Run.touches (own moves i) →
          ((Run.start u (ids i) s').follow pool alone).trace.answers = (c.trace i).answers →
            ((Run.start u (ids i) s').follow pool alone).SameAs (c.run i) ∧
              ((Run.start u (ids i) s').follow pool alone).trace.LoggedAlike (c.trace i)) ∧
      (∀ i, (c.trace i).Chosen u (ids i)) ∧
      ((∀ i, (c.members i).invocation.isOver = true) →
        c.held = [] ∧ c.deliveries.Perm c.checkedIn) := by
  intro c
  have alone (i : Fin n) : ∃ ms : List (Move σ),
      c.run i = (Run.start u (ids i) s).follow (pools i) ms ∧
        Run.touches ms = Run.touches (own moves i) :=
    Crowd.exists_moves pools (Crowd.start u ids s) moves i
  have accounts (i : Fin n) : (c.members i).invocation.Accounts (c.trace i) := by
    obtain ⟨ms, run, -⟩ := alone i
    have accounts := Run.accounts (pools i) u (ids i) s ms
    rwa [← run] at accounts
  have balanced := c.ledger accounts
  refine ⟨accounts, balanced, fun _ once => c.held_or_checkedIn balanced once, fun i => ?_,
    fun i τ pool s' moves' touched answered => ?_, fun i => ?_, fun finished => ?_⟩
  · obtain ⟨ms, run, touches⟩ := alone i
    have replayed := Run.follow_replay (pools i) u (ids i) s ms
    rw [← run, touches] at replayed
    exact replayed
  · obtain ⟨ms, run, touches⟩ := alone i
    have same := Run.follow_congr pool (pools i) u (ids i) s' s (touched.trans touches.symm)
      (answered.trans (congrArg (Trace.answers ∘ Run.trace) run))
    rw [← run] at same
    exact ⟨same, .of_events (congrArg Trace.events same.trace)⟩
  · obtain ⟨ms, run, -⟩ := alone i
    have chosen := (Run.chooses (pools i) u (ids i) s ms).chosen
    rwa [← run] at chosen
  · have nothing : c.held = [] := by
      refine List.filterMap_eq_nil_iff.mpr fun i _ => ?_
      rw [Invocation.held?, if_pos (finished i)]
    rw [nothing, List.nil_append] at balanced
    exact ⟨nothing, balanced⟩

/-- One member waits for a reply while another one is served by an older server; then the first one
is given up. -/
theorem crowd_undisturbed_of_two :
    let u : NewUser := ⟨⟨some "alice", some "app", none⟩, false, none⟩
    let reply : Answer RawDocument := .gives (.ofDocument [("ok", .int32 1)])
    let shared : Pool Nat Nat := {
      checkOut := fun s => (.gives s, s + 1)
      pollCheckOut := fun s => (some (.gives s), s + 1)
      describe := fun c s => (.gives ⟨.localhost, some (if c = 0 then 8 else 1), 16777216⟩, s)
      exchange := fun _ _ s => (reply, s)
      send := fun _ _ s => s
      pollReply := fun c s => (if c = 0 then none else some reply, s)
      checkIn := fun _ _ s => (.gives (), s)
      isCancelled := fun _ => false }
    let pools : Fin 2 → Pool Nat Nat := fun _ => shared
    let ids : Fin 2 → ObjectId := fun _ => .zero
    let polled : Crowd 2 Nat Nat := (Crowd.start u ids 0).follow pools [(0, .poll), (1, .poll)]
    let ended : Crowd 2 Nat Nat := polled.follow pools [(0, .drop)]
    polled.deliveries = [0, 1] ∧ polled.checkedIn = [1] ∧
      (∃! i, (polled.members i).invocation.held? = some 0) ∧
      (polled.trace 0).requests.map Request.name = ["createUser"] ∧
      (polled.trace 1).requests.map Request.name = ["insert"] ∧
      ended.deliveries = [0, 1] ∧ ended.deliveries.Perm ended.checkedIn := by
  intro u reply shared pools ids polled ended
  have delivered : polled.deliveries = [0, 1] := by decide +kernel
  have returned : polled.checkedIn = [1] := by decide +kernel
  have finished : ∀ i, (ended.members i).invocation.isOver = true := by decide +kernel
  obtain ⟨-, -, once, -⟩ := crowd_undisturbed pools u ids 0 [(0, .poll), (1, .poll)]
  obtain ⟨-, -, -, -, -, -, all⟩ :=
    crowd_undisturbed pools u ids 0 [(0, .poll), (1, .poll), (0, .drop)]
  refine ⟨delivered, returned, ?_, by decide +kernel, by decide +kernel, by decide +kernel,
    (all finished).2⟩
  rcases once 0 (by decide +kernel) with ⟨held, -⟩ | ⟨-, kept⟩
  · exact held
  · have none : polled.checkedIn.count 0 = 0 := by rw [returned]; rfl
    exact absurd (none.symm.trans kept) (by decide)

end UserProvision
