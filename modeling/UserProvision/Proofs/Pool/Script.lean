import UserProvision.Proofs.Invocation.Lockstep

/-!
# Scripts

A script is what a pool answers to each call, for invocations that wait and for those that are
polled. Polls can be made to find nothing for some time before they find the answer.
-/

namespace UserProvision

variable {σ κ : Type}

/-- The answers to every call. Related requests are answered alike. -/
structure Script (S : Request → Request → Prop) (σ κ : Type) where
  checkOut : σ → Answer κ × σ
  describe : κ → σ → Answer Description × σ
  exchange : κ → Request → σ → Answer RawDocument × σ
  checkIn : κ → CheckInState → σ → Answer Unit × σ
  blind : ∀ c {r r' : Request}, S r r' → ∀ s, exchange c r s = exchange c r' s

/-- A script for a server without user commands that breaks every round trip off. -/
def Script.silent (S : Request → Request → Prop) : Script S Unit Unit where
  checkOut s := (.gives (), s)
  describe _ s := (.gives ⟨⟨"db.example.com", none⟩, none, Description.defaultMaxDocumentSize⟩, s)
  exchange _ _ s := (.fails (.connectionUnavailable "no answer"), s)
  checkIn _ _ s := (.gives (), s)
  blind _ _ _ _ _ := rfl

/-- The state of a script, how many polls find no connection and no reply yet, and the answer to the
request that was sent. -/
structure Delayed (σ : Type) where
  script : σ
  checkOutDelay : Nat
  replyDelay : Nat
  answer : Option (Answer RawDocument) := none

/-- Answers from a script, polls after the delay. The token is never cancelled. -/
def Script.pool {S : Request → Request → Prop} (script : Script S σ κ) : Pool (Delayed σ) κ where
  checkOut s := ((script.checkOut s.script).1, { s with script := (script.checkOut s.script).2 })
  pollCheckOut s :=
    match s.checkOutDelay with
    | 0 => (some (script.checkOut s.script).1, { s with script := (script.checkOut s.script).2 })
    | delay + 1 => (none, { s with checkOutDelay := delay })
  describe c s :=
    ((script.describe c s.script).1, { s with script := (script.describe c s.script).2 })
  exchange c r s :=
    ((script.exchange c r s.script).1, { s with script := (script.exchange c r s.script).2 })
  send c r s :=
    { s with
      script := (script.exchange c r s.script).2,
      answer := some (script.exchange c r s.script).1 }
  pollReply _ s :=
    match s.replyDelay with
    | 0 => (s.answer, s)
    | delay + 1 => (none, { s with replyDelay := delay })
  checkIn c state s :=
    ((script.checkIn c state s.script).1, { s with script := (script.checkIn c state s.script).2 })
  isCancelled _ := false

namespace Script

variable {S : Request → Request → Prop} (script : Script S σ κ) (s : Delayed σ)

theorem isCancelled_eq : script.pool.isCancelled s = false := rfl

theorem pollCheckOut_succ (delay : Nat) :
    script.pool.pollCheckOut { s with checkOutDelay := delay + 1 } =
      (none, { s with checkOutDelay := delay }) := rfl

theorem pollReply_succ (c : κ) (delay : Nat) :
    script.pool.pollReply c { s with replyDelay := delay + 1 } =
      (none, { s with replyDelay := delay }) := rfl

/-- A pool that follows a script tells no more requests apart than the script does. -/
theorem isBlind : script.pool.IsBlind S where
  exchange c _ _ related s := by simp [pool, script.blind c related]
  send c _ _ related s := by simp [pool, script.blind c related]

end Script

end UserProvision
