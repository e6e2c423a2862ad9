import Mathlib.Logic.Function.Defs
import UserProvision.Failure.Basic

/-!
# Errors as chains of failures

An error is as good as the list of its failures: it is known by them, and attaching another error
appends the failures of that one. So attaching is associative, and whatever is asked about the
result is answered by the error that was there first.

## Main results

* `Error.chain_attach`, `Error.chain_injective` — attaching is appending.
* `attaching_appends` — the laws of attaching, for errors with chains of any length.
-/

namespace UserProvision

namespace Error

@[simp] theorem primary_attach (e added : Error) : (e.attach added).primary = e.primary := by
  cases e <;> rfl

@[simp] theorem kind_attach (e added : Error) : (e.attach added).kind = e.kind := by
  rw [kind, primary_attach, kind]

@[simp] theorem labels_attach (e added : Error) : (e.attach added).labels = e.labels := by
  rw [labels, primary_attach, labels]

/-- An error that is added comes behind all failures that are already there. -/
@[simp] theorem chain_attach (e added : Error) :
    (e.attach added).chain = e.chain ++ added.chain := by
  induction e with
  | alone f => rfl
  | followed f e ih => rw [attach, chain, ih, chain, List.cons_append]

/-- The failures of an error are the one that matters and those of the secondary error. -/
theorem chain_eq (e : Error) : e.chain = e.primary :: e.secondary?.elim [] chain := by
  cases e <;> rfl

/-- An error is known by its failures. -/
theorem chain_injective : Function.Injective chain := by
  intro e e' same
  induction e generalizing e' with
  | alone f =>
    cases e' with
    | alone f' =>
      cases same
      rfl
    | followed f' e' =>
      obtain ⟨-, rest⟩ := List.cons.inj same
      cases e' <;> cases rest
  | followed f e ih =>
    cases e' with
    | alone f' =>
      obtain ⟨-, rest⟩ := List.cons.inj same
      cases e <;> cases rest
    | followed f' e' =>
      obtain ⟨rfl, rest⟩ := List.cons.inj same
      rw [ih rest]

theorem attach_assoc (a b c : Error) : (a.attach b).attach c = a.attach (b.attach c) :=
  chain_injective (by simp only [chain_attach, List.append_assoc])

theorem primary_attach? (e : Error) (added : Option Error) :
    (e.attach? added).primary = e.primary := by
  cases added with
  | none => rfl
  | some added => exact e.primary_attach added

end Error

/-- Attaching an error appends its failures, where the failures of an error are the one that matters
and those of its secondary errors in turn; attaching none changes nothing. The result is the only
error with these failures, so that of three errors it does not matter which two are joined first.
Its kind and labels, its code, and whether it tells of a duplicate or of a cancellation are those of
the first error. -/
theorem attaching_appends (a b c : Error) :
    a.chain = a.primary :: a.secondary?.elim [] Error.chain ∧
    (a.attach? (some b)).chain = a.chain ++ b.chain ∧
    a.attach? none = a ∧
    (a.attach? (some b)).attach? (some c) = a.attach? (some (b.attach? (some c))) ∧
    (∀ e : Error, e = a.attach? (some b) ↔ e.chain = a.chain ++ b.chain) ∧
    ∀ added : Option Error,
      (a.attach? added).kind = a.kind ∧ (a.attach? added).labels = a.labels ∧
        (a.attach? added).code? = a.code? ∧ (a.attach? added).isDuplicate = a.isDuplicate ∧
        (a.attach? added).isCancelled = a.isCancelled := by
  refine ⟨a.chain_eq, a.chain_attach b, rfl, a.attach_assoc b c, ?_, ?_⟩
  · intro e
    rw [← a.chain_attach b, Error.chain_injective.eq_iff]
    rfl
  · intro added
    have kind : (a.attach? added).kind = a.kind := congrArg Failure.kind (a.primary_attach? added)
    have labels : (a.attach? added).labels = a.labels :=
      congrArg Failure.labels (a.primary_attach? added)
    have code : (a.attach? added).code? = a.code? := congrArg Kind.code? kind
    refine ⟨kind, labels, code, ?_, ?_⟩
    · rw [Error.isDuplicate, code, Error.isDuplicate]
    · rw [Error.isCancelled, kind, Error.isCancelled]

end UserProvision
