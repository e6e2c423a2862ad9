import Mathlib.Data.List.Nodup
import UserProvision.Proofs.Document.Elements

/-!
# What joining adds

Joining adds elements of the second document in order, each of which reads back behind those of the
first, until it meets one that it refuses. What was added before stays.

## Main definitions

* `RawDocument.JoinsUpTo` — which elements are added, and what stops the joining after them.

## Main results

* `RawDocument.join_joinsUpTo` — joining goes just so far.
* `RawDocument.JoinsUpTo.elements` — the elements that are added read back.
* `join_appends_in_order` — what a document holds after another was joined to it.
-/

namespace UserProvision

namespace RawDocument

/-- How far the elements of `other` can be joined to those of `d`: the elements that are added, and
what comes after them. -/
inductive JoinsUpTo (d other : RawDocument) : List Element → Option JoinFault → Prop
  | unread (broken : d.elements.complete = false) : JoinsUpTo d other [] (some .unreadable)
  | whole {added : List Element} (readable : d.elements.complete = true)
    (whole : other.elements = ⟨added, true⟩) (fresh : ∀ e ∈ added, e.key ∉ d.keys) :
    JoinsUpTo d other added none
  | broken {added : List Element} (readable : d.elements.complete = true)
    (front : other.elements = ⟨added, false⟩) (fresh : ∀ e ∈ added, e.key ∉ d.keys) :
    JoinsUpTo d other added (some .unreadable)
  | repeated {added rest : List Element} {e : Element} (readable : d.elements.complete = true)
    (split : other.elements.items = added ++ e :: rest) (fresh : ∀ e ∈ added, e.key ∉ d.keys)
    (taken : e.key ∈ d.keys) : JoinsUpTo d other added (some (.repeatedKey e.key))

variable {d other : RawDocument} {added : List Element} {fault : Option JoinFault}

theorem JoinsUpTo.front (h : d.JoinsUpTo other added fault) : added <+: other.elements.items := by
  cases h with
  | unread => exact List.nil_prefix
  | whole _ eq | broken _ eq => exact eq ▸ List.prefix_rfl
  | repeated _ split => exact ⟨_, split.symm⟩

theorem JoinsUpTo.fresh (h : d.JoinsUpTo other added fault) : ∀ e ∈ added, e.key ∉ d.keys := by
  cases h with
  | unread => exact nofun
  | whole _ _ fresh | broken _ _ fresh | repeated _ _ fresh => exact fresh

theorem JoinsUpTo.readable (h : d.JoinsUpTo other added fault) (adds : added ≠ []) :
    d.elements.complete = true := by
  cases h with
  | unread => exact absurd rfl adds
  | whole readable | broken readable | repeated readable => exact readable

/-- What comes after the fresh elements decides. -/
theorem joinsUpTo_fresh (readable : d.elements.complete = true) :
    d.JoinsUpTo other (fresh d.keys other.elements.items) (joinFault d.keys other.elements) := by
  have apart := List.takeWhile_append_dropWhile (p := fun e => !d.keys.contains e.key)
    (l := other.elements.items)
  have stop := List.head?_dropWhile_not (fun e => !d.keys.contains e.key) other.elements.items
  have front : ∀ e ∈ RawDocument.fresh d.keys other.elements.items, e.key ∉ d.keys := by
    intro e he
    simpa using List.mem_takeWhile_imp he
  rw [← fresh] at apart
  unfold joinFault
  split
  · rename_i e rest dropped
    rw [dropped] at apart stop
    exact .repeated readable apart.symm front (by simpa using stop)
  · rename_i dropped
    rw [dropped, List.append_nil] at apart
    rw [apart] at front ⊢
    cases complete : other.elements.complete
    · exact .broken readable (by rw [← complete]) front
    · exact .whole readable (by rw [← complete]) front

/-- Joining adds just what can be added. -/
theorem join_joinsUpTo (d other : RawDocument) :
    ∃ added, d.JoinsUpTo other added (d.join other).fault ∧
      (d.join other).document = added.foldl appendElement d := by
  unfold join
  split
  · rename_i readable
    exact ⟨_, joinsUpTo_fresh readable, rfl⟩
  · rename_i broken
    exact ⟨[], .unread (by simpa using broken), rfl⟩

/-- The elements that are added read back, whatever stops the joining. -/
theorem JoinsUpTo.elements (h : d.JoinsUpTo other added fault) :
    (added.foldl appendElement d).elements = ⟨d.elements.items ++ added, d.elements.complete⟩ := by
  by_cases nothing : added = []
  · subst nothing
    rw [List.foldl_nil, List.append_nil]
  · have readable := h.readable nothing
    rw [readable]
    refine elements_foldl_appendElement readable fun e he => ?_
    exact stands_of_mem_elements (h.front.mem he)

theorem JoinsUpTo.keys_nodup (h : d.JoinsUpTo other added fault) (distinct : d.keys.Nodup)
    (distinct' : other.keys.Nodup) : (d.keys ++ added.map (·.key)).Nodup := by
  have own : (added.map (·.key)).Nodup := distinct'.sublist (h.front.sublist.map _)
  refine List.nodup_append'.mpr ⟨distinct, own, ?_⟩
  intro k before after
  obtain ⟨e, he, rfl⟩ := List.mem_map.mp after
  exact h.fresh e he before

end RawDocument

/-- Joining two documents, neither of which repeats a key. The first keeps the bytes it had, and the
elements of the second follow in order: all of them just if nothing stops the joining, else those
before what stops it. No key is repeated, whether the joining is stopped or not. -/
theorem join_appends_in_order {d other : RawDocument} (distinct : d.keys.Nodup)
    (distinct' : other.keys.Nodup) :
    ∃ added, d.JoinsUpTo other added (d.join other).fault ∧
      ((d.join other).fault = none → added = other.elements.items) ∧
      (d.join other).document.body = d.body ++ added.flatMap Element.bytes ∧
      (d.join other).document.elements = ⟨d.elements.items ++ added, d.elements.complete⟩ ∧
      (d.join other).document.keys.Nodup := by
  obtain ⟨added, upTo, document⟩ := d.join_joinsUpTo other
  have elements := upTo.elements
  rw [← document] at elements
  refine ⟨added, upTo, fun unstopped => ?_, ?_, elements, ?_⟩
  · rw [unstopped] at upTo
    cases upTo with
    | whole _ whole => rw [whole]
  · rw [document, RawDocument.body_foldl_appendElement]
  · rw [RawDocument.keys, elements, List.map_append]
    exact upTo.keys_nodup distinct distinct'

theorem join_appends_in_order_before_taken_key :
    let d := RawDocument.ofDocument [("a", .int32 1)]
    let other := RawDocument.ofDocument [("b", .int32 2), ("a", .int32 3), ("c", .int32 4)]
    d.keys.Nodup ∧ other.keys.Nodup ∧ (d.join other).fault = some (.repeatedKey "a") ∧
      (d.join other).document.keys = ["a", "b"] ∧ (d.join other).document.keys.Nodup := by
  intro d other
  have distinct : d.keys.Nodup := by decide +kernel
  have distinct' : other.keys.Nodup := by decide +kernel
  obtain ⟨added, -, -, -, -, remain⟩ := join_appends_in_order distinct distinct'
  exact ⟨distinct, distinct', by decide +kernel, by decide +kernel, remain⟩

/-- A joining that stops leaves what it has added. -/
theorem stopped_join_leaves_front :
    let d := RawDocument.ofDocument [("a", .int32 1)]
    let other := RawDocument.ofDocument [("b", .int32 2), ("a", .int32 3)]
    d.keys.Nodup ∧ (d.join other).fault ≠ none ∧ (d.join other).document.bytes ≠ d.bytes := by
  decide +kernel

/-- The keys of the other document are not compared with each other. -/
example :
    let d := RawDocument.ofDocument [("a", .int32 1)]
    let other := RawDocument.ofDocument [("b", .int32 2), ("b", .int32 3)]
    (d.join other).fault = none ∧ (d.join other).document.keys = ["a", "b", "b"] := by
  decide +kernel

end UserProvision
