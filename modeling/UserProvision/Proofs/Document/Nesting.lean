import UserProvision.Document.Reading
import UserProvision.Proofs.Document.Elements

/-!
# Nested documents are shorter

What a value holds inside comes out of the bytes that the value stands in. So a nested document is
shorter than the one around it, and opening a document never runs out of depth: `RawDocument.read?`
is the reading that `RawDocument.open?` describes, without any bound.

## Main results

* `RawDocument.innerSize_le` — what an element holds is shorter than its document.
* `RawDocument.read?_eq` — a document is read element by element.
-/

namespace UserProvision

/-! ## Nested documents are shorter -/

namespace RawValue

/-- How many bytes the document takes that a value holds. -/
def innerSize : RawValue → Nat
  | .scalar _ => 0
  | .document d | .array d | .scopedCode _ d => d.size

theorem innerSize_le_payload (v : RawValue) : v.innerSize ≤ v.payload.length := by
  cases v with
  | scalar s => exact Nat.zero_le _
  | document d | array d => exact (RawDocument.length_bytes d).ge
  | scopedCode source scope =>
    simp only [innerSize, payload, Value.scopedPayload, List.length_append,
      RawDocument.length_bytes]
    omega

theorem Stands.innerSize_le {v : RawValue} {part : Bytes} (h : v.Stands part) :
    v.innerSize ≤ part.length := by
  cases h with
  | scalar => exact Nat.zero_le _
  | framed => exact innerSize_le_payload v

end RawValue

/-- An element takes two bytes at least besides what it holds. -/
theorem Element.Stands.innerSize_add_two_le {e : Element} {part : Bytes} (h : e.Stands part) :
    e.value.innerSize + 2 ≤ part.length := by
  cases h with
  | keyed _ hvalue =>
    have := hvalue.innerSize_le
    simp only [List.length_append, List.length_cons, Bytes.cstring, List.length_nil]
    omega

theorem RawDocument.innerSize_le {d : RawDocument} {e : Element} (h : e ∈ d.elements.items) :
    e.value.innerSize ≤ d.body.length := by
  obtain ⟨parts, left, stand, eq, -⟩ := Elements.exists_parts d.body.length (d.body ++ [0])
  obtain ⟨part, among, stands⟩ := exists_mem_of_forall₂ stand h
  have shorter := stands.innerSize_add_two_le
  have within := (List.sublist_flatten_of_mem among).length_le
  have whole := congrArg List.length eq
  simp only [List.length_append, List.length_singleton] at whole
  omega

/-! ## The depth has no effect -/

theorem mapM_congr {α β : Type} {f g : α → Option β} {xs : List α} (same : ∀ x ∈ xs, f x = g x) :
    xs.mapM f = xs.mapM g := by
  induction xs with
  | nil => rfl
  | cons x xs ih =>
    rw [List.mapM_cons, List.mapM_cons, same x List.mem_cons_self,
      ih fun x hx => same x (List.mem_cons_of_mem _ hx)]

namespace RawDocument

/-- A depth that the size of a document rules out has no effect. -/
theorem open?_eq_of_lt {depth depth' : Nat} {d : RawDocument} (h : d.body.length < depth)
    (h' : d.body.length < depth') : open? depth d = open? depth' d := by
  induction depth generalizing depth' d with
  | zero => omega
  | succ depth ih =>
    obtain _ | depth' := depth'
    · omega
    · -- Nested documents are shorter, so one level less of either depth still suffices for them.
      have inner : ∀ e ∈ d.elements.items, ∀ d', e.value.innerSize = d'.size →
          open? depth d' = open? depth' d' := by
        intro e he d' size
        have := innerSize_le he
        rw [size, RawDocument.size] at this
        exact ih (by omega) (by omega)
      rw [open?, open?]
      congr 1
      refine mapM_congr fun e he => ?_
      obtain ⟨k, v⟩ := e
      cases v with
      | scalar s => rfl
      | document d' | array d' | scopedCode source d' => simp only [inner _ he d' rfl]

theorem open?_of_lt {depth : Nat} {d : RawDocument} (h : d.body.length < depth) :
    open? depth d = d.read? :=
  open?_eq_of_lt h (Nat.lt_succ_self _)

theorem read?_eq (d : RawDocument) :
    d.read? = if d.elements.complete then
      d.elements.items.mapM fun e => e.value.read?.map (e.key, ·) else none := by
  rw [read?, open?]
  congr 1
  refine mapM_congr fun e he => ?_
  obtain ⟨k, v⟩ := e
  have inner : ∀ d', v.innerSize = d'.size → open? d.body.length d' = d'.read? := by
    intro d' size
    have := innerSize_le he
    rw [size, RawDocument.size] at this
    exact open?_of_lt (by omega)
  cases v with
  | scalar s => rfl
  | document d' | array d' | scopedCode source d' => simp only [inner d' rfl, RawValue.read?]

end RawDocument

end UserProvision
