import Mathlib.Data.List.Forall2
import UserProvision.Document.Field
import UserProvision.Proofs.Document.Nesting

/-!
# Opening documents

A document reads as fields if its bytes split into elements and every value opens. Reading all but
the values of one key asks the same of the other elements only.

## Main results

* `RawDocument.read?_eq_some_iff`, `RawDocument.readExcept?_eq_some_iff` — when a document reads.
* `RawDocument.opens_values` — values that stand under a key open as the fields under it.
* `RawDocument.read?_of_readExcept?` — two partial readings make a whole one.
-/

namespace UserProvision

section Lists

variable {α β : Type}

theorem mapM_eq_some_iff {f : α → Option β} {xs : List α} {ys : List β} :
    xs.mapM f = some ys ↔ List.Forall₂ (fun x y => f x = some y) xs ys := by
  induction xs generalizing ys with
  | nil => simp [eq_comm]
  | cons x xs ih =>
    simp only [List.mapM_cons, Option.bind_eq_bind, Option.bind_eq_some_iff, ih, Option.pure_def,
      Option.some.injEq, List.forall₂_cons_left_iff]
    constructor
    · rintro ⟨y, first, ys, others, rfl⟩
      exact ⟨y, ys, first, others, rfl⟩
    · rintro ⟨y, ys, first, others, rfl⟩
      exact ⟨y, first, ys, others, rfl⟩

theorem exists_forall₂_iff {R : α → β → Prop} {xs : List α} :
    (∃ ys, List.Forall₂ R xs ys) ↔ ∀ x ∈ xs, ∃ y, R x y := by
  induction xs with
  | nil => simp
  | cons x xs ih =>
    rw [List.forall_mem_cons, ← ih]
    constructor
    · rintro ⟨_, first | ⟨first, others⟩⟩
      exact ⟨⟨_, first⟩, _, others⟩
    · rintro ⟨⟨y, first⟩, ys, others⟩
      exact ⟨y :: ys, .cons first others⟩

end Lists

/-- An element opens as the field with its key and with its value opened. -/
inductive Element.Opens : Element → String × Value → Prop
  | field {key : String} {v : RawValue} {w : Value} (read : v.read? = some w) :
    Opens ⟨key, v⟩ (key, w)

theorem Element.opens_iff {e : Element} {f : String × Value} :
    e.value.read?.map (e.key, ·) = some f ↔ e.Opens f := by
  constructor
  · intro h
    obtain ⟨w, read, rfl⟩ := Option.map_eq_some_iff.mp h
    exact .field read
  · rintro ⟨read⟩
    exact Option.map_eq_some_iff.mpr ⟨_, read, rfl⟩

theorem Element.mapM_opens_iff {items : List Element} {fields : Document} :
    (items.mapM fun e => e.value.read?.map (e.key, ·)) = some fields ↔
      List.Forall₂ Element.Opens items fields := by
  simp only [mapM_eq_some_iff, opens_iff]

/-- The elements under a key open as the fields under it. -/
theorem Element.opens_values {items : List Element} {fields : Document}
    (opens : List.Forall₂ Element.Opens items fields) (key : String) :
    List.Forall₂ (fun v w => v.read? = some w) ((items.filter (·.key == key)).map (·.value))
      (fields.values key) := by
  rw [Document.values, List.forall₂_map_left_iff, List.forall₂_map_right_iff]
  refine (List.rel_filter (fun e f h => ?_) opens).imp fun e f h => ?_
  · cases h
    rfl
  · obtain ⟨read⟩ := h
    exact read

/-- The fields of a document but those under a key. -/
def Document.except (d : Document) (key : String) : Document := d.filter (·.1 != key)

theorem Document.values_except {key key' : String} (h : key' ≠ key) (d : Document) :
    (d.except key).values key' = d.values key' := by
  rw [values, Document.except, List.filter_filter, values]
  congr 2
  funext f
  by_cases own : f.1 = key'
  · simp [own, h]
  · simp [own]

namespace RawDocument

variable {d : RawDocument} {fields : Document} {key : String}

theorem read?_eq_some_iff :
    d.read? = some fields ↔
      d.elements.complete = true ∧ List.Forall₂ Element.Opens d.elements.items fields := by
  rw [read?_eq, Option.ite_none_right_eq_some, Element.mapM_opens_iff]

/-- The values under a key. -/
def values (d : RawDocument) (key : String) : List RawValue :=
  (d.elements.items.filter (·.key == key)).map (·.value)

theorem readExcept?_eq_some_iff {own : List RawValue} :
    d.readExcept? key = some (own, fields) ↔
      d.elements.complete = true ∧ own = d.values key ∧
        List.Forall₂ Element.Opens (d.elements.items.filter (·.key != key)) fields := by
  have others : (not ∘ fun e : Element => e.key == key) = (·.key != key) := rfl
  rw [readExcept?, Option.ite_none_right_eq_some, List.partition_eq_filter_filter, others]
  simp only [Option.map_eq_some_iff, Prod.mk.injEq, Element.mapM_opens_iff, values]
  constructor
  · rintro ⟨complete, fields', opens, rfl, rfl⟩
    exact ⟨complete, rfl, opens⟩
  · rintro ⟨complete, rfl, opens⟩
    exact ⟨complete, fields, opens, rfl, rfl⟩

/-- What stands under a key in the bytes opens as what the document has under it. -/
theorem opens_values (h : d.read? = some fields) (key : String) :
    List.Forall₂ (fun v w => v.read? = some w) (d.values key) (fields.values key) :=
  Element.opens_values (read?_eq_some_iff.mp h).2 key

/-- The same of a document that is read but for one key, for the other keys. -/
theorem opens_values_of_readExcept? {own : List RawValue} (h : d.readExcept? key = some (own, fields))
    {key' : String} (other : key' ≠ key) :
    List.Forall₂ (fun v w => v.read? = some w) (d.values key') (fields.values key') := by
  obtain ⟨-, -, opens⟩ := readExcept?_eq_some_iff.mp h
  have kept : (d.elements.items.filter (·.key != key)).filter (·.key == key') =
      d.elements.items.filter (·.key == key') := by
    rw [List.filter_filter]
    refine List.filter_congr fun e _ => ?_
    by_cases own : e.key = key'
    · simp [own, other]
    · simp [own]
  rw [values, ← kept]
  exact Element.opens_values opens key'

theorem readExcept?_of_read? (h : d.read? = some fields) (key : String) :
    d.readExcept? key = some (d.values key, fields.except key) := by
  obtain ⟨complete, opens⟩ := read?_eq_some_iff.mp h
  refine readExcept?_eq_some_iff.mpr ⟨complete, rfl, List.rel_filter (fun e f h => ?_) opens⟩
  cases h
  rfl

/-- A document that is readable but for one key, and also but for another, is readable. -/
theorem read?_of_readExcept? {key' : String} (different : key ≠ key')
    {p p' : List RawValue × Document} (h : d.readExcept? key = some p)
    (h' : d.readExcept? key' = some p') : ∃ fields, d.read? = some fields := by
  obtain ⟨complete, -, opens⟩ := readExcept?_eq_some_iff.mp h
  obtain ⟨-, -, opens'⟩ := readExcept?_eq_some_iff.mp h'
  have opened := exists_forall₂_iff.mp ⟨_, opens⟩
  have opened' := exists_forall₂_iff.mp ⟨_, opens'⟩
  -- Each reading leaves out one key, so every element is in at least one of them.
  have all : ∀ e ∈ d.elements.items, ∃ f, e.Opens f := by
    intro e he
    by_cases own : e.key = key
    · exact opened' e (List.mem_filter.mpr ⟨he, by simpa [own] using different⟩)
    · exact opened e (List.mem_filter.mpr ⟨he, by simpa using own⟩)
  obtain ⟨fields, opens⟩ := exists_forall₂_iff.mpr all
  exact ⟨fields, read?_eq_some_iff.mpr ⟨complete, opens⟩⟩

end RawDocument

end UserProvision
