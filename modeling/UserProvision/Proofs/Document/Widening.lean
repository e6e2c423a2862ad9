import Mathlib.Data.List.Perm.Basic
import UserProvision.Proofs.Document.Field

/-!
# Documents with more in them

A document widens another one if it holds the same elements in any order, and further ones that open
and stand under keys nobody asks for. Under the keys that are asked for both read the same: a field
is read from a single value or from none, so that the order of several has no say.

## Main definitions

* `RawDocument.Widens` — a document widens another one.

## Main results

* `RawDocument.Widens.bind_read?`, `RawDocument.Widens.bind_readExcept?` — both documents read alike.
* `RawDocument.Widens.forall_items_iff` — what holds of all elements of the one and of the further
  ones holds of all elements of the other.
-/

namespace UserProvision

/-! ## Fields -/

namespace Field

variable {α β : Type} {vs ws : List α}

/-- Values in another order are the same values, or they are several. -/
theorem eq_or_several (h : vs.Perm ws) :
    vs = ws ∨ (∃ v v' more, vs = v :: v' :: more) ∧ ∃ w w' more, ws = w :: w' :: more := by
  have length := h.length_eq
  rcases vs with _ | ⟨v, _ | ⟨v', vs⟩⟩
  · exact .inl (List.nil_perm.mp h).symm
  · exact .inl (List.singleton_perm.mp h)
  · rcases ws with _ | ⟨w, _ | ⟨w', ws⟩⟩
    · cases length
    · cases length
    · exact .inr ⟨⟨v, v', vs, rfl⟩, w, w', ws, rfl⟩

theorem required_perm (h : vs.Perm ws) (read : α → Option β) :
    required read vs = required read ws := by
  rcases eq_or_several h with rfl | ⟨⟨v, v', vs, rfl⟩, w, w', ws, rfl⟩
  · rfl
  · rfl

theorem withDefault_perm (h : vs.Perm ws) (default : β) (read : α → Option β) :
    withDefault default read vs = withDefault default read ws := by
  rcases eq_or_several h with rfl | ⟨⟨v, v', vs, rfl⟩, w, w', ws, rfl⟩
  · rfl
  · rfl

theorem optional_perm [Readable α] (h : vs.Perm ws) (read : α → Option β) :
    optional read vs = optional read ws :=
  withDefault_perm h none (nullable read)

end Field

/-! ## Widening -/

theorem rel_of_exists_iff {α β : Type} {R : α → β → Prop} {o : Option α} {o' : Option β}
    (same : (∃ a, o = some a) ↔ ∃ b, o' = some b)
    (related : ∀ a b, o = some a → o' = some b → R a b) : Option.Rel R o o' := by
  cases o with
  | none =>
    cases o' with
    | none => exact .none
    | some b => simp at same
  | some a =>
    obtain ⟨b, rfl⟩ := same.mp ⟨a, rfl⟩
    exact .some (related a b rfl rfl)

namespace RawDocument

variable {d d' : RawDocument} {keys : List String} {extra : List Element} {key : String}

/-- A document holds the elements of another one in any order, and further ones that open and stand
under none of the keys that are asked for. -/
structure Widens (keys : List String) (extra : List Element) (d d' : RawDocument) : Prop where
  complete : d'.elements.complete = d.elements.complete
  items : d'.elements.items.Perm (extra ++ d.elements.items)
  unasked : ∀ e ∈ extra, e.key ∉ keys
  opens : ∀ e ∈ extra, ∃ f, e.Opens f

theorem exists_read?_iff :
    (∃ fields, d.read? = some fields) ↔
      d.elements.complete = true ∧ ∀ e ∈ d.elements.items, ∃ f, e.Opens f := by
  simp only [read?_eq_some_iff, exists_and_left, exists_forall₂_iff]

theorem exists_readExcept?_iff :
    (∃ p, d.readExcept? key = some p) ↔
      d.elements.complete = true ∧ ∀ e ∈ d.elements.items, e.key ≠ key → ∃ f, e.Opens f := by
  simp [readExcept?_eq_some_iff, exists_forall₂_iff]

namespace Widens

/-- What holds of the further elements holds of all elements of the one document just if it holds of
all elements of the other. -/
theorem forall_items_iff (h : Widens keys extra d d') {p : Element → Prop}
    (holds : ∀ e ∈ extra, p e) :
    (∀ e ∈ d'.elements.items, p e) ↔ ∀ e ∈ d.elements.items, p e := by
  constructor
  · intro all e he
    exact all e (h.items.mem_iff.mpr (List.mem_append_right _ he))
  · intro all e he
    rcases List.mem_append.mp (h.items.mem_iff.mp he) with he | he
    · exact holds e he
    · exact all e he

theorem values_perm (h : Widens keys extra d d') (asked : key ∈ keys) :
    (d'.values key).Perm (d.values key) := by
  have others : extra.filter (·.key == key) = [] := by
    refine List.filter_eq_nil_iff.mpr fun e he own => h.unasked e he ?_
    rwa [beq_iff_eq.mp own]
  have perm := (h.items.filter (·.key == key)).map (·.value)
  rwa [List.filter_append, others, List.nil_append] at perm

/-- Values that are opened keep their order. -/
theorem opened_perm {fields fields' : Document}
    (perm : (d'.values key).Perm (d.values key))
    (opens' : List.Forall₂ (fun v w => v.read? = some w) (d'.values key) (fields'.values key))
    (opens : List.Forall₂ (fun v w => v.read? = some w) (d.values key) (fields.values key)) :
    (fields'.values key).Perm (fields.values key) :=
  List.rel_perm_imp (fun _ _ _ h h' => Option.some.inj (h.symm.trans h')) opens' opens perm

/-- Both documents read as fields, with the same values under the keys that are asked for, or
neither does. -/
theorem read? (h : Widens keys extra d d') :
    Option.Rel (fun fields' fields => ∀ k ∈ keys,
      (Document.values fields' k).Perm (Document.values fields k)) d'.read? d.read? := by
  refine rel_of_exists_iff ?_ fun fields' fields read' read k asked => ?_
  · rw [exists_read?_iff, exists_read?_iff, h.complete, h.forall_items_iff h.opens]
  · exact opened_perm (h.values_perm asked) (opens_values read' k) (opens_values read k)

/-- The same when the values under one key are left as they stand. -/
theorem readExcept? (h : Widens keys extra d d') (asked : key ∈ keys) :
    Option.Rel (fun p' p => p'.1.Perm p.1 ∧ ∀ k, k ∈ keys ∧ k ≠ key →
      (Document.values p'.2 k).Perm (Document.values p.2 k))
      (d'.readExcept? key) (d.readExcept? key) := by
  refine rel_of_exists_iff ?_ fun p' p read' read => ⟨?_, fun k ⟨hk, other⟩ => ?_⟩
  · rw [exists_readExcept?_iff, exists_readExcept?_iff, h.complete]
    exact and_congr_right fun _ => h.forall_items_iff fun e he _ => h.opens e he
  · obtain ⟨-, own', -⟩ := readExcept?_eq_some_iff.mp read'
    obtain ⟨-, own, -⟩ := readExcept?_eq_some_iff.mp read
    rw [own', own]
    exact h.values_perm asked
  · exact opened_perm (h.values_perm hk) (opens_values_of_readExcept? read' other)
      (opens_values_of_readExcept? read other)

variable {β : Type}

/-- What is made of the fields is the same for both documents if the order of the values under one
key has no say in it. -/
theorem bind_read? (h : Widens keys extra d d') {next : Document → Option β}
    (same : ∀ fields' fields : Document,
      (∀ k ∈ keys, (fields'.values k).Perm (fields.values k)) → next fields' = next fields) :
    d'.read?.bind next = d.read?.bind next := by
  have related := h.read?
  generalize d.read? = o, d'.read? = o' at related
  cases related with
  | none => rfl
  | some values => exact same _ _ values

theorem bind_readExcept? (h : Widens keys extra d d') (asked : key ∈ keys)
    {next : List RawValue × Document → Option β}
    (same : ∀ (own' own : List RawValue) (fields' fields : Document), own'.Perm own →
      (∀ k, k ∈ keys ∧ k ≠ key → (fields'.values k).Perm (fields.values k)) →
      next (own', fields') = next (own, fields)) :
    (d'.readExcept? key).bind next = (d.readExcept? key).bind next := by
  have related := h.readExcept? asked
  generalize d.readExcept? key = o, d'.readExcept? key = o' at related
  cases related with
  | none => rfl
  | some both => exact same _ _ _ _ both.1 both.2

end Widens

end RawDocument

end UserProvision
