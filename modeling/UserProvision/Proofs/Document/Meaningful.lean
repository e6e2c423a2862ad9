import UserProvision.Proofs.Document.Field

/-!
# Which documents have a meaning

A document that is opened first has a meaning, and then a document for a meaning, exactly if none of
its own keys begins a spelled value and every value in it has a meaning. Deeper down spelled values
are allowed, but each has to be spelled to its end.

## Main definitions

* `Element.IsMeaningful` — an element that may stand in a document with a meaning.
* `Value.IsUnmarked` — a value without any spelled values in it.

## Main results

* `Document.exists_meaning_iff` — which documents have a meaning.
* `Value.IsUnmarked.exists_means` — where nothing is spelled, nothing can be misspelled.
-/

namespace UserProvision

/-! ## Documents and arrays -/

theorem Spelled.scopedCode?_ne_document {α : Type} [Readable α] {source : α}
    {scope : Option Value} {m : Document} : scopedCode? source scope ≠ some (.document m) := by
  unfold scopedCode?
  split
  · intro h
    obtain ⟨text, -, eq⟩ := Option.map_eq_some_iff.mp h
    cases eq
  · nofun

namespace Document

/-- What begins a spelled value is not among the keys of a document with a document for a
meaning. -/
theorem meaningOnto_cons_ne_document {k : String} {v : Value} {rest seen m : Document}
    (marked : ¬ IsPlain k) : meaningOnto seen ((k, v) :: rest) ≠ some (.document m) := by
  rw [meaningOnto.eq_def]
  dsimp only
  split
  · split
    · intro h
      obtain ⟨text, -, eq⟩ := Option.map_eq_some_iff.mp h
      cases eq
    · intro h
      obtain ⟨-, h⟩ := Option.ite_none_right_eq_some.mp h
      exact Spelled.scopedCode?_ne_document h
    · nofun
  · split
    · split
      · intro h
        obtain ⟨-, h⟩ := Option.ite_none_right_eq_some.mp h
        exact Spelled.scopedCode?_ne_document h
      · nofun
    · rename_i noCode noScope
      split
      · intro h
        obtain ⟨-, h⟩ := Option.ite_none_right_eq_some.mp h
        obtain ⟨s, -, eq⟩ := Option.map_eq_some_iff.mp h
        cases eq
      · rename_i noMark
        exact absurd ⟨noCode, noScope, noMark⟩ marked

theorem meaningOnto_cons {k : String} (plain : IsPlain k) (v : Value) (rest seen : Document) :
    meaningOnto seen ((k, v) :: rest) =
      v.meaning.bind fun m => meaningOnto (seen.put k m) rest := by
  obtain ⟨noCode, noScope, noMark⟩ := plain
  rw [meaningOnto.eq_def]
  dsimp only
  rw [if_neg noCode, if_neg noScope, noMark]
  rfl

theorem exists_meaningOnto_iff {seen d : Document} :
    (∃ m, meaningOnto seen d = some (.document m)) ↔
      ∀ f ∈ d, IsPlain f.1 ∧ ∃ m, f.2.Means m := by
  induction d generalizing seen with
  | nil => simp [meaningOnto]
  | cons f d ih =>
    obtain ⟨k, v⟩ := f
    rw [List.forall_mem_cons]
    by_cases plain : IsPlain k
    · rw [meaningOnto_cons plain]
      constructor
      · rintro ⟨m, h⟩
        obtain ⟨m', means, h⟩ := Option.bind_eq_some_iff.mp h
        exact ⟨⟨plain, m', means⟩, ih.mp ⟨m, h⟩⟩
      · rintro ⟨⟨-, m', means⟩, others⟩
        obtain ⟨m, h⟩ := ih.mpr others
        exact ⟨m, Option.bind_eq_some_iff.mpr ⟨m', means, h⟩⟩
    · constructor
      · rintro ⟨m, h⟩
        exact absurd h (meaningOnto_cons_ne_document plain)
      · rintro ⟨⟨own, -⟩, -⟩
        exact absurd own plain

/-- A document means a document exactly if all its keys are plain and all its values have a
meaning. -/
theorem exists_meaning_iff {d : Document} :
    (∃ m, d.meaning = some m) ↔ ∀ f ∈ d, IsPlain f.1 ∧ ∃ m, f.2.Means m := by
  rw [← exists_meaningOnto_iff]
  unfold meaning
  constructor
  · rintro ⟨m, h⟩
    split at h
    · exact ⟨_, ‹_›⟩
    · cases h
  · rintro ⟨m, h⟩
    exact ⟨m, by rw [h]⟩

end Document

/-- An array has a meaning exactly if all its items have one. -/
theorem Value.exists_meanings_iff {items : List Value} :
    (∃ ms, Value.meanings items = some ms) ↔ ∀ v ∈ items, ∃ m, v.Means m := by
  constructor
  · rintro ⟨ms, h⟩ v hv
    exact exists_meaning_of_mem h hv
  · intro h
    induction items with
    | nil => exact ⟨[], by rw [meanings]⟩
    | cons v items ih =>
      obtain ⟨⟨m, means⟩, others⟩ := List.forall_mem_cons.mp h
      obtain ⟨ms, h⟩ := ih others
      exact ⟨m :: ms, by rw [meanings, means, h]; rfl⟩

/-! ## Values without marks -/

/-- A value in which no key, at any depth, begins a spelled value. -/
inductive Value.IsUnmarked : Value → Prop
  | scalar (s : Scalar) : IsUnmarked (.scalar s)
  | document {fields : Document} (keys : ∀ f ∈ fields, Document.IsPlain f.1)
    (values : ∀ f ∈ fields, IsUnmarked f.2) : IsUnmarked (.document fields)
  | array {items : List Value} (values : ∀ v ∈ items, IsUnmarked v) : IsUnmarked (.array items)
  | scopedCode (source : String) {scope : Document} (keys : ∀ f ∈ scope, Document.IsPlain f.1)
    (values : ∀ f ∈ scope, IsUnmarked f.2) : IsUnmarked (.scopedCode source scope)

/-- A value without marks has a meaning. -/
theorem Value.IsUnmarked.exists_means {v : Value} (h : v.IsUnmarked) : ∃ m, v.Means m := by
  unfold Means
  induction h with
  | scalar s => exact ⟨.scalar s, by rw [meaning]⟩
  | document keys values ih =>
    obtain ⟨m, h⟩ := Document.exists_meaningOnto_iff.mpr fun f hf => ⟨keys f hf, ih f hf⟩
    exact ⟨_, by rw [meaning, h]⟩
  | array values ih =>
    obtain ⟨ms, h⟩ := exists_meanings_iff.mpr ih
    exact ⟨_, by rw [meaning, h]; rfl⟩
  | scopedCode source keys values ih =>
    obtain ⟨m, h⟩ := Document.exists_meaningOnto_iff.mpr fun f hf => ⟨keys f hf, ih f hf⟩
    exact ⟨_, by rw [meaning, h]; rfl⟩

/-! ## Elements -/

namespace Element

/-- Whether an element can stand in a document that is opened and then given a meaning: its key is
plain, and its value opens as one that has a meaning. -/
def IsMeaningful (e : Element) : Prop :=
  Document.IsPlain e.key ∧ ∃ w m, e.value.read? = some w ∧ w.Means m

theorem isMeaningful_iff {e : Element} {w : Value} (opens : e.value.read? = some w) :
    e.IsMeaningful ↔ Document.IsPlain e.key ∧ ∃ m, w.Means m := by
  simp [IsMeaningful, opens]

/-- The fields that elements open as have a meaning together exactly if each element can stand in a
document with a meaning. -/
theorem exists_meaning_iff_of_opens {items : List Element} {fields : Document}
    (opens : List.Forall₂ Element.Opens items fields) :
    (∃ m, fields.meaning = some m) ↔ ∀ e ∈ items, e.IsMeaningful := by
  rw [Document.exists_meaning_iff]
  induction opens with
  | nil => simp
  | cons first _ ih =>
    obtain ⟨read⟩ := first
    rw [List.forall_mem_cons, List.forall_mem_cons, ih, isMeaningful_iff read]

end Element

end UserProvision
