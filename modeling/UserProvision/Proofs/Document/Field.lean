import UserProvision.Proofs.Document.Meaning

/-!
# What a field tells

What the readers of fields accept, said as relations between the values under a key and what is
read from them. A field that may be missing or null is either told (`Field.Told`) or garbled
(`Field.Garbled`): repeated, or of another type than the one asked for.
-/

namespace UserProvision

namespace Value

/-- The text that a value is: a string, or plain binary data in UTF-8. -/
inductive IsText : Value → String → Prop
  | string (text : String) : IsText (.string text) text
  | utf8 {bytes : Bytes} {text : String} (h : Bytes.text? bytes = some text) :
    IsText (.scalar (.binary 0 bytes)) text

/-- The integer of 32 bits that a value is, stored in either size. -/
inductive IsInt32 : Value → Int32 → Prop
  | int32 (n : Int32) : IsInt32 (.int32 n) n
  | int64 {n : Int64} {k : Int32} (same : n.toInt = k.toInt) : IsInt32 (.int64 n) k

/-- The boolean that a value is. -/
inductive IsBoolean : Value → Bool → Prop
  | boolean (b : Bool) : IsBoolean (.boolean b) b

/-- The texts that the items of an array are. -/
inductive IsTexts : Value → List String → Prop
  | array {items : List Value} {texts : List String} (h : List.Forall₂ IsText items texts) :
    IsTexts (.array items) texts

/-- The value that a value means. -/
def Means (v m : Value) : Prop := v.meaning = some m

/-- The document that a value means. -/
def IsDocument (v : Value) (d : Document) : Prop := v.meaning = some (.document d)

/-- Whether an integer fits 32 bits, and is then one of them. -/
theorem fitsInt32_iff {n : Int} : fitsInt32 n = true ↔ ∃ k : Int32, n = k.toInt := by
  constructor
  · intro h
    simp only [fitsInt32, Bool.and_eq_true, decide_eq_true_eq] at h
    exact ⟨Int32.ofInt n, (Int32.toInt_ofInt_of_le (by simpa using h.1) (by simpa using h.2)).symm⟩
  · rintro ⟨k, rfl⟩
    have := k.le_toInt
    have := k.toInt_lt
    simp [fitsInt32]
    omega

end Value

namespace Field

open Value

/-! ## Single values -/

/-- A reader that looks at scalars only accepts nothing else. -/
theorem scalar?_bind_eq_some_iff {β : Type} {v : Value} {read : Scalar → Option β} {b : β} :
    (Readable.scalar? v >>= read) = some b ↔ ∃ s, v = .scalar s ∧ read s = some b := by
  constructor
  · intro h
    obtain ⟨s, scalar, held⟩ := Option.bind_eq_some_iff.mp h
    cases v with
    | scalar s' =>
      cases scalar
      exact ⟨s, rfl, held⟩
    | document | array | scopedCode => cases scalar
  · rintro ⟨s, rfl, held⟩
    exact held

theorem text?_eq_some_iff {v : Value} {text : String} : text? v = some text ↔ v.IsText text := by
  rw [text?, scalar?_bind_eq_some_iff]
  constructor
  · rintro ⟨s, rfl, held⟩
    unfold Scalar.text? at held
    split at held
    · cases held
      exact .string _
    · exact .utf8 held
    · cases held
  · rintro (_ | h)
    · exact ⟨_, rfl, rfl⟩
    · exact ⟨_, rfl, h⟩

theorem storedInt?_eq_some_iff {v : Value} {n : Int} :
    storedInt? v = some n ↔
      (∃ k : Int32, v = .int32 k ∧ n = k.toInt) ∨ ∃ k : Int64, v = .int64 k ∧ n = k.toInt := by
  rw [storedInt?, scalar?_bind_eq_some_iff]
  constructor
  · rintro ⟨s, rfl, held⟩
    unfold Scalar.storedInt? at held
    split at held
    · cases held
      exact .inl ⟨_, rfl, rfl⟩
    · cases held
      exact .inr ⟨_, rfl, rfl⟩
    · cases held
  · rintro (⟨k, rfl, rfl⟩ | ⟨k, rfl, rfl⟩)
    · exact ⟨_, rfl, rfl⟩
    · exact ⟨_, rfl, rfl⟩

theorem boolean?_eq_some_iff {v : Value} {b : Bool} : boolean? v = some b ↔ v.IsBoolean b := by
  rw [boolean?, scalar?_bind_eq_some_iff]
  constructor
  · rintro ⟨s, rfl, held⟩
    unfold Scalar.boolean? at held
    split at held
    · cases held
      exact .boolean b
    · cases held
  · rintro ⟨⟩
    exact ⟨_, rfl, rfl⟩

theorem int32?_eq_some_iff_storedInt? {α : Type} [Readable α] {v : α} {n : Int32} :
    int32? v = some n ↔ storedInt? v = some n.toInt := by
  constructor
  · intro h
    obtain ⟨k, stored, h⟩ := Option.bind_eq_some_iff.mp h
    obtain ⟨fits, h⟩ := Option.ite_none_right_eq_some.mp h
    obtain ⟨n', rfl⟩ := fitsInt32_iff.mp fits
    rw [Int32.ofInt_toInt] at h
    cases h
    exact stored
  · intro h
    rw [int32?, h]
    simp [fitsInt32_iff.mpr ⟨n, rfl⟩]

theorem int32?_eq_some_iff {v : Value} {n : Int32} : int32? v = some n ↔ v.IsInt32 n := by
  rw [int32?_eq_some_iff_storedInt?, storedInt?_eq_some_iff]
  constructor
  · rintro (⟨k, rfl, same⟩ | ⟨k, rfl, same⟩)
    · rw [Int32.toInt_inj.mp same]
      exact .int32 k
    · exact .int64 same.symm
  · rintro (_ | same)
    · exact .inl ⟨n, rfl, rfl⟩
    · exact .inr ⟨_, rfl, same.symm⟩

theorem texts?_eq_some_iff {v : Value} {texts : List String} :
    texts? v = some texts ↔ v.IsTexts texts := by
  unfold texts?
  split
  · rename_i items
    rw [mapM_eq_some_iff]
    constructor
    · intro h
      exact .array (h.imp fun _ _ => text?_eq_some_iff.mp)
    · rintro ⟨h⟩
      exact h.imp fun _ _ => text?_eq_some_iff.mpr
  · rename_i other
    constructor
    · intro h
      cases h
    · rintro ⟨h⟩
      exact absurd rfl (other _)

/-! ## The values under a key -/

section Values

variable {α β : Type}

/-- What the values under a key tell: nothing if there is none or if it is null. -/
inductive Told (is : Value → β → Prop) : List Value → Option β → Prop
  | missing : Told is [] none
  | null : Told is [.null] none
  | given {v : Value} {b : β} (present : v ≠ .null) (h : is v b) : Told is [v] (some b)

/-- The values under a key are several, or one of another type than the one asked for. -/
inductive Garbled (is : Value → β → Prop) : List Value → Prop
  | repeated (v w : Value) (more : List Value) : Garbled is (v :: w :: more)
  | mistyped {v : Value} (present : v ≠ .null) (h : ∀ b, ¬ is v b) : Garbled is [v]

/-- A single value under a key, or a value of its own for a missing one. -/
inductive Stated (default : β) (is : Value → β → Prop) : List Value → β → Prop
  | missing : Stated default is [] default
  | given {v : Value} {b : β} (h : is v b) : Stated default is [v] b

variable {is : Value → β → Prop} {vs : List Value}

/-- Values are garbled exactly if they tell nothing at all, not even that they are missing. -/
theorem garbled_iff : Garbled is vs ↔ ∀ o, ¬ Told is vs o := by
  constructor
  · rintro (_ | ⟨present, other⟩) o told
    · cases told
    · cases told with
      | null => exact present rfl
      | given _ h => exact other _ h
  · intro none
    rcases vs with _ | ⟨v, _ | ⟨w, more⟩⟩
    · exact absurd .missing (none _)
    · by_cases present : v = .null
      · subst present
        exact absurd .null (none _)
      · exact .mistyped present fun b h => none _ (.given present h)
    · exact .repeated v w more

theorem told_or_garbled (is : Value → β → Prop) (vs : List Value) :
    (∃ o, Told is vs o) ∨ Garbled is vs := by
  by_cases told : ∃ o, Told is vs o
  · exact .inl told
  · exact .inr (garbled_iff.mpr (not_exists.mp told))

theorem nullable_null [Readable α] {read : α → Option β} {a : α}
    (h : Readable.scalar? a = Readable.scalar? Value.null) : nullable read a = some none :=
  if_pos h

theorem nullable_of_ne [Readable α] {read : α → Option β} {a : α} {v : Value}
    (h : Readable.scalar? a = Readable.scalar? v) (present : v ≠ .null) :
    nullable read a = (read a).map some := by
  refine if_neg fun isNull => present ?_
  rw [h] at isNull
  cases v with
  | scalar s =>
    cases isNull
    rfl
  | document | array | scopedCode => cases isNull

/-- A reader of values that may still stand in the bytes accepts what the opened value is. -/
structure Agrees [Readable α] (read : α → Option β) (is : Value → β → Prop) (a : α) (v : Value) :
    Prop where
  scalar : Readable.scalar? a = Readable.scalar? v
  reads (b : β) : read a = some b ↔ is v b

/-- What an optional field reads is what its values tell. -/
theorem optional_eq_some_iff [Readable α] {read : α → Option β} {as : List α}
    (agree : List.Forall₂ (Agrees read is) as vs) {o : Option β} :
    optional read as = some o ↔ Told is vs o := by
  unfold optional withDefault
  rcases agree with _ | ⟨⟨scalar, reads⟩, _ | _⟩
  · constructor
    · intro h
      cases h
      exact .missing
    · rintro ⟨⟩
      rfl
  · rename_i a v
    dsimp only
    by_cases present : v = .null
    · subst present
      rw [nullable_null scalar]
      constructor
      · intro h
        cases h
        exact .null
      · rintro (_ | _ | ⟨present, -⟩)
        · rfl
        · exact absurd rfl present
    · rw [nullable_of_ne scalar present, Option.map_eq_some_iff]
      constructor
      · rintro ⟨b, h, rfl⟩
        exact .given present ((reads b).mp h)
      · rintro (_ | _ | ⟨-, h⟩)
        · exact absurd rfl present
        · exact ⟨_, (reads _).mpr h, rfl⟩
  · constructor
    · intro h
      cases h
    · rintro ⟨⟩

/-- The same for values that are opened. -/
theorem optional_iff_told {read : Value → Option β} (reads : ∀ {v b}, read v = some b ↔ is v b)
    {o : Option β} : Field.optional read vs = some o ↔ Told is vs o :=
  optional_eq_some_iff (List.forall₂_same.mpr fun _ _ => ⟨rfl, fun _ => reads⟩)

theorem withDefault_eq_some_iff {default : β} {read : Value → Option β}
    (reads : ∀ {v b}, read v = some b ↔ is v b) {b : β} :
    withDefault default read vs = some b ↔ Stated default is vs b := by
  unfold withDefault
  rcases vs with _ | ⟨v, _ | ⟨w, more⟩⟩
  · constructor
    · intro h
      cases h
      exact .missing
    · rintro ⟨⟩
      rfl
  · constructor
    · intro h
      exact .given (reads.mp h)
    · rintro (_ | h)
      exact reads.mpr h
  · constructor
    · intro h
      cases h
    · rintro ⟨⟩

theorem required_eq_some_iff {read : α → Option β} {as : List α} {b : β} :
    required read as = some b ↔ ∃ a, as = [a] ∧ read a = some b := by
  unfold required
  rcases as with _ | ⟨v, _ | ⟨w, more⟩⟩ <;> simp

end Values

end Field

/-! ## Values that still stand in the bytes -/

/-- Values that stand under a key agree with what opened values are, if readers do so for any value
that opens and then has a meaning. -/
theorem RawDocument.agrees_values {β : Type} {d : RawDocument} {fields : Document}
    (opens : d.read? = some fields) {key : String}
    (meanings : ∀ w ∈ fields.values key, ∃ m, w.Means m) {read : RawValue → Option β}
    {is : Value → β → Prop}
    (reads : ∀ v w m, v.read? = some w → w.Means m → ∀ b, read v = some b ↔ is w b) :
    List.Forall₂ (Field.Agrees read is) (d.values key) (fields.values key) := by
  have opened := opens_values opens key
  generalize d.values key = vs, fields.values key = ws at meanings opened
  induction opened with
  | nil => exact .nil
  | cons first _ ih =>
    obtain ⟨m, means⟩ := meanings _ List.mem_cons_self
    exact .cons ⟨RawValue.scalar?_of_read? first, reads _ _ m first means⟩
      (ih fun w hw => meanings w (List.mem_cons_of_mem _ hw))

namespace Document

theorem mem_of_mem_values {d : Document} {key : String} {v : Value} (h : v ∈ d.values key) :
    (key, v) ∈ d := by
  obtain ⟨⟨k, w⟩, mem, rfl⟩ := List.mem_map.mp h
  obtain ⟨mem, own⟩ := List.mem_filter.mp mem
  rw [beq_iff_eq] at own
  exact own ▸ mem

theorem mem_values_of_mem {d : Document} {key : String} {v : Value} (h : (key, v) ∈ d) :
    v ∈ d.values key :=
  List.mem_map.mpr ⟨_, List.mem_filter.mpr ⟨h, BEq.rfl⟩, rfl⟩

/-- The values under a plain key of a document with a meaning have meanings themselves. -/
theorem means_of_mem_values {seen d : Document} {m : Value} (h : meaningOnto seen d = some m)
    {key : String} (plain : IsPlain key) : ∀ v ∈ d.values key, ∃ m, v.Means m :=
  fun _ hv => exists_meaning_of_mem h (mem_of_mem_values hv) plain

end Document

end UserProvision
