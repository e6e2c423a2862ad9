import UserProvision.Proofs.Document.Elements
import UserProvision.Proofs.Document.Opening

/-!
# Nested documents read back

A document that is written reads back with all that is nested in it, however deep, if every part of
it can be read (`Document.IsLegible`) and the whole of it fits the format.

## Main results

* `Document.IsLegible.isWritable` — such a document can be written.
* `Value.read?_framed` — a value opens as what was written.
* `RawDocument.read?_ofDocument` — a document reads as the fields that were written.
-/

namespace UserProvision

/-! ## Keys -/

namespace Bytes

/-- Only the zero character is encoded with a zero byte. -/
theorem zero_notMem_utf8EncodeChar {c : Char} (h : c ≠ '\x00') :
    0 ∉ String.utf8EncodeChar c := by
  have positive : c.val.toNat ≠ 0 := fun zero => h (Char.ext (UInt32.toNat_inj.mp zero))
  have byte {n : Nat} (pos : n ≠ 0) (small : n < 256) : (0 : UInt8) ≠ UInt8.ofNat n := by
    intro eq
    have := congrArg UInt8.toNat eq
    rw [UInt8.toNat_ofNat_of_lt' (by simpa using small)] at this
    exact pos this.symm
  unfold String.utf8EncodeChar
  dsimp only
  split_ifs with one two three
  · simpa using byte positive (by omega)
  all_goals
    simp only [List.mem_cons, List.not_mem_nil, or_false, not_or]
    refine ⟨byte (by omega) (by omega), ?_⟩
  · exact byte (by omega) (by omega)
  · exact ⟨byte (by omega) (by omega), byte (by omega) (by omega)⟩
  · exact ⟨byte (by omega) (by omega), byte (by omega) (by omega), byte (by omega) (by omega)⟩

theorem contains_eq_false {text : String} (h : 0 ∉ ofText text) :
    text.contains '\x00' = false := by
  rw [String.contains_char_eq, decide_eq_false_iff_not]
  intro mem
  rw [← String.ofList_toList (s := text), ofText_ofList] at h
  exact h (List.mem_flatMap.mpr ⟨_, mem, by decide⟩)

theorem zero_notMem_ofText_toString (n : Nat) : 0 ∉ ofText (toString n) := by
  rw [Nat.toString_eq_ofList_toDigits, ofText_ofList, List.mem_flatMap]
  rintro ⟨c, mem, zero⟩
  have digit := Nat.isDigit_of_mem_toDigits (by decide) (by decide) mem
  refine zero_notMem_utf8EncodeChar ?_ zero
  rintro rfl
  cases digit

end Bytes

/-! ## Arrays -/

/-- The items of an array as fields, keyed by their places. -/
def Value.numbered (place : Nat) : List Value → Document
  | [] => []
  | v :: rest => (toString place, v) :: numbered (place + 1) rest

theorem Value.itemsBody_eq (place : Nat) (items : List Value) :
    Value.itemsBody place items = Document.body (Value.numbered place items) := by
  induction items generalizing place with
  | nil => rfl
  | cons v rest ih => rw [Value.itemsBody, Value.numbered, Document.body, ih]

theorem Value.map_numbered (place : Nat) (items : List Value) :
    (Value.numbered place items).map (·.2) = items := by
  induction items generalizing place with
  | nil => rfl
  | cons v rest ih => rw [Value.numbered, List.map_cons, ih]

theorem Value.mem_of_mem_numbered {place : Nat} {items : List Value} {f : String × Value}
    (h : f ∈ Value.numbered place items) : f.2 ∈ items ∧ 0 ∉ Bytes.ofText f.1 := by
  induction items generalizing place with
  | nil => cases h
  | cons v rest ih =>
    rcases List.mem_cons.mp h with rfl | h
    · exact ⟨List.mem_cons_self, Bytes.zero_notMem_ofText_toString place⟩
    · exact ⟨List.mem_cons_of_mem _ (ih h).1, (ih h).2⟩

/-! ## Documents -/

/-- Whether a value reads back as far as its size has no say: at any depth, every scalar is one of
those that are read and every key can stand in bytes. -/
inductive Value.IsLegible : Value → Prop
  | scalar {s : Scalar} (regular : s.IsRegular) : IsLegible (.scalar s)
  | document {fields : Document} (keys : ∀ f ∈ fields, 0 ∉ Bytes.ofText f.1)
    (values : ∀ f ∈ fields, IsLegible f.2) : IsLegible (.document fields)
  | array {items : List Value} (values : ∀ v ∈ items, IsLegible v) : IsLegible (.array items)
  | scopedCode (source : String) {scope : Document} (keys : ∀ f ∈ scope, 0 ∉ Bytes.ofText f.1)
    (values : ∀ f ∈ scope, IsLegible f.2) : IsLegible (.scopedCode source scope)

/-- The same for the values of a document. -/
def Document.IsLegible (d : Document) : Prop := ∀ f ∈ d, 0 ∉ Bytes.ofText f.1 ∧ f.2.IsLegible

@[simp] theorem Document.isLegible_nil : Document.IsLegible [] := by simp [IsLegible]

@[simp] theorem Document.isLegible_cons (k : String) (v : Value) (d : Document) :
    IsLegible ((k, v) :: d) ↔ (0 ∉ Bytes.ofText k ∧ v.IsLegible) ∧ d.IsLegible :=
  List.forall_mem_cons

theorem Value.IsLegible.framed {v : Value} (h : v.IsLegible) : v.framed.IsRegular := by
  cases h with
  | scalar regular => exact regular
  | document | array | scopedCode => trivial

theorem Document.isWritable_iff {d : Document} :
    d.isWritable = true ↔ ∀ f ∈ d, f.1.contains '\x00' = false ∧ f.2.isWritable = true := by
  induction d with
  | nil => simp [isWritable]
  | cons f d ih => simp [isWritable, ih]

theorem Value.areWritable_iff {items : List Value} :
    Value.areWritable items = true ↔ ∀ v ∈ items, v.isWritable = true := by
  induction items with
  | nil => simp [areWritable]
  | cons v items ih => simp [areWritable, ih]

theorem Value.IsLegible.isWritable {v : Value} (h : v.IsLegible) : v.isWritable = true := by
  induction h with
  | @scalar s regular =>
    cases s with
    | regex pattern options =>
      simp [Value.isWritable, Scalar.isWritable, Bytes.contains_eq_false regular.1,
        Bytes.contains_eq_false regular.2.1]
    | _ => rfl
  | document keys values ih | scopedCode source keys values ih =>
    rw [Value.isWritable, Document.isWritable_iff]
    exact fun f hf => ⟨Bytes.contains_eq_false (keys f hf), ih f hf⟩
  | array values ih =>
    rw [Value.isWritable, areWritable_iff]
    exact ih

theorem Document.IsLegible.isWritable {d : Document} (h : d.IsLegible) : d.isWritable = true :=
  isWritable_iff.mpr fun f hf => ⟨Bytes.contains_eq_false (h f hf).1, (h f hf).2.isWritable⟩

namespace RawDocument

/-- A document reads back if its elements do and their values open. -/
theorem read?_of_framed {d : Document} (regular : d.IsRegular)
    (fits : (ofDocument d).size ≤ 256 ^ 4) (opens : ∀ f ∈ d, f.2.framed.read? = some f.2) :
    (ofDocument d).read? = some d := by
  rw [read?_eq_some_iff, elements_ofDocument regular fits]
  refine ⟨rfl, ?_⟩
  rw [Document.framed, List.forall₂_map_left_iff, List.forall₂_same]
  exact fun f hf => .field (opens f hf)

end RawDocument

/-- A value that is legible and fits the format opens as what was written. -/
theorem Value.read?_framed {v : Value} (legible : v.IsLegible)
    (fits : v.payload.length ≤ 256 ^ 4) : v.framed.read? = some v := by
  -- The values in a document are shorter than it, so they fit as well.
  have nested {d : Document} (keys : ∀ f ∈ d, 0 ∉ Bytes.ofText f.1)
      (values : ∀ f ∈ d, f.2.IsLegible)
      (ih : ∀ f ∈ d, f.2.payload.length ≤ 256 ^ 4 → f.2.framed.read? = some f.2)
      (fits : (RawDocument.ofDocument d).size ≤ 256 ^ 4) :
      (RawDocument.ofDocument d).read? = some d :=
    RawDocument.read?_of_framed (fun f hf => ⟨keys f hf, (values f hf).framed⟩) fits
      fun f hf => ih f hf ((Document.length_payload_lt hf).le.trans fits)
  induction legible with
  | scalar regular => rfl
  | document keys values ih =>
    rw [payload, RawDocument.length_bytes] at fits
    rw [framed, RawValue.read?, nested keys values ih fits]
    rfl
  | @array items values ih =>
    rw [payload, RawDocument.length_bytes, itemsBody_eq] at fits
    have inner : (RawDocument.ofDocument (numbered 0 items)).read? = some (numbered 0 items) :=
      nested (fun f hf => (mem_of_mem_numbered hf).2)
        (fun f hf => values _ (mem_of_mem_numbered hf).1)
        (fun f hf => ih _ (mem_of_mem_numbered hf).1) fits
    rw [RawDocument.ofDocument] at inner
    rw [framed, RawValue.read?, itemsBody_eq, inner, Option.map_some, map_numbered]
  | scopedCode source keys values ih =>
    have inner := nested keys values ih (by
      rw [payload, scopedPayload, List.length_append, RawDocument.length_bytes] at fits
      exact (Nat.le_add_left ..).trans fits)
    rw [framed, RawValue.read?, inner]
    rfl

/-- A document that is legible and fits the format reads as the fields that were written. -/
theorem RawDocument.read?_ofDocument {d : Document} (legible : d.IsLegible)
    (fits : (ofDocument d).size ≤ 256 ^ 4) : (ofDocument d).read? = some d :=
  read?_of_framed (fun f hf => ⟨(legible f hf).1, (legible f hf).2.framed⟩) fits fun f hf =>
    Value.read?_framed (legible f hf).2 ((Document.length_payload_lt hf).le.trans fits)

end UserProvision
