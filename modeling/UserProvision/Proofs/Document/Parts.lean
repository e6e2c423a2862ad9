import Mathlib.Algebra.Ring.Nat
import Mathlib.Data.List.Basic
import Mathlib.Data.List.TakeWhile
import UserProvision.Document.Element

/-!
# The parts that values are read from

Every reader takes a part off the front of the bytes, and what it reads depends on that part alone.
The part is what is written for the value that was read, but for patterns, whose options may stand in
any order. Written values are read back, if no key and no pattern holds a zero byte and every size
fits its four bytes.

## Main definitions

* `Scalar.IsRegular`, `Scalar.Fits` — the values that can be read.
* `Scalar.Stands`, `RawValue.Stands`, `Element.Stands` — the bytes that a value may stand in.

## Main results

* `Scalar.take?_payload`, `RawValue.take?_payload` — what is written is read back.
* `RawValue.exists_stands`, `Element.take?_eq_some_iff` — what readers accept.
* `Element.Stands.written` — what was read can be written.
-/

namespace UserProvision

/-! ## Bytes -/

namespace Bytes

theorem number?_littleEndian_of_lt {width n : Nat} (h : n < 256 ^ width) (rest : Bytes) :
    number? width (littleEndian width n ++ rest) = some (n, rest) := by
  rw [number?_littleEndian, Nat.mod_eq_of_lt h]

theorem number?_toNat_uint32 (x : UInt32) (rest : Bytes) :
    number? 4 (littleEndian 4 x.toNat ++ rest) = some (x.toNat, rest) :=
  number?_littleEndian_of_lt x.toNat_lt rest

theorem number?_toNat_uint64 (x : UInt64) (rest : Bytes) :
    number? 8 (littleEndian 8 x.toNat ++ rest) = some (x.toNat, rest) :=
  number?_littleEndian_of_lt x.toNat_lt rest

theorem splitAt?_append_of_length {front : Bytes} {count : Nat} (h : front.length = count)
    (rest : Bytes) : splitAt? count (front ++ rest) = some (front, rest) := by
  subst h
  exact splitAt?_append front rest

theorem ofLittleEndian_lt (bytes : Bytes) : ofLittleEndian bytes < 256 ^ bytes.length := by
  induction bytes with
  | nil => decide
  | cons b bytes ih =>
    have := b.toNat_lt
    rw [ofLittleEndian, List.length_cons, Nat.pow_succ']
    omega

theorem littleEndian_ofLittleEndian (bytes : Bytes) :
    littleEndian bytes.length (ofLittleEndian bytes) = bytes := by
  induction bytes with
  | nil => rfl
  | cons b bytes ih =>
    have small := b.toNat_lt
    have low : UInt8.ofNat (b.toNat + 256 * ofLittleEndian bytes) = b := by
      rw [UInt8.ofNat_eq_iff_mod_eq_toNat]
      omega
    have high : (b.toNat + 256 * ofLittleEndian bytes) / 256 = ofLittleEndian bytes := by omega
    rw [ofLittleEndian, List.length_cons, littleEndian, low, high, ih]

theorem splitAt?_eq_some {count : Nat} {bytes front rest : Bytes}
    (h : splitAt? count bytes = some (front, rest)) :
    bytes = front ++ rest ∧ front.length = count := by
  simp only [splitAt?, Option.ite_none_right_eq_some, Option.some.injEq, Prod.mk.injEq] at h
  obtain ⟨length, rfl, rfl⟩ := h
  exact ⟨(List.take_append_drop count bytes).symm, length⟩

theorem number?_eq_some {width n : Nat} {bytes rest : Bytes}
    (h : number? width bytes = some (n, rest)) :
    bytes = littleEndian width n ++ rest ∧ n < 256 ^ width := by
  obtain ⟨⟨digits, rest'⟩, split, eq⟩ := Option.map_eq_some_iff.mp h
  obtain ⟨rfl, rfl⟩ := splitAt?_eq_some split
  cases eq
  exact ⟨by rw [littleEndian_ofLittleEndian], ofLittleEndian_lt digits⟩

theorem number?_uint32_eq_some {n : Nat} {bytes rest : Bytes} (h : number? 4 bytes = some (n, rest)) :
    bytes = littleEndian 4 (UInt32.ofNat n).toNat ++ rest := by
  obtain ⟨rfl, small⟩ := number?_eq_some h
  rw [UInt32.toNat_ofNat_of_lt' small]

theorem number?_uint64_eq_some {n : Nat} {bytes rest : Bytes} (h : number? 8 bytes = some (n, rest)) :
    bytes = littleEndian 8 (UInt64.ofNat n).toNat ++ rest := by
  obtain ⟨rfl, small⟩ := number?_eq_some h
  rw [UInt64.toNat_ofNat_of_lt' small]

theorem ofText_of_text? {bytes : Bytes} {text : String} (h : text? bytes = some text) :
    ofText text = bytes := by
  obtain ⟨valid, eq⟩ := Option.dite_none_right_eq_some.mp h
  cases eq
  rfl

theorem ofText_ofList (cs : List Char) :
    ofText (String.ofList cs) = cs.flatMap String.utf8EncodeChar := by
  simp [ofText, String.toByteArray_ofList, List.utf8Encode]

theorem cstring?_eq_some {bytes rest : Bytes} {text : String}
    (h : cstring? bytes = some (text, rest)) :
    bytes = cstring text ++ rest ∧ 0 ∉ ofText text := by
  have whole := List.takeWhile_append_dropWhile (p := (· != 0)) (l := bytes)
  have stop := List.head?_dropWhile_not (· != 0) bytes
  unfold cstring? at h
  split at h
  · cases h
  · rename_i b rest' dropped
    obtain ⟨text', read, eq⟩ := Option.map_eq_some_iff.mp h
    cases eq
    rw [dropped] at stop whole
    have front := ofText_of_text? read
    have zero : b = 0 := by simpa using stop
    refine ⟨?_, fun mem => ?_⟩
    · rw [zero] at whole
      rw [cstring, front, List.append_assoc]
      exact whole.symm
    · rw [front] at mem
      simpa using List.mem_takeWhile_imp mem

end Bytes

open Bytes

theorem length_sizedText (text : String) : (sizedText text).length = text.utf8ByteSize + 5 := by
  simp [sizedText, Bytes.cstring]
  omega

theorem sizedText?_sizedText {text : String} (h : text.utf8ByteSize + 1 < 256 ^ 4) (rest : Bytes) :
    sizedText? (sizedText text ++ rest) = some (text, rest) := by
  have chunk : (Bytes.cstring text).length = text.utf8ByteSize + 1 := by simp [Bytes.cstring]
  have number := Bytes.number?_littleEndian_of_lt h (Bytes.cstring text ++ rest)
  have split := Bytes.splitAt?_append_of_length chunk rest
  have last : (Bytes.cstring text).getLast? = some 0 := by simp [Bytes.cstring]
  have front : (Bytes.cstring text).dropLast = Bytes.ofText text := by simp [Bytes.cstring]
  simp [sizedText?, sizedText, number, split, last, front]

theorem ObjectId.take?_bytes (id : ObjectId) (rest : Bytes) :
    ObjectId.take? (id.bytes ++ rest) = some (id, rest) := by
  simp [ObjectId.take?, Bytes.splitAt?_append_of_length id.length_bytes, ofBytes?, id.length_bytes]

theorem RawDocument.take?_bytes {d : RawDocument} (h : d.size < 256 ^ 4) (rest : Bytes) :
    RawDocument.take? (d.bytes ++ rest) = some (d, rest) := by
  have number := Bytes.number?_littleEndian_of_lt h (d.body ++ ([0] ++ rest))
  have split := Bytes.splitAt?_append_of_length d.length_bytes rest
  have front : d.bytes ++ rest = Bytes.littleEndian 4 d.size ++ (d.body ++ ([0] ++ rest)) := by
    simp [RawDocument.bytes]
  rw [← front] at number
  simp [RawDocument.take?, number, split]

theorem sizedText?_eq_some {bytes rest : Bytes} {text : String}
    (h : sizedText? bytes = some (text, rest)) :
    bytes = sizedText text ++ rest ∧ text.utf8ByteSize + 1 < 256 ^ 4 := by
  obtain ⟨⟨size, rest'⟩, number, h⟩ := Option.bind_eq_some_iff.mp h
  obtain ⟨⟨chunk, rest''⟩, split, h⟩ := Option.bind_eq_some_iff.mp h
  obtain ⟨last, h⟩ := Option.ite_none_right_eq_some.mp h
  obtain ⟨text', read, eq⟩ := Option.map_eq_some_iff.mp h
  cases eq
  obtain ⟨rfl, small⟩ := number?_eq_some number
  obtain ⟨rfl, rfl⟩ := splitAt?_eq_some split
  have written : chunk = cstring text := by
    rw [cstring, ofText_of_text? read]
    exact (List.dropLast_append_getLast? 0 last).symm
  have length : chunk.length = text.utf8ByteSize + 1 := by simp [written, cstring]
  refine ⟨?_, length ▸ small⟩
  rw [sizedText, ← length, ← written, List.append_assoc]

theorem ObjectId.take?_eq_some {bytes rest : Bytes} {id : ObjectId}
    (h : ObjectId.take? bytes = some (id, rest)) : bytes = id.bytes ++ rest := by
  obtain ⟨⟨chunk, rest'⟩, split, h⟩ := Option.bind_eq_some_iff.mp h
  obtain ⟨id', read, eq⟩ := Option.bind_eq_some_iff.mp h
  cases eq
  obtain ⟨length, eq⟩ := Option.dite_none_right_eq_some.mp read
  cases eq
  exact (splitAt?_eq_some split).1

namespace RawDocument

theorem ofBytes?_eq_some {bytes : Bytes} {d : RawDocument} (h : ofBytes? bytes = some d) :
    bytes = d.bytes := by
  obtain ⟨⟨long, front, last⟩, eq⟩ := Option.ite_none_right_eq_some.mp h
  cases eq
  have size : RawDocument.size ⟨(bytes.drop 4).dropLast⟩ = bytes.length := by
    simp only [RawDocument.size, List.length_dropLast, List.length_drop]
    omega
  have back : (bytes.drop 4).dropLast ++ [0] = bytes.drop 4 := by
    refine List.dropLast_append_getLast? 0 ?_
    rw [List.getLast?_drop, if_neg (by omega)]
    exact last
  rw [RawDocument.bytes, size, ← front, List.append_assoc, back, List.take_append_drop]

theorem take?_eq_some {bytes rest : Bytes} {d : RawDocument} (h : take? bytes = some (d, rest)) :
    bytes = d.bytes ++ rest ∧ d.size < 256 ^ 4 := by
  obtain ⟨⟨size, rest'⟩, number, h⟩ := Option.bind_eq_some_iff.mp h
  obtain ⟨⟨chunk, rest''⟩, split, h⟩ := Option.bind_eq_some_iff.mp h
  obtain ⟨d', framed, eq⟩ := Option.bind_eq_some_iff.mp h
  cases eq
  obtain ⟨rfl, length⟩ := splitAt?_eq_some split
  obtain rfl := ofBytes?_eq_some framed
  rw [length_bytes] at length
  exact ⟨rfl, length ▸ (number?_eq_some number).2⟩

end RawDocument

/-! ## Scalars -/

/-- Whether a value is one of those that are read, as far as its size has no say. -/
def Scalar.IsRegular : Scalar → Prop
  | .regex pattern options =>
    0 ∉ Bytes.ofText pattern ∧ 0 ∉ Bytes.ofText options ∧ sortedOptions options = options
  | .decimal d => d.bytes.length = 16
  | _ => True

/-- Whether the sizes that a value states fit their four bytes. -/
def Scalar.Fits : Scalar → Prop
  | .string text | .code text | .symbol text | .pointer text _ => text.utf8ByteSize + 1 < 256 ^ 4
  | .binary subtype bytes => (if subtype = 2 then bytes.length + 4 else bytes.length) < 256 ^ 4
  | _ => True

/-- No size that is stated exceeds that of the whole. -/
theorem Scalar.fits_of_length {s : Scalar} (h : s.payload.length < 256 ^ 4) : s.Fits := by
  cases s with
  | string text | code text | symbol text =>
    rw [payload, length_sizedText] at h
    rw [Fits]
    omega
  | pointer collection id =>
    rw [payload, List.length_append, length_sizedText] at h
    rw [Fits]
    omega
  | binary subtype bytes =>
    by_cases old : subtype = 2 <;>
      simp only [payload, old, ↓reduceIte, List.length_append, List.length_cons,
        Bytes.length_littleEndian] at h <;>
      simp only [Fits, old, ↓reduceIte] <;>
      omega
  | _ => trivial

theorem binary?_payload {subtype : UInt8} {bytes : Bytes} (h : (Scalar.binary subtype bytes).Fits)
    (rest : Bytes) :
    binary? ((Scalar.binary subtype bytes).payload ++ rest) =
      some (.binary subtype bytes, rest) := by
  by_cases old : subtype = 2
  · subst old
    have whole : bytes.length + 4 < 256 ^ 4 := h
    have part : bytes.length < 256 ^ 4 := by omega
    have chunk : (Bytes.littleEndian 4 bytes.length ++ bytes).length = bytes.length + 4 := by
      simp [Nat.add_comm]
    have outer := Bytes.number?_littleEndian_of_lt whole
      (2 :: (Bytes.littleEndian 4 bytes.length ++ (bytes ++ rest)))
    have inner := Bytes.number?_littleEndian_of_lt part bytes
    have split := Bytes.splitAt?_append_of_length chunk rest
    rw [List.append_assoc] at split
    simp [binary?, Scalar.payload, outer, inner, split]
  · have size : bytes.length < 256 ^ 4 := by simpa [Scalar.Fits, old] using h
    have outer := Bytes.number?_littleEndian_of_lt size (subtype :: (bytes ++ rest))
    simp [binary?, Scalar.payload, old, outer, Bytes.splitAt?_append]

theorem Scalar.take?_payload {s : Scalar} (regular : s.IsRegular) (fits : s.Fits) (rest : Bytes) :
    Scalar.take? s.tag (s.payload ++ rest) = some (s, rest) := by
  cases s with
  | string text | code text | symbol text =>
    simp [take?, tag, payload, sizedText?_sizedText fits]
  | pointer collection id =>
    simp [take?, tag, payload, sizedText?_sizedText fits, ObjectId.take?_bytes]
  | binary subtype bytes => exact binary?_payload fits rest
  | regex pattern options =>
    obtain ⟨clean, clean', sorted⟩ := regular
    simp [take?, tag, payload, regex?, ordered, sorted, Bytes.cstring?_cstring, clean, clean']
  | objectId id => simp [take?, tag, payload, ObjectId.take?_bytes]
  | boolean b => cases b <;> rfl
  | undefined | null | minKey | maxKey => rfl
  | decimal d => simp [take?, tag, payload, Bytes.splitAt?_append_of_length regular]
  | double x => simp [take?, tag, payload, Bytes.number?_toNat_uint64]
  | date n | int64 n =>
    have back : Int64.ofNat n.toUInt64.toNat = n := by
      rw [← UInt64.toInt64_ofNat', UInt64.ofNat_toNat, Int64.toInt64_toUInt64]
    simp [take?, tag, payload, Bytes.number?_toNat_uint64, back]
  | int32 n =>
    have back : Int32.ofNat n.toUInt32.toNat = n := by
      rw [← UInt32.toInt32_ofNat', UInt32.ofNat_toNat, Int32.toInt32_toUInt32]
    simp [take?, tag, payload, Bytes.number?_toNat_uint32, back]
  | timestamp => simp [take?, tag, payload, Bytes.number?_toNat_uint32]

theorem takeBoolean?_eq_some {bytes rest : Bytes} {b : Bool}
    (h : takeBoolean? bytes = some (b, rest)) : bytes = (if b then 1 else 0) :: rest := by
  unfold takeBoolean? at h
  split at h <;> cases h <;> rfl

theorem binary?_eq_some {bytes rest : Bytes} {s : Scalar} (h : binary? bytes = some (s, rest)) :
    ∃ subtype data, s = .binary subtype data ∧ s.Fits ∧ bytes = s.payload ++ rest := by
  obtain ⟨⟨size, rest'⟩, number, read⟩ := Option.bind_eq_some_iff.mp h
  obtain ⟨rfl, small⟩ := number?_eq_some number
  cases rest' with
  | nil => cases read
  | cons subtype rest' =>
    obtain ⟨⟨chunk, rest''⟩, taken, held⟩ := Option.bind_eq_some_iff.mp read
    obtain ⟨rfl, rfl⟩ := splitAt?_eq_some taken
    dsimp only at held
    split at held
    · rename_i old
      obtain ⟨⟨inner, data⟩, again, held⟩ := Option.bind_eq_some_iff.mp held
      obtain ⟨same, eq⟩ := Option.ite_none_right_eq_some.mp held
      cases eq
      obtain ⟨rfl, -⟩ := number?_eq_some again
      obtain rfl : inner = data.length := same
      have whole : (littleEndian 4 data.length ++ data).length = data.length + 4 := by
        simp [Nat.add_comm]
      rw [whole] at small ⊢
      refine ⟨subtype, data, rfl, by simpa [Scalar.Fits, old] using small, ?_⟩
      simp [Scalar.payload, old]
    · rename_i new
      cases held
      refine ⟨subtype, chunk, rfl, by simpa [Scalar.Fits, new] using small, ?_⟩
      simp [Scalar.payload, new]

theorem regex?_eq_some {bytes rest : Bytes} {s : Scalar} (h : regex? bytes = some (s, rest)) :
    ∃ pattern options, s = .ordered pattern options ∧ 0 ∉ ofText pattern ∧ 0 ∉ ofText options ∧
      bytes = cstring pattern ++ cstring options ++ rest := by
  obtain ⟨⟨pattern, rest'⟩, first, h⟩ := Option.bind_eq_some_iff.mp h
  obtain ⟨⟨options, rest''⟩, second, h⟩ := Option.bind_eq_some_iff.mp h
  cases h
  obtain ⟨rfl, hpattern⟩ := cstring?_eq_some first
  obtain ⟨rfl, hoptions⟩ := cstring?_eq_some second
  exact ⟨pattern, options, rfl, hpattern, hoptions, (List.append_assoc ..).symm⟩

namespace Scalar

/-- The bytes that a scalar may stand in: those that are written for it and, for a pattern, those
with its options in any order. -/
inductive Stands : Scalar → Bytes → Prop
  | written {s : Scalar} (regular : s.IsRegular) (fits : s.Fits) : Stands s s.payload
  | regex {pattern options : String} (hpattern : 0 ∉ ofText pattern) (hoptions : 0 ∉ ofText options) :
    Stands (.ordered pattern options) (cstring pattern ++ cstring options)

theorem pairwise_sortedOptions (options : String) :
    (sortedOptions options).toList.Pairwise fun a b => decide (a ≤ b) = true := by
  rw [sortedOptions, String.toList_ofList]
  refine List.pairwise_mergeSort (fun a b c => ?_) (fun a b => ?_) _
  · simpa using fun h h' => Char.le_trans h h'
  · simpa using Char.le_total a b

/-- Options are sorted to those of them that are in order. -/
theorem sortedOptions_eq {options ordered : String}
    (same : ordered.toList.Perm options.toList)
    (inOrder : ordered.toList.Pairwise fun a b => decide (a ≤ b) = true) :
    sortedOptions options = ordered := by
  have sorted := pairwise_sortedOptions options
  rw [sortedOptions, String.toList_ofList] at sorted
  have reordered := (List.mergeSort_perm options.toList fun a b => decide (a ≤ b)).trans same.symm
  have eq := reordered.eq_of_pairwise (fun a b _ _ h h' => ?_) sorted inOrder
  · rw [sortedOptions, eq, String.ofList_toList]
  · exact Char.le_antisymm (of_decide_eq_true h) (of_decide_eq_true h')

theorem sortedOptions_sortedOptions (options : String) :
    sortedOptions (sortedOptions options) = sortedOptions options :=
  sortedOptions_eq (.refl _) (pairwise_sortedOptions options)

/-- Options in order take as many bytes as they did. -/
theorem length_sortedOptions (options : String) :
    (ofText (sortedOptions options)).length = (ofText options).length := by
  have reordered : (options.toList.mergeSort (· ≤ ·)).Perm options.toList := List.mergeSort_perm ..
  rw [sortedOptions, ofText_ofList]
  conv_rhs => rw [← String.ofList_toList (s := options), ofText_ofList]
  exact (reordered.flatMap_right _).length_eq

theorem zero_notMem_sortedOptions {options : String} (h : 0 ∉ ofText options) :
    0 ∉ ofText (sortedOptions options) := by
  rw [← String.ofList_toList (s := options), ofText_ofList] at h
  rw [sortedOptions, ofText_ofList]
  simpa using h

variable {tag : UInt8} {bytes part rest : Bytes} {s : Scalar}

theorem Stands.regular (h : s.Stands part) : s.IsRegular := by
  cases h with
  | written regular => exact regular
  | regex hpattern hoptions =>
    exact ⟨hpattern, zero_notMem_sortedOptions hoptions, sortedOptions_sortedOptions _⟩

theorem Stands.fits (h : s.Stands part) : s.Fits := by
  cases h with
  | written _ fits => exact fits
  | regex => trivial

theorem Stands.take? (h : s.Stands part) (rest : Bytes) :
    Scalar.take? s.tag (part ++ rest) = some (s, rest) := by
  cases h with
  | written regular fits => exact take?_payload regular fits rest
  | regex hpattern hoptions =>
    simp [Scalar.take?, tag, ordered, regex?, cstring?_cstring, hpattern, hoptions]

theorem exists_stands (h : Scalar.take? tag bytes = some (s, rest)) :
    s.tag = tag ∧ ∃ part, s.Stands part ∧ bytes = part ++ rest := by
  unfold take? at h
  split at h <;> rename_i type
  case h_3 =>
    obtain ⟨subtype, data, rfl, fits, rfl⟩ := binary?_eq_some h
    exact ⟨UInt8.toNat_inj.mp type.symm, _, .written trivial fits, rfl⟩
  case h_9 =>
    obtain ⟨pattern, options, rfl, hpattern, hoptions, rfl⟩ := regex?_eq_some h
    exact ⟨UInt8.toNat_inj.mp type.symm, _, .regex hpattern hoptions, rfl⟩
  case h_10 =>
    obtain ⟨⟨collection, rest'⟩, first, h⟩ := Option.bind_eq_some_iff.mp h
    obtain ⟨⟨id, rest''⟩, second, h⟩ := Option.bind_eq_some_iff.mp h
    cases h
    obtain ⟨rfl, fits⟩ := sizedText?_eq_some first
    obtain rfl := ObjectId.take?_eq_some second
    exact ⟨UInt8.toNat_inj.mp type.symm, _, .written trivial fits, by simp [payload]⟩
  case h_14 =>
    obtain ⟨⟨increment, rest'⟩, first, h⟩ := Option.bind_eq_some_iff.mp h
    obtain ⟨⟨time, rest''⟩, second, h⟩ := Option.bind_eq_some_iff.mp h
    cases h
    obtain rfl := number?_uint32_eq_some first
    obtain rfl := number?_uint32_eq_some second
    exact ⟨UInt8.toNat_inj.mp type.symm, _, .written trivial trivial, by simp [payload]⟩
  case h_4 | h_8 | h_17 | h_18 =>
    cases h
    exact ⟨UInt8.toNat_inj.mp type.symm, _, .written trivial trivial, rfl⟩
  case h_19 => cases h
  all_goals
    obtain ⟨⟨a, rest'⟩, read, eq⟩ := Option.map_eq_some_iff.mp h
    cases eq
  case h_1 =>
    obtain rfl := number?_uint64_eq_some read
    exact ⟨UInt8.toNat_inj.mp type.symm, _, .written trivial trivial, rfl⟩
  case h_7 | h_15 =>
    obtain rfl := number?_uint64_eq_some read
    exact ⟨UInt8.toNat_inj.mp type.symm, _, .written trivial trivial, by simp [payload]⟩
  case h_13 =>
    obtain rfl := number?_uint32_eq_some read
    exact ⟨UInt8.toNat_inj.mp type.symm, _, .written trivial trivial, by simp [payload]⟩
  case h_2 | h_11 | h_12 =>
    obtain ⟨rfl, fits⟩ := sizedText?_eq_some read
    exact ⟨UInt8.toNat_inj.mp type.symm, _, .written trivial fits, rfl⟩
  case h_5 =>
    obtain rfl := ObjectId.take?_eq_some read
    exact ⟨UInt8.toNat_inj.mp type.symm, _, .written trivial trivial, rfl⟩
  case h_6 =>
    obtain rfl := takeBoolean?_eq_some read
    exact ⟨UInt8.toNat_inj.mp type.symm, _, .written trivial trivial, rfl⟩
  case h_16 =>
    obtain ⟨rfl, length⟩ := splitAt?_eq_some read
    exact ⟨UInt8.toNat_inj.mp type.symm, _, .written length trivial, rfl⟩

end Scalar

/-! ## Values -/

/-- The same for a framed value, whose frame is right by construction. -/
def RawValue.IsRegular : RawValue → Prop
  | .scalar s => s.IsRegular
  | _ => True

/-- Whether the sizes that a value states fit their four bytes. -/
def RawValue.Fits : RawValue → Prop
  | .scalar s => s.Fits
  | .document d | .array d => d.size < 256 ^ 4
  | .scopedCode source scope => (Value.scopedPayload source scope).length < 256 ^ 4

theorem RawValue.fits_of_length {v : RawValue} (h : v.payload.length < 256 ^ 4) : v.Fits := by
  cases v with
  | scalar s => exact Scalar.fits_of_length h
  | document d | array d => simpa [payload, Fits] using h
  | scopedCode source scope => exact h

theorem RawValue.scopedCode?_payload {source : String} {scope : RawDocument}
    (h : (Value.scopedPayload source scope).length < 256 ^ 4) (rest : Bytes) :
    scopedCode? (Value.scopedPayload source scope ++ rest) =
      some (.scopedCode source scope, rest) := by
  have length : (Value.scopedPayload source scope).length =
      4 + (sizedText source).length + scope.size := by
    simp [Value.scopedPayload, Nat.add_assoc]
  have number := Bytes.number?_littleEndian_of_lt (length ▸ h)
    (sizedText source ++ (scope.bytes ++ rest))
  have front : Value.scopedPayload source scope ++ rest =
      Bytes.littleEndian 4 (4 + (sizedText source).length + scope.size) ++
        (sizedText source ++ (scope.bytes ++ rest)) := by
    simp [Value.scopedPayload]
  have split := Bytes.splitAt?_append_of_length length rest
  have inner : (Value.scopedPayload source scope).drop 4 = sizedText source ++ scope.bytes := by
    rw [Value.scopedPayload, List.append_assoc]
    exact List.drop_left' (Bytes.length_littleEndian ..)
  have short : source.utf8ByteSize + 1 < 256 ^ 4 := by
    rw [length, length_sizedText] at h
    omega
  rw [← front] at number
  simp [scopedCode?, number, split, inner, sizedText?_sizedText short]

theorem RawValue.take?_scalar (s : Scalar) (bytes : Bytes) :
    RawValue.take? s.tag bytes = (Scalar.take? s.tag bytes).map fun p => (.scalar p.1, p.2) := by
  cases s <;> rfl

theorem RawValue.take?_payload {v : RawValue} (regular : v.IsRegular) (fits : v.Fits)
    (rest : Bytes) : RawValue.take? v.tag (v.payload ++ rest) = some (v, rest) := by
  cases v with
  | document d | array d => simp [take?, tag, payload, RawDocument.take?_bytes fits]
  | scopedCode source scope => exact scopedCode?_payload fits rest
  | scalar s =>
    rw [tag, payload, take?_scalar, Scalar.take?_payload regular fits]
    rfl

theorem RawValue.scopedCode?_eq_some {bytes rest : Bytes} {v : RawValue}
    (h : scopedCode? bytes = some (v, rest)) :
    ∃ source scope, v = .scopedCode source scope ∧ v.Fits ∧ bytes = v.payload ++ rest := by
  obtain ⟨⟨size, behind⟩, number, h⟩ := Option.bind_eq_some_iff.mp h
  obtain ⟨⟨chunk, rest'⟩, taken, h⟩ := Option.bind_eq_some_iff.mp h
  obtain ⟨⟨source, back⟩, text, h⟩ := Option.bind_eq_some_iff.mp h
  obtain ⟨scope, framed, eq⟩ := Option.bind_eq_some_iff.mp h
  cases eq
  obtain ⟨whole, length⟩ := splitAt?_eq_some taken
  obtain ⟨front, small⟩ := number?_eq_some number
  obtain rfl := RawDocument.ofBytes?_eq_some framed
  have inner := (sizedText?_eq_some text).1
  -- The size is read twice: off the front of the bytes, and with the chunk that it measures.
  have long : 4 ≤ chunk.length := by
    have := congrArg List.length inner
    rw [List.length_drop, List.length_append, length_sizedText] at this
    omega
  have four : (littleEndian 4 size).length = 4 := length_littleEndian ..
  have start : chunk.take 4 = littleEndian 4 size := by
    have same := congrArg (List.take 4) (whole.symm.trans front)
    rwa [List.take_append_of_le_length long, List.take_left' four] at same
  have split : chunk = littleEndian 4 size ++ (sizedText source ++ scope.bytes) := by
    rw [← start, ← inner, List.take_append_drop]
  have total : size = 4 + (sizedText source).length + scope.size := by
    rw [← length, split]
    simp [Nat.add_assoc]
  have payload : chunk = Value.scopedPayload source scope := by
    rw [split, Value.scopedPayload, ← total, List.append_assoc]
  refine ⟨source, scope, rfl, ?_, by rw [RawValue.payload, ← payload]; exact whole⟩
  rw [RawValue.Fits, ← payload, length]
  exact small

namespace RawValue

/-- The bytes that a value may stand in. -/
inductive Stands : RawValue → Bytes → Prop
  | scalar {s : Scalar} {part : Bytes} (h : s.Stands part) : Stands (.scalar s) part
  | framed {v : RawValue} (scalar : ∀ s, v ≠ .scalar s) (fits : v.Fits) : Stands v v.payload

variable {tag : UInt8} {bytes part rest : Bytes} {v : RawValue}

theorem Stands.take? (h : v.Stands part) (rest : Bytes) :
    RawValue.take? v.tag (part ++ rest) = some (v, rest) := by
  cases h with
  | @scalar s part h =>
    rw [RawValue.tag, take?_scalar, h.take?]
    rfl
  | framed scalar fits =>
    refine take?_payload ?_ fits rest
    cases v with
    | scalar s => exact absurd rfl (scalar s)
    | document | array | scopedCode => trivial

theorem Stands.written (h : v.Stands part) : v.Stands v.payload := by
  cases h with
  | scalar h => exact .scalar (.written h.regular h.fits)
  | framed scalar fits => exact .framed scalar fits

theorem exists_stands (h : RawValue.take? tag bytes = some (v, rest)) :
    v.tag = tag ∧ ∃ part, v.Stands part ∧ bytes = part ++ rest := by
  unfold take? at h
  split at h <;> rename_i type
  case h_3 =>
    obtain ⟨source, scope, rfl, fits, rfl⟩ := scopedCode?_eq_some h
    exact ⟨UInt8.toNat_inj.mp type.symm, _, .framed nofun fits, rfl⟩
  all_goals
    obtain ⟨⟨a, rest'⟩, taken, eq⟩ := Option.map_eq_some_iff.mp h
    cases eq
  case h_1 | h_2 =>
    obtain ⟨rfl, fits⟩ := RawDocument.take?_eq_some taken
    exact ⟨UInt8.toNat_inj.mp type.symm, _, .framed nofun fits, rfl⟩
  case h_4 =>
    obtain ⟨tag, part, stands, rfl⟩ := Scalar.exists_stands taken
    exact ⟨tag, part, .scalar stands, rfl⟩

end RawValue

/-! ## Elements -/

namespace Element

/-- The bytes that an element may stand in. -/
inductive Stands : Element → Bytes → Prop
  | keyed {key : String} {value : RawValue} {part : Bytes} (hkey : 0 ∉ ofText key)
    (hvalue : value.Stands part) : Stands ⟨key, value⟩ (value.tag :: cstring key ++ part)

variable {e : Element} {bytes part rest : Bytes}

theorem Stands.take? (h : e.Stands part) (rest : Bytes) :
    Element.take? (part ++ rest) = some (e, rest) := by
  cases h with
  | keyed hkey hvalue =>
    simp [Element.take?, cstring?_cstring _ _ hkey, hvalue.take?]

/-- An element that was read is read again once it is written. -/
theorem Stands.written (h : e.Stands part) : e.Stands e.bytes := by
  cases h with
  | keyed hkey hvalue => exact .keyed hkey hvalue.written

/-- An element takes its type and the end of its key at least. -/
theorem Stands.two_le_length (h : e.Stands part) : 2 ≤ part.length := by
  cases h with
  | keyed =>
    simp [cstring]
    omega

theorem take?_eq_some_iff :
    Element.take? bytes = some (e, rest) ↔ ∃ part, e.Stands part ∧ bytes = part ++ rest := by
  constructor
  · intro h
    cases bytes with
    | nil => cases h
    | cons tag bytes =>
      obtain ⟨⟨key, rest'⟩, text, h⟩ := Option.bind_eq_some_iff.mp h
      obtain ⟨⟨value, rest''⟩, taken, h⟩ := Option.bind_eq_some_iff.mp h
      cases h
      obtain ⟨rfl, hkey⟩ := cstring?_eq_some text
      obtain ⟨rfl, part, stands, rfl⟩ := RawValue.exists_stands taken
      exact ⟨_, .keyed hkey stands, by simp⟩
  · rintro ⟨part, stands, rfl⟩
    exact stands.take? rest

end Element

end UserProvision
