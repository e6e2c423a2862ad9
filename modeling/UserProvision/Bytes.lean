/-!
# Bytes

Little-endian numbers, zero-terminated texts and the UTF-8 reading of a byte list. Whatever is
written here reads back: `ofLittleEndian_littleEndian`, `text?_ofText` and `cstring?_cstring`.
-/

namespace UserProvision

-- `b ^ n` is the core library's power of a number, also where Mathlib's power in a monoid is known.
attribute [scoped instance (high), default_instance 20000] instPowNat

/-- A finite sequence of bytes. -/
abbrev Bytes := List UInt8

namespace Bytes

/-- The lowest `width` base-256 digits of a number, least significant first. -/
def littleEndian : (width : Nat) → (n : Nat) → Bytes
  | 0, _ => []
  | width + 1, n => UInt8.ofNat n :: littleEndian width (n / 256)

/-- The number whose base-256 digits, least significant first, are the given bytes. -/
def ofLittleEndian : Bytes → Nat
  | [] => 0
  | b :: rest => b.toNat + 256 * ofLittleEndian rest

@[simp] theorem length_littleEndian (width n : Nat) : (littleEndian width n).length = width := by
  induction width generalizing n with
  | zero => rfl
  | succ width ih => simp [littleEndian, ih]

theorem ofLittleEndian_littleEndian (width n : Nat) :
    ofLittleEndian (littleEndian width n) = n % 256 ^ width := by
  induction width generalizing n with
  | zero => simp [littleEndian, ofLittleEndian, Nat.mod_one]
  | succ width ih =>
    have low : (UInt8.ofNat n).toNat = n % 256 := UInt8.toNat_ofNat'
    rw [littleEndian, ofLittleEndian, ih, low, Nat.pow_succ', Nat.mod_mul]

/-- The UTF-8 encoding of a text. -/
def ofText (text : String) : Bytes := text.toByteArray.data.toList

/-- Reads bytes as UTF-8. -/
def text? (bytes : Bytes) : Option String := String.fromUTF8? ⟨bytes.toArray⟩

@[simp] theorem length_ofText (text : String) : (ofText text).length = text.utf8ByteSize := rfl

@[simp] theorem text?_ofText (text : String) : text? (ofText text) = some text := by
  simp [text?, ofText, String.fromUTF8?, String.fromUTF8, text.isValidUTF8]

/-- A text followed by a zero byte. -/
def cstring (text : String) : Bytes := ofText text ++ [0]

/-- Splits a zero-terminated text off the front. -/
def cstring? (bytes : Bytes) : Option (String × Bytes) :=
  match bytes.dropWhile (· != 0) with
  | [] => none
  | _ :: rest => (text? (bytes.takeWhile (· != 0))).map (·, rest)

theorem cstring?_cstring (text : String) (rest : Bytes) (h : 0 ∉ ofText text) :
    cstring? (cstring text ++ rest) = some (text, rest) := by
  have clean : ∀ b ∈ ofText text, (b != 0) = true := fun b hb =>
    bne_iff_ne.mpr (ne_of_mem_of_not_mem hb h)
  have dropped : (cstring text ++ rest).dropWhile (· != 0) = 0 :: rest := by
    rw [cstring, List.append_assoc, List.dropWhile_append_of_pos clean]
    simp
  have taken : (cstring text ++ rest).takeWhile (· != 0) = ofText text := by
    rw [cstring, List.append_assoc, List.takeWhile_append_of_pos clean]
    simp
  simp [cstring?, dropped, taken]

/-- Splits off exactly `count` bytes. -/
def splitAt? (count : Nat) (bytes : Bytes) : Option (Bytes × Bytes) :=
  let front := bytes.take count
  if front.length = count then some (front, bytes.drop count) else none

theorem splitAt?_append (front rest : Bytes) :
    splitAt? front.length (front ++ rest) = some (front, rest) := by
  simp [splitAt?]

/-- Splits an unsigned number of `width` bytes off the front. -/
def number? (width : Nat) (bytes : Bytes) : Option (Nat × Bytes) :=
  (splitAt? width bytes).map fun (digits, rest) => (ofLittleEndian digits, rest)

theorem number?_littleEndian (width n : Nat) (rest : Bytes) :
    number? width (littleEndian width n ++ rest) = some (n % 256 ^ width, rest) := by
  have h := splitAt?_append (littleEndian width n) rest
  rw [length_littleEndian] at h
  simp [number?, h, ofLittleEndian_littleEndian]

end Bytes

end UserProvision
