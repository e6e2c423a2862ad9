import UserProvision.Document.Encoding

/-!
# The elements of a document in bytes

`RawDocument.elements` splits a document into its elements up to the first one that cannot be read.
A nested document counts as read when its frame is right; what it holds is not looked at.
-/

namespace UserProvision

/-- A value as it stands in the bytes of a document: nested documents are framed, but not opened. -/
inductive RawValue where
  | scalar (s : Scalar)
  | document (d : RawDocument)
  | array (d : RawDocument)
  | scopedCode (source : String) (scope : RawDocument)
  deriving DecidableEq, Repr

/-- An element of a document. -/
structure Element where
  key : String
  value : RawValue
  deriving DecidableEq, Repr

/-- The elements of a document up to the first unreadable one, and whether there is none such. -/
structure Elements where
  items : List Element
  complete : Bool
  deriving DecidableEq, Repr

/-- Splits off a text with its size in front and a zero byte behind it. -/
def sizedText? (bytes : Bytes) : Option (String × Bytes) := do
  let (size, rest) ← Bytes.number? 4 bytes
  let (chunk, rest) ← Bytes.splitAt? size rest
  if chunk.getLast? = some 0 then (Bytes.text? chunk.dropLast).map (·, rest) else none

namespace ObjectId

def take? (bytes : Bytes) : Option (ObjectId × Bytes) := do
  let (chunk, rest) ← Bytes.splitAt? 12 bytes
  let id ← ofBytes? chunk
  return (id, rest)

end ObjectId

namespace RawDocument

/-- Splits off a framed document. -/
def take? (bytes : Bytes) : Option (RawDocument × Bytes) := do
  let (size, _) ← Bytes.number? 4 bytes
  let (chunk, rest) ← Bytes.splitAt? size bytes
  let d ← ofBytes? chunk
  return (d, rest)

end RawDocument

/-- Splits off a boolean; no byte but zero and one is one. -/
def takeBoolean? : Bytes → Option (Bool × Bytes)
  | 0 :: rest => some (false, rest)
  | 1 :: rest => some (true, rest)
  | _ => none

/-- Splits off binary data. Under subtype 2 the data repeat their size, which has to be right. -/
def binary? (bytes : Bytes) : Option (Scalar × Bytes) := do
  let (size, rest) ← Bytes.number? 4 bytes
  match rest with
  | [] => none
  | subtype :: rest =>
    let (chunk, rest) ← Bytes.splitAt? size rest
    if subtype = 2 then
      let (inner, data) ← Bytes.number? 4 chunk
      if inner = data.length then some (.binary subtype data, rest) else none
    else some (.binary subtype chunk, rest)

/-- Splits off a pattern and its options, which are put into order. -/
def regex? (bytes : Bytes) : Option (Scalar × Bytes) := do
  let (pattern, rest) ← Bytes.cstring? bytes
  let (options, rest) ← Bytes.cstring? rest
  return (.ordered pattern options, rest)

namespace Scalar

/-- Splits off a scalar of the type that a tag tells. -/
def take? (tag : UInt8) (bytes : Bytes) : Option (Scalar × Bytes) :=
  match tag.toNat with
  | 0x01 => (Bytes.number? 8 bytes).map fun (n, rest) => (.double ⟨UInt64.ofNat n⟩, rest)
  | 0x02 => (sizedText? bytes).map fun (text, rest) => (.string text, rest)
  | 0x05 => binary? bytes
  | 0x06 => some (.undefined, bytes)
  | 0x07 => (ObjectId.take? bytes).map fun (id, rest) => (.objectId id, rest)
  | 0x08 => (takeBoolean? bytes).map fun (b, rest) => (.boolean b, rest)
  | 0x09 => (Bytes.number? 8 bytes).map fun (n, rest) => (.date (UInt64.ofNat n).toInt64, rest)
  | 0x0a => some (.null, bytes)
  | 0x0b => regex? bytes
  | 0x0c => do
    let (collection, rest) ← sizedText? bytes
    let (id, rest) ← ObjectId.take? rest
    return (.pointer collection id, rest)
  | 0x0d => (sizedText? bytes).map fun (text, rest) => (.code text, rest)
  | 0x0e => (sizedText? bytes).map fun (text, rest) => (.symbol text, rest)
  | 0x10 => (Bytes.number? 4 bytes).map fun (n, rest) => (.int32 (UInt32.ofNat n).toInt32, rest)
  | 0x11 => do
    let (increment, rest) ← Bytes.number? 4 bytes
    let (time, rest) ← Bytes.number? 4 rest
    return (.timestamp (UInt32.ofNat time) (UInt32.ofNat increment), rest)
  | 0x12 => (Bytes.number? 8 bytes).map fun (n, rest) => (.int64 (UInt64.ofNat n).toInt64, rest)
  | 0x13 => (Bytes.splitAt? 16 bytes).map fun (chunk, rest) => (.decimal ⟨chunk⟩, rest)
  | 0xff => some (.minKey, bytes)
  | 0x7f => some (.maxKey, bytes)
  | _ => none

end Scalar

namespace RawValue

/-- Splits off code with its scope, which together fill the size in front of them. -/
def scopedCode? (bytes : Bytes) : Option (RawValue × Bytes) := do
  let (size, _) ← Bytes.number? 4 bytes
  let (chunk, rest) ← Bytes.splitAt? size bytes
  let (source, scope) ← sizedText? (chunk.drop 4)
  let scope ← RawDocument.ofBytes? scope
  return (.scopedCode source scope, rest)

/-- Splits off a value of the type that a tag tells. -/
def take? (tag : UInt8) (bytes : Bytes) : Option (RawValue × Bytes) :=
  match tag.toNat with
  | 0x03 => (RawDocument.take? bytes).map fun (d, rest) => (.document d, rest)
  | 0x04 => (RawDocument.take? bytes).map fun (d, rest) => (.array d, rest)
  | 0x0f => scopedCode? bytes
  | _ => (Scalar.take? tag bytes).map fun (s, rest) => (.scalar s, rest)

def tag : RawValue → UInt8
  | .scalar s => s.tag
  | .document _ => 0x03
  | .array _ => 0x04
  | .scopedCode _ _ => 0x0f

/-- The bytes of a value after its key. -/
def payload : RawValue → Bytes
  | .scalar s => s.payload
  | .document d | .array d => d.bytes
  | .scopedCode source scope => Value.scopedPayload source scope

end RawValue

namespace Element

/-- Splits off an element: type, key, value. -/
def take? : Bytes → Option (Element × Bytes)
  | [] => none
  | tag :: rest => do
    let (key, rest) ← Bytes.cstring? rest
    let (value, rest) ← RawValue.take? tag rest
    return (⟨key, value⟩, rest)

def bytes (e : Element) : Bytes := e.value.tag :: Bytes.cstring e.key ++ e.value.payload

end Element

namespace Elements

/-- Splits elements off until only the last byte of the document is left. Every element takes at
least one byte, so as many rounds as there are bytes are enough. -/
def scan : (rounds : Nat) → Bytes → Elements
  | _, [_] => ⟨[], true⟩
  | 0, _ => ⟨[], false⟩
  | rounds + 1, bytes =>
    match Element.take? bytes with
    | none => ⟨[], false⟩
    | some (e, rest) =>
      let others := scan rounds rest
      ⟨e :: others.items, others.complete⟩

end Elements

namespace RawDocument

/-- The elements of a document. The byte that ends the document is part of what is split, since an
element may run into it. -/
def elements (d : RawDocument) : Elements := Elements.scan d.body.length (d.body ++ [0])

/-- Adds an element at the end. -/
def appendElement (d : RawDocument) (e : Element) : RawDocument := ⟨d.body ++ e.bytes⟩

end RawDocument

end UserProvision
