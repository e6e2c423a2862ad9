import UserProvision.Document.Value

/-!
# Documents as bytes

A document is framed: its size in four bytes, its elements, and a zero byte. `RawDocument` keeps
only what stands between, so that the frame is right by construction whatever is appended. A key or
a pattern that holds a zero character cannot be written; `Document.isWritable` rules that out.
-/

namespace UserProvision

/-- The bytes of a document between its frame. -/
structure RawDocument where
  body : Bytes
  deriving DecidableEq, Repr

namespace RawDocument

/-- The number of bytes of the whole document. -/
def size (d : RawDocument) : Nat := d.body.length + 5

/-- The whole document: size, body, zero byte. -/
def bytes (d : RawDocument) : Bytes := Bytes.littleEndian 4 d.size ++ d.body ++ [0]

/-- Takes the frame off bytes that are a document by their size and their last byte. -/
def ofBytes? (bytes : Bytes) : Option RawDocument :=
  if 5 ≤ bytes.length ∧ bytes.take 4 = Bytes.littleEndian 4 bytes.length ∧
      bytes.getLast? = some 0 then
    some ⟨(bytes.drop 4).dropLast⟩
  else none

@[simp] theorem length_bytes (d : RawDocument) : d.bytes.length = d.size := by
  simp [bytes, size]; omega

@[simp] theorem ofBytes?_bytes (d : RawDocument) : ofBytes? d.bytes = some d := by
  have whole : d.bytes = Bytes.littleEndian 4 d.size ++ (d.body ++ [0]) := List.append_assoc ..
  have front : d.bytes.take 4 = Bytes.littleEndian 4 d.size := by
    rw [whole]; exact List.take_left' (Bytes.length_littleEndian ..)
  have back : d.bytes.drop 4 = d.body ++ [0] := by
    rw [whole]; exact List.drop_left' (Bytes.length_littleEndian ..)
  have last : d.bytes.getLast? = some 0 := by simp [bytes]
  have long : 5 ≤ d.bytes.length := by simp [size]
  rw [ofBytes?, if_pos ⟨long, by rw [front, length_bytes], last⟩, back, List.dropLast_concat]

def empty : RawDocument := ⟨[]⟩

end RawDocument

/-- A text with its size in front and a zero byte behind it. -/
def sizedText (text : String) : Bytes :=
  Bytes.littleEndian 4 (text.utf8ByteSize + 1) ++ Bytes.cstring text

namespace Scalar

/-- The byte that tells the type of a value. -/
def tag : Scalar → UInt8
  | .double _ => 0x01
  | .string _ => 0x02
  | .binary _ _ => 0x05
  | .undefined => 0x06
  | .objectId _ => 0x07
  | .boolean _ => 0x08
  | .date _ => 0x09
  | .null => 0x0a
  | .regex _ _ => 0x0b
  | .pointer _ _ => 0x0c
  | .code _ => 0x0d
  | .symbol _ => 0x0e
  | .int32 _ => 0x10
  | .timestamp _ _ => 0x11
  | .int64 _ => 0x12
  | .decimal _ => 0x13
  | .minKey => 0xff
  | .maxKey => 0x7f

/-- The bytes of a value after its key. Binary data of subtype 2 repeats its size, and the options of
a pattern are put into order. -/
def payload : Scalar → Bytes
  | .double x => Bytes.littleEndian 8 x.bits.toNat
  | .string text | .code text | .symbol text => sizedText text
  | .binary subtype bytes =>
    if subtype = 2 then
      Bytes.littleEndian 4 (bytes.length + 4) ++ subtype ::
        Bytes.littleEndian 4 bytes.length ++ bytes
    else Bytes.littleEndian 4 bytes.length ++ subtype :: bytes
  | .objectId id => id.bytes
  | .boolean b => [if b then 1 else 0]
  | .date millis => Bytes.littleEndian 8 millis.toUInt64.toNat
  | .regex pattern options => Bytes.cstring pattern ++ Bytes.cstring (sortedOptions options)
  | .pointer collection id => sizedText collection ++ id.bytes
  | .int32 n => Bytes.littleEndian 4 n.toUInt32.toNat
  | .timestamp time increment =>
    Bytes.littleEndian 4 increment.toNat ++ Bytes.littleEndian 4 time.toNat
  | .int64 n => Bytes.littleEndian 8 n.toUInt64.toNat
  | .decimal d => d.bytes
  | .undefined | .null | .minKey | .maxKey => []

/-- Whether the zero-terminated texts of a value hold no zero character. -/
def isWritable : Scalar → Bool
  | .regex pattern options => !pattern.contains '\x00' && !options.contains '\x00'
  | _ => true

end Scalar

namespace Value

def tag : Value → UInt8
  | .scalar s => s.tag
  | .document _ => 0x03
  | .array _ => 0x04
  | .scopedCode _ _ => 0x0f

/-- Code with its scope: the size of all of it, the code, the scope. -/
def scopedPayload (source : String) (scope : RawDocument) : Bytes :=
  Bytes.littleEndian 4 (4 + (sizedText source).length + scope.size) ++ sizedText source ++
    scope.bytes

end Value

mutual

/-- The bytes of a value after its key. -/
def Value.payload : Value → Bytes
  | .scalar s => s.payload
  | .document fields => RawDocument.bytes ⟨Document.body fields⟩
  | .array items => RawDocument.bytes ⟨Value.itemsBody 0 items⟩
  | .scopedCode source scope => Value.scopedPayload source ⟨Document.body scope⟩

/-- The elements of a document: type, key and value of each. -/
def Document.body : Document → Bytes
  | [] => []
  | (k, v) :: rest => v.tag :: Bytes.cstring k ++ v.payload ++ Document.body rest

/-- The elements of an array, keyed by their places. -/
def Value.itemsBody (place : Nat) : List Value → Bytes
  | [] => []
  | v :: rest =>
    v.tag :: Bytes.cstring (toString place) ++ v.payload ++ Value.itemsBody (place + 1) rest

end

mutual

/-- Whether a value can be written. -/
def Value.isWritable : Value → Bool
  | .scalar s => s.isWritable
  | .document fields | .scopedCode _ fields => Document.isWritable fields
  | .array items => Value.areWritable items

/-- Whether no key holds a zero character and every value can be written. -/
def Document.isWritable : Document → Bool
  | [] => true
  | (k, v) :: rest => !k.contains '\x00' && v.isWritable && Document.isWritable rest

def Value.areWritable : List Value → Bool
  | [] => true
  | v :: rest => v.isWritable && Value.areWritable rest

end

namespace RawDocument

/-- The bytes of a document. -/
def ofDocument (d : Document) : RawDocument := ⟨Document.body d⟩

/-- The bytes of a document, if it can be written. -/
def ofDocument? (d : Document) : Option RawDocument :=
  if d.isWritable then some (ofDocument d) else none

end RawDocument

theorem Document.body_append (d e : Document) :
    Document.body (d ++ e) = Document.body d ++ Document.body e := by
  induction d with
  | nil => rfl
  | cons f rest ih => simp [Document.body, ih]

end UserProvision
