import UserProvision.Bytes
import UserProvision.Number.Double
import UserProvision.Number.Decimal128

/-!
# Values and documents

A document is a sequence of keyed values. `Scalar` holds the values that contain no others; a
`Value` is a scalar, a nested document, an array, or code together with the document it runs in. As
read from bytes a sequence may repeat a key; `Document.settled` keeps each key once, at its first
place and with its last value.
-/

namespace UserProvision

/-- A document identifier of twelve bytes. -/
structure ObjectId where
  bytes : Bytes
  length_bytes : bytes.length = 12
  deriving DecidableEq, Repr

namespace ObjectId

def ofBytes? (bytes : Bytes) : Option ObjectId :=
  if h : bytes.length = 12 then some ⟨bytes, h⟩ else none

def zero : ObjectId := ⟨List.replicate 12 0, rfl⟩

end ObjectId

/-- A value that contains no other value. -/
inductive Scalar where
  | double (x : Double)
  | string (text : String)
  | binary (subtype : UInt8) (bytes : Bytes)
  | undefined
  | objectId (id : ObjectId)
  | boolean (b : Bool)
  | date (millis : Int64)
  | null
  | regex (pattern options : String)
  | pointer (collection : String) (id : ObjectId)
  | code (source : String)
  | symbol (text : String)
  | int32 (n : Int32)
  | timestamp (time increment : UInt32)
  | int64 (n : Int64)
  | decimal (d : Decimal128)
  | minKey
  | maxKey
  deriving DecidableEq, Repr

namespace Scalar

/-- The options of a pattern in increasing order. -/
def sortedOptions (options : String) : String := String.ofList (options.toList.mergeSort (· ≤ ·))

/-- A pattern with its options in increasing order. -/
def ordered (pattern options : String) : Scalar := .regex pattern (sortedOptions options)

/-- The text that a scalar holds: a string, or plain binary data in UTF-8. -/
def text? : Scalar → Option String
  | .string text => some text
  | .binary 0 bytes => Bytes.text? bytes
  | _ => none

/-- The integer that a scalar holds, if it is stored as one. -/
def storedInt? : Scalar → Option Int
  | .int32 n => some n.toInt
  | .int64 n => some n.toInt
  | _ => none

/-- The boolean that a scalar holds. -/
def boolean? : Scalar → Option Bool
  | .boolean b => some b
  | _ => none

end Scalar

/-- A value of a document. -/
inductive Value where
  | scalar (s : Scalar)
  | document (fields : List (String × Value))
  | array (items : List Value)
  | scopedCode (source : String) (scope : List (String × Value))
  deriving Repr

/-- Keyed values in order. -/
abbrev Document := List (String × Value)

namespace Value

@[match_pattern] abbrev double (x : Double) : Value := .scalar (.double x)
@[match_pattern] abbrev string (text : String) : Value := .scalar (.string text)
@[match_pattern] abbrev boolean (b : Bool) : Value := .scalar (.boolean b)
@[match_pattern] abbrev null : Value := .scalar .null
@[match_pattern] abbrev int32 (n : Int32) : Value := .scalar (.int32 n)
@[match_pattern] abbrev int64 (n : Int64) : Value := .scalar (.int64 n)
@[match_pattern] abbrev objectId (id : ObjectId) : Value := .scalar (.objectId id)

/-- Whether an integer fits 32 signed bits. -/
def fitsInt32 (n : Int) : Bool := -2 ^ 31 ≤ n && n < 2 ^ 31

/-- An integer in the smaller of the two forms that holds it. -/
def ofInt (n : Int) : Value :=
  if fitsInt32 n then int32 (Int32.ofInt n) else int64 (Int64.ofInt n)

/-- The integer that a number stands for; any other value stands for none. -/
def integer? : Value → Option Int
  | .scalar (.int32 n) => some n.toInt
  | .scalar (.int64 n) => some n.toInt
  | .scalar (.double x) => x.integer?
  | _ => none

end Value

namespace Document

def keys (d : Document) : List String := d.map (·.1)

/-- The value under the first occurrence of a key. -/
def get? (d : Document) (key : String) : Option Value := (d.find? (·.1 == key)).map (·.2)

/-- Replaces the value of a key where it stands, or adds the key at the end. -/
def put (d : Document) (key : String) (value : Value) : Document :=
  match d with
  | [] => [(key, value)]
  | (k, v) :: rest => if k = key then (k, value) :: rest else (k, v) :: put rest key value

end Document

mutual

/-- Keeps each key once, also in nested documents. -/
def Value.settled : Value → Value
  | .scalar s => .scalar s
  | .document fields => .document (Document.settledOnto [] fields)
  | .array items => .array (Value.settledItems items)
  | .scopedCode source scope => .scopedCode source (Document.settledOnto [] scope)

def Value.settledItems : List Value → List Value
  | [] => []
  | v :: rest => v.settled :: Value.settledItems rest

/-- Puts the values of a sequence one after the other into a document. -/
def Document.settledOnto (seen : Document) : Document → Document
  | [] => seen
  | (k, v) :: rest => Document.settledOnto (seen.put k v.settled) rest

end

/-- Keeps each key once: at its first place, with its last value. -/
def Document.settled (d : Document) : Document := Document.settledOnto [] d

end UserProvision
