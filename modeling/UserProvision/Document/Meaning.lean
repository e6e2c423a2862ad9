import UserProvision.Document.Readable
import UserProvision.Number.Notation
import UserProvision.Text.Base64
import UserProvision.Text.Hex
import UserProvision.Time.Stamp

/-!
# Documents that spell a value

A document whose key is one of the marks of extended JSON spells a value, for instance an integer
under `$numberLong`. `Value.meaning` replaces such documents, at any depth, by the values that they
spell. A document that begins to spell a value but does not finish has no meaning, and neither has
one that goes on after a mark.
-/

namespace UserProvision

namespace Spelled

open Readable

variable {α : Type} [Readable α]

/-- Reads an integer of a given range. -/
def integer? (low high : Int) (text : String) : Option Int :=
  (Digits.signed? text.toList).filter fun n => low ≤ n && n ≤ high

def int32? (v : α) : Option Scalar := do
  let n ← integer? (-2 ^ 31) (2 ^ 31 - 1) (← Field.text? v)
  return .int32 (Int32.ofInt n)

def int64? (v : α) : Option Scalar := do
  let n ← integer? (-2 ^ 63) (2 ^ 63 - 1) (← Field.text? v)
  return .int64 (Int64.ofInt n)

def double? (v : α) : Option Scalar := do
  let x ← Double.ofText? (← Field.text? v)
  return .double x

/-- An identifier as twelve bytes or as 24 hexadecimal digits. -/
def objectId? (v : α) : Option ObjectId :=
  match scalar? v with
  | some (.binary 0 bytes) => ObjectId.ofBytes? bytes
  | some (.string text) => Hex.decode? text >>= ObjectId.ofBytes?
  | _ => none

def binary? (v : α) : Option Scalar := do
  match ← group? ["base64", "subType"] v with
  | [data, subtype] =>
    let bytes ← Base64.decode? (← Field.text? data)
    match ← Hex.decode? (← Field.text? subtype) with
    | [n] => some (.binary n bytes)
    | _ => none
  | _ => none

/-- The sixteen bytes of an identifier written as 32 digits, either without hyphens or with hyphens
after the eighth, twelfth, sixteenth and twentieth. In the second form it may stand in braces or
after a fixed word in any case. -/
def uuidBytes? (text : String) : Option Bytes :=
  let chars := text.toList
  let inner? : Option (List Char) :=
    if (chars.take 9).map Char.toLower = "urn:uuid:".toList then some (chars.drop 9)
    else if chars.head? = some '\x7b' ∧ chars.getLast? = some '\x7d' then
      some (chars.drop 1).dropLast
    else none
  let groups := (String.ofList (inner?.getD chars)).splitOn "-"
  let lengths := groups.map String.length
  if lengths = [8, 4, 4, 4, 12] ∨ lengths = [32] ∧ inner? = none then
    Hex.decode? (String.join groups)
  else none

def uuid? (v : α) : Option Scalar := do
  let bytes ← uuidBytes? (← Field.text? v)
  return .binary 4 bytes

def unsigned32? (v : α) : Option UInt32 := do
  let n ← Field.storedInt? v
  if 0 ≤ n ∧ n < 2 ^ 32 then some (UInt32.ofNat n.toNat) else none

def timestamp? (v : α) : Option Scalar := do
  match ← group? ["t", "i"] v with
  | [time, increment] => return .timestamp (← unsigned32? time) (← unsigned32? increment)
  | _ => none

def regex? (v : α) : Option Scalar := do
  match ← group? ["pattern", "options"] v with
  | [pattern, options] => return .ordered (← Field.text? pattern) (← Field.text? options)
  | _ => none

/-- The identifier of a pointer: itself, or spelled. -/
def pointerId? (v : α) : Option ObjectId :=
  match scalar? v with
  | some (.objectId id) => some id
  | _ => do
    match ← group? ["$oid"] v with
    | [digits] => Hex.decode? (← Field.text? digits) >>= ObjectId.ofBytes?
    | _ => none

def pointer? (v : α) : Option Scalar := do
  match ← group? ["$ref", "$id"] v with
  | [collection, id] => return .pointer (← Field.text? collection) (← pointerId? id)
  | _ => none

/-- The milliseconds of a date: a stamp, an integer, or a spelled integer. -/
def millis? (v : Value) : Option Int :=
  match Field.text? v, Field.storedInt? v with
  | some text, _ => Stamp.ofText? text
  | none, some n => some n
  | none, none => do
    match ← group? ["$numberLong"] v with
    | [digits] => integer? (-2 ^ 63) (2 ^ 63 - 1) (← Field.text? digits)
    | _ => none

/-- A date. Its value is opened before its form is known. -/
def date? (v : α) : Option Scalar := do
  let millis ← millis? (← value? v)
  return .date (Int64.ofInt millis)

def decimal? (v : α) : Option Scalar := do
  let d ← Decimal128.ofText? (← Field.text? v)
  return .decimal d

/-- A byte that is stored as an integer. -/
def byte? (v : Value) : Option UInt8 := do
  let n ← Field.storedInt? v
  if 0 ≤ n ∧ n < 256 then some (UInt8.ofNat n.toNat) else none

/-- Bytes as plain binary data, as the bytes of a text, or as an array of their numbers. -/
def bytes? (v : Value) : Option Bytes :=
  match v with
  | .scalar (.binary 0 bytes) => some bytes
  | .scalar (.string text) => some (Bytes.ofText text)
  | .array items => items.mapM byte?
  | _ => none

def decimalBytes? (v : α) : Option Scalar := do
  let bytes ← bytes? (← value? v)
  if bytes.length = 16 then some (.decimal ⟨bytes⟩) else none

/-- What the value under a mark has to be for a mark that says everything by itself. -/
def constant? (s : Scalar) (v : α) : Option Scalar :=
  if Field.storedInt? v = some 1 then some s else none

/-- Reads the value under a mark as the scalar that it spells; `none` for a key that is no mark. -/
def reader? (key : String) : Option (α → Option Scalar) :=
  match key with
  | "$oid" => some fun v => (objectId? v).map .objectId
  | "$symbol" => some fun v => (Field.text? v).map .symbol
  | "$numberInt" => some int32?
  | "$numberLong" => some int64?
  | "$numberDouble" => some double?
  | "$binary" => some binary?
  | "$uuid" => some uuid?
  | "$timestamp" => some timestamp?
  | "$regularExpression" => some regex?
  | "$dbPointer" => some pointer?
  | "$date" => some date?
  | "$maxKey" => some (constant? .maxKey)
  | "$minKey" => some (constant? .minKey)
  | "$undefined" => some fun v => if Field.boolean? v = some true then some .undefined else none
  | "$numberDecimal" => some decimal?
  | "$numberDecimalBytes" => some decimalBytes?
  | _ => none

/-- Code with its scope, from the value of the one and the meaning of the other. The scope has to be
a document. -/
def scopedCode? (source : α) : Option Value → Option Value
  | some (.document scope) => (Field.text? source).map (Value.scopedCode · scope)
  | _ => none

end Spelled

mutual

/-- The value that a value means. -/
def Value.meaning : Value → Option Value
  | .scalar s => some (.scalar s)
  | .document fields => Document.meaningOnto [] fields
  | .array items => (Value.meanings items).map .array
  | .scopedCode source scope =>
    Spelled.scopedCode? (Value.string source) (Document.meaningOnto [] scope)

def Value.meanings : List Value → Option (List Value)
  | [] => some []
  | v :: rest => do
    let v ← v.meaning
    let others ← Value.meanings rest
    return v :: others

/-- What a sequence of keyed values means after those already seen. A mark that follows other keys
drops them, but nothing may follow a mark; only code and scope come in pairs. -/
def Document.meaningOnto (seen : Document) : Document → Option Value
  | [] => some (.document seen)
  | (k, v) :: rest =>
    if k = "$code" then
      match rest with
      | [] => (Field.text? v).map (.scalar <| .code ·)
      | [(k, scope)] => if k = "$scope" then Spelled.scopedCode? v scope.meaning else none
      | _ => none
    else if k = "$scope" then
      match rest with
      | [(k, source)] => if k = "$code" then Spelled.scopedCode? source v.meaning else none
      | _ => none
    else match Spelled.reader? k with
      | some read => if rest.isEmpty then (read v).map .scalar else none
      | none => do
        let v ← v.meaning
        Document.meaningOnto (seen.put k v) rest

end

/-- What a document means, if that is a document. -/
def Document.meaning (d : Document) : Option Document :=
  match Document.meaningOnto [] d with
  | some (.document fields) => some fields
  | _ => none

end UserProvision
