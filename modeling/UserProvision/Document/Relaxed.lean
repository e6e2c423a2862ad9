import UserProvision.Document.Value
import UserProvision.Number.Notation
import UserProvision.Text.Base64
import UserProvision.Text.Json
import UserProvision.Time.Stamp

/-!
# Documents as relaxed extended JSON

The text of a document in logs. Numbers, texts, booleans and null are those of JSON; any other value
is an object with a key that tells its type. The scope of code is written in a form of its own,
which does without such objects for plain binary data and for doubles that are not finite.
-/

namespace UserProvision

/-- A text under a key that tells its type. -/
def Json.marked (mark value : String) : String := Json.object [(mark, value)]

namespace Double

/-- The text of a double: a number if it is finite. -/
def relaxed (x : Double) : String :=
  if x.isFinite then DoubleStyle.json.text x
  else
    let word := if x.isNaN then "NaN" else "Infinity"
    Json.marked "$numberDouble" (Json.string ((if x.isNegative then "-" else "") ++ word))

end Double

namespace ObjectId

def hex (id : ObjectId) : String := Hex.encode id.bytes

end ObjectId

namespace Scalar

/-- A date as a number of milliseconds. -/
def markedMillis (millis : Int) : String :=
  Json.marked "$date" (Json.marked "$numberLong" (Json.string (toString millis)))

/-- A date as a stamp if it lies between 1970 and 9999, else as a number of milliseconds. -/
def relaxedDate (millis : Int) : String :=
  if 0 ≤ millis ∧ millis < Stamp.end9999 then Json.marked "$date" (Json.string (Stamp.text millis))
  else markedMillis millis

def relaxed : Scalar → String
  | .double x => x.relaxed
  | .string text => Json.string text
  | .binary subtype bytes => Json.marked "$binary" <| Json.object
      [("base64", Json.string (Base64.encode bytes)),
        ("subType", Json.string (Hex.encode [subtype]))]
  | .undefined => Json.marked "$undefined" "true"
  | .objectId id => Json.marked "$oid" (Json.string id.hex)
  | .boolean b => toString b
  | .date millis => relaxedDate millis.toInt
  | .null => "null"
  | .regex pattern options => Json.marked "$regularExpression" <| Json.object
      [("pattern", Json.string pattern), ("options", Json.string (sortedOptions options))]
  | .pointer collection id => Json.marked "$dbPointer" <| Json.object
      [("$ref", Json.string collection), ("$id", Json.marked "$oid" (Json.string id.hex))]
  | .code source => Json.marked "$code" (Json.string source)
  | .symbol text => Json.marked "$symbol" (Json.string text)
  | .int32 n => toString n.toInt
  | .timestamp time increment => Json.marked "$timestamp" <| Json.object
      [("t", toString time.toNat), ("i", toString increment.toNat)]
  | .int64 n => toString n.toInt
  | .decimal d => Json.marked "$numberDecimal" (Json.string d.text)
  | .minKey => Json.marked "$minKey" "1"
  | .maxKey => Json.marked "$maxKey" "1"

/-- The text of a scalar in the scope of code: a date is a number of milliseconds, plain binary data
a list of numbers, and a double that is not finite is null. -/
def inScope : Scalar → String
  | .double x => if x.isFinite then x.relaxed else "null"
  | .binary 0 bytes => Json.array (bytes.map fun b => toString b.toNat)
  | .date millis => markedMillis millis.toInt
  | s => s.relaxed

end Scalar

mutual

/-- The text of a value whose scalars are written by `scalar`, those of a scope by
`Scalar.inScope`. -/
def Value.textBy (scalar : Scalar → String) : Value → String
  | .scalar s => scalar s
  | .document fields => Json.object (Document.membersBy scalar fields)
  | .array items => Json.array (Value.textsBy scalar items)
  | .scopedCode source scope => Json.object
      [("$code", Json.string source),
        ("$scope", Json.object (Document.membersBy Scalar.inScope scope))]

def Value.textsBy (scalar : Scalar → String) : List Value → List String
  | [] => []
  | v :: rest => v.textBy scalar :: Value.textsBy scalar rest

def Document.membersBy (scalar : Scalar → String) : Document → List (String × String)
  | [] => []
  | (k, v) :: rest => (k, v.textBy scalar) :: Document.membersBy scalar rest

end

/-- The text of a document in logs. -/
def Document.relaxed (d : Document) : String := (Value.document d).textBy Scalar.relaxed

end UserProvision
