import UserProvision.Document.Relaxed
import UserProvision.Text.Quoted

/-!
# Inspected values

The text of a value inside a message about it: the name of its type, its parts in parentheses, texts
quoted.
-/

namespace UserProvision

/-- A name with its parts in parentheses. -/
def Inspect.tuple (name : String) (parts : List String) : String :=
  name ++ "(" ++ String.intercalate ", " parts ++ ")"

/-- A name with its named parts in braces. -/
def Inspect.record (name : String) (parts : List (String × String)) : String :=
  name ++ " \x7b " ++ String.intercalate ", " (parts.map fun (label, text) => label ++ ": " ++ text)
    ++ " \x7d"

/-- A part that may be missing. -/
def Inspect.option {α : Type} (inspect : α → String) : Option α → String
  | none => "None"
  | some a => Inspect.tuple "Some" [inspect a]

/-- A list of texts in brackets. -/
def Inspect.list (items : List String) : String := "[" ++ String.intercalate ", " items ++ "]"

/-- The name of a kind of binary data. -/
def Inspect.subtype (n : UInt8) : String :=
  match n.toNat with
  | 0 => "Generic"
  | 1 => "Function"
  | 2 => "BinaryOld"
  | 3 => "UuidOld"
  | 4 => "Uuid"
  | 5 => "Md5"
  | 6 => "Encrypted"
  | 7 => "Column"
  | 8 => "Sensitive"
  | 9 => "Vector"
  | n => Inspect.tuple (if n < 0x80 then "Reserved" else "UserDefined") [toString n]

/-- A date as day, time of day and distance to UTC. A year of more than six digits is not written:
such a date stays a number of milliseconds. -/
def Inspect.date (millis : Int) : String :=
  let day := CivilDate.ofDays (millis.fdiv Stamp.dayLength)
  let rest := (millis.fmod Stamp.dayLength).toNat
  let (hour, minute, second) := Stamp.clock rest
  let fraction := if rest % 1000 = 0 then ".0" else Stamp.fraction rest
  let year := Digits.padded 4 day.year.natAbs
  if 999999 < day.year.natAbs then toString millis
  else
    (if day.year < 0 then "-" else if 9999 < day.year then "+" else "") ++ year ++ "-" ++
      Digits.padded 2 day.month ++ "-" ++ Digits.padded 2 day.day ++ " " ++ toString hour ++ ":" ++
      Digits.padded 2 minute ++ ":" ++ Digits.padded 2 second ++ fraction ++ " +00:00:00"

namespace ObjectId

def inspect (id : ObjectId) : String := Inspect.tuple "ObjectId" [Quoted.quote id.hex]

end ObjectId

namespace Scalar

def inspect : Scalar → String
  | .double x => Inspect.tuple "Double" [x.inspect]
  | .string text => Inspect.tuple "String" [Quoted.quote text]
  | .binary subtype bytes => Inspect.record "Binary"
      [("subtype", Inspect.subtype subtype),
        ("bytes", Inspect.list (bytes.map fun b => toString b.toNat))]
  | .undefined => "Undefined"
  | .objectId id => id.inspect
  | .boolean b => Inspect.tuple "Boolean" [toString b]
  | .date millis => Inspect.tuple "DateTime" [Inspect.date millis.toInt]
  | .null => "Null"
  | .regex pattern options => Inspect.record "Regex"
      [("pattern", Quoted.quote pattern), ("options", Quoted.quote options)]
  | .pointer collection id => Inspect.record "DbPointer"
      [("namespace", Quoted.quote collection), ("id", id.inspect)]
  | .code source => Inspect.tuple "JavaScriptCode" [Quoted.quote source]
  | .symbol text => Inspect.tuple "Symbol" [Quoted.quote text]
  | .int32 n => Inspect.tuple "Int32" [toString n.toInt]
  | .timestamp time increment => Inspect.record "Timestamp"
      [("time", toString time.toNat), ("increment", toString increment.toNat)]
  | .int64 n => Inspect.tuple "Int64" [toString n.toInt]
  | .decimal d => Inspect.tuple "Decimal128" [Hex.encode d.bytes]
  | .minKey => "MinKey"
  | .maxKey => "MaxKey"

end Scalar

/-- A document from the texts of its keys and values. -/
def Inspect.document (members : List String) : String :=
  Inspect.tuple "Document" ["\x7b" ++ String.intercalate ", " members ++ "\x7d"]

mutual

def Value.inspect : Value → String
  | .scalar s => s.inspect
  | .document fields => Inspect.document (Document.inspectMembers fields)
  | .array items => Inspect.tuple "Array" [Inspect.list (Value.inspectItems items)]
  | .scopedCode source scope => Inspect.record "JavaScriptCodeWithScope"
      [("code", Quoted.quote source), ("scope", Inspect.document (Document.inspectMembers scope))]

def Value.inspectItems : List Value → List String
  | [] => []
  | v :: rest => v.inspect :: Value.inspectItems rest

def Document.inspectMembers : Document → List String
  | [] => []
  | (k, v) :: rest => (Quoted.quote k ++ ": " ++ v.inspect) :: Document.inspectMembers rest

end

/-- The text of a document inside a message about it. -/
def Document.inspect (d : Document) : String := (Value.document d).inspect

end UserProvision
