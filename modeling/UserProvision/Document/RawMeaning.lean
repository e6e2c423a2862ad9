import UserProvision.Document.Meaning
import UserProvision.Document.Reading

/-!
# What a value means as it is read

`RawValue.meaning?` reads a value element by element and stops as soon as a spelled value is
finished: what follows in the same document, be it readable or not, is never looked at. Everything
before has to be readable. So more has a meaning here than by `Value.meaning`, which knows a value
in full.
-/

namespace UserProvision

namespace RawDocument

/-- What elements mean after those already seen, given what nested values mean and whether the
elements are all there are. -/
def meaningOnto (nested : RawValue → Option Value) (complete : Bool) (seen : Document) :
    List Element → Option Value
  | [] => if complete then some (.document seen) else none
  | ⟨k, v⟩ :: rest =>
    if k = "$code" then
      match rest with
      | [] => if complete then (Field.text? v).map (.scalar <| .code ·) else none
      | ⟨k, scope⟩ :: _ => if k = "$scope" then Spelled.scopedCode? v (nested scope) else none
    else if k = "$scope" then
      match rest with
      | [] => none
      | ⟨k, source⟩ :: _ => if k = "$code" then Spelled.scopedCode? source (nested v) else none
    else match Spelled.reader? k with
      | some read => (read v).map .scalar
      | none => do
        let v ← nested v
        meaningOnto nested complete (seen.put k v) rest

end RawDocument

namespace RawValue

/-- What a value means that is nested at most `depth` deep. -/
def meaningWithin : (depth : Nat) → RawValue → Option Value
  | _, .scalar s => some (.scalar s)
  | 0, _ => none
  | depth + 1, .document d =>
    RawDocument.meaningOnto (meaningWithin depth) d.elements.complete [] d.elements.items
  | depth + 1, .array d =>
    if d.elements.complete then
      (d.elements.items.mapM fun e => meaningWithin depth e.value).map .array
    else none
  | depth + 1, .scopedCode source scope =>
    Spelled.scopedCode? (Value.string source) <|
      RawDocument.meaningOnto (meaningWithin depth) scope.elements.complete [] scope.elements.items

/-- What a value means. A nested value is shorter than the one around it, so the size bounds the
depth. -/
def meaning? (v : RawValue) : Option Value := meaningWithin (v.payload.length + 1) v

/-- What a value means, if that is a document. -/
def document? (v : RawValue) : Option Document :=
  match v.meaning? with
  | some (.document fields) => some fields
  | _ => none

end RawValue

end UserProvision
