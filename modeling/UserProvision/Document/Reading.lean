import UserProvision.Document.Element
import UserProvision.Document.Readable

/-!
# Reading a document from bytes

`RawDocument.read?` opens a document with all that is nested in it. A single unreadable element, at
any depth, makes the whole document unreadable. Repeated keys stay; `RawDocument.shown?` settles
them. `RawDocument.readExcept?` leaves the values of one key as they stand in the bytes.
-/

namespace UserProvision

namespace RawDocument

/-- Opens a document that is nested at most `depth` deep. -/
def open? : (depth : Nat) → RawDocument → Option Document
  | 0, _ => none
  | depth + 1, d =>
    let nested : RawValue → Option Value
      | .scalar s => some (.scalar s)
      | .document d => (open? depth d).map .document
      | .array d => (open? depth d).map fun fields => .array (fields.map (·.2))
      | .scopedCode source scope => (open? depth scope).map (.scopedCode source)
    if d.elements.complete then
      d.elements.items.mapM fun e => (nested e.value).map (e.key, ·)
    else none

/-- All the keyed values of a document, in order. A nested document is shorter than the one around
it, so the size bounds the depth. -/
def read? (d : RawDocument) : Option Document := open? (d.body.length + 1) d

/-- A document with each key once. -/
def shown? (d : RawDocument) : Option Document := d.read?.map Document.settled

end RawDocument

namespace RawValue

/-- A value with all that is nested in it. -/
def read? : RawValue → Option Value
  | .scalar s => some (.scalar s)
  | .document d => d.read?.map .document
  | .array d => d.read?.map fun fields => .array (fields.map (·.2))
  | .scopedCode source scope => scope.read?.map (.scopedCode source)

/-- An array that stands in the bytes may have further items after a group, whatever they are. -/
instance : Readable RawValue where
  scalar?
    | .scalar s => some s
    | _ => none
  group? keys
    | .document d =>
      if d.elements.complete ∧ d.elements.items.length = keys.length then
        keys.mapM fun key => (d.elements.items.find? (·.key == key)).map (·.value)
      else none
    | .array d =>
      if keys.length ≤ d.elements.items.length then
        some ((d.elements.items.take keys.length).map (·.value))
      else none
    | _ => none
  value? := read?

end RawValue

namespace RawDocument

/-- The fields of a document. The values under `key` come first and are not opened; of the other
fields every one has to be readable. -/
def readExcept? (d : RawDocument) (key : String) : Option (List RawValue × Document) :=
  if d.elements.complete then
    let (own, others) := d.elements.items.partition (·.key == key)
    (others.mapM fun (e : Element) => e.value.read?.map (e.key, ·)).map (own.map (·.value), ·)
  else none

end RawDocument

end UserProvision
