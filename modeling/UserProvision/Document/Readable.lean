import UserProvision.Document.Value

/-!
# What can be read as a field

Fields are read from opened values and from values as they stand in the bytes. `Readable` is what a
reader needs of either; the readers of this module ask for a scalar of some type.
-/

namespace UserProvision

/-- A value that a field can be read from. -/
class Readable (α : Type) where
  /-- The scalar that the value is. -/
  scalar? : α → Option Scalar
  /-- The values of a group of parts: those of a document with exactly these keys, in any order, or
  the items of an array in this order. -/
  group? : List String → α → Option (List α)
  /-- The value with all that is nested in it. -/
  value? : α → Option Value

/-- An array that was opened is a group only if it has no further items. -/
instance : Readable Value where
  scalar?
    | .scalar s => some s
    | _ => none
  group? keys
    | .document fields =>
      if fields.length = keys.length then keys.mapM (Document.get? fields) else none
    | .array items => if items.length = keys.length then some items else none
    | _ => none
  value? := some

namespace Field

variable {α : Type} [Readable α]

/-- A text. -/
def text? (v : α) : Option String := Readable.scalar? v >>= Scalar.text?

/-- An integer that is stored as one. -/
def storedInt? (v : α) : Option Int := Readable.scalar? v >>= Scalar.storedInt?

/-- A boolean. -/
def boolean? (v : α) : Option Bool := Readable.scalar? v >>= Scalar.boolean?

/-- An integer that is stored as one and fits 32 signed bits. -/
def int32? (v : α) : Option Int32 := do
  let n ← storedInt? v
  if Value.fitsInt32 n then some (Int32.ofInt n) else none

/-- An integer that is stored as one. -/
def int64? (v : α) : Option Int64 := (storedInt? v).map Int64.ofInt

end Field

end UserProvision
