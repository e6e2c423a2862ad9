import UserProvision.Document.Readable

/-!
# Named fields of a document

A field is read from the values that a document has under its key. Two values under one key are
never read, and neither is a value of another type than the one asked for.
-/

namespace UserProvision

/-- The values under a key. -/
def Document.values (d : Document) (key : String) : List Value := (d.filter (·.1 == key)).map (·.2)

namespace Field

variable {α β : Type}

/-- A field that has to be there. -/
def required (read : α → Option β) : List α → Option β
  | [v] => read v
  | _ => none

/-- A field that may be missing, and then has a value of its own. -/
def withDefault (default : β) (read : α → Option β) : List α → Option β
  | [] => some default
  | [v] => read v
  | _ => none

/-- The value of a field that may be null. -/
def nullable [Readable α] (read : α → Option β) (v : α) : Option (Option β) :=
  if Readable.scalar? v = some .null then some none else (read v).map some

/-- A field that may be missing or null. -/
def optional [Readable α] (read : α → Option β) : List α → Option (Option β) :=
  withDefault none (nullable read)

/-- An array of texts. -/
def texts? : Value → Option (List String)
  | .array items => items.mapM text?
  | _ => none

end Field

end UserProvision
