import UserProvision.Document.Element

/-!
# Joining documents

`RawDocument.join` adds the elements of one document to another, as long as they can be read and
their keys are new. The bytes that were there stay as they are, and so do the elements added before
one that stops the joining.
-/

namespace UserProvision

/-- What stops the joining of two documents. -/
inductive JoinFault where
  | unreadable
  | repeatedKey (key : String)
  deriving DecidableEq, Repr

/-- A document after elements were added to it, and what stopped that, if anything did. -/
structure Joined where
  document : RawDocument
  fault : Option JoinFault
  deriving DecidableEq, Repr

namespace RawDocument

/-- The keys of the elements that can be read. -/
def keys (d : RawDocument) : List String := d.elements.items.map (·.key)

/-- The elements before the first whose key is one of the given keys. -/
def fresh (keys : List String) (items : List Element) : List Element :=
  items.takeWhile fun e => !keys.contains e.key

/-- What comes after the fresh elements: a key that is taken already, or the end of what can be
read. -/
def joinFault (keys : List String) (other : Elements) : Option JoinFault :=
  match other.items.dropWhile fun e => !keys.contains e.key with
  | e :: _ => some (.repeatedKey e.key)
  | [] => if other.complete then none else some .unreadable

/-- Adds the elements of `other` in order up to the first that cannot be read or whose key `d` had
before. If `d` itself cannot be read in full, nothing is added. -/
def join (d other : RawDocument) : Joined :=
  if d.elements.complete then
    ⟨(fresh d.keys other.elements.items).foldl appendElement d, joinFault d.keys other.elements⟩
  else ⟨d, some .unreadable⟩

end RawDocument

end UserProvision
