import UserProvision.Document.Inspect

/-!
# Collections

A collection is named by its database and its own name.
-/

namespace UserProvision

/-- The full name of a collection. -/
structure Namespace where
  database : String
  collection : String
  deriving DecidableEq, Repr

namespace Namespace

/-- The collection in which servers without user commands keep the users of a database. -/
def users (database : String) : Namespace := ⟨database, "system.users"⟩

def text (ns : Namespace) : String := ns.database ++ "." ++ ns.collection

def inspect (ns : Namespace) : String :=
  Inspect.record "Namespace"
    [("db", Quoted.quote ns.database), ("coll", Quoted.quote ns.collection)]

end Namespace

end UserProvision
