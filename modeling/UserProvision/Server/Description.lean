import UserProvision.Server.Address
import UserProvision.Document.Field
import UserProvision.Document.Reading

/-!
# Server descriptions

What a server said about itself when a connection to it was opened, and which way of creating users
follows from that.
-/

namespace UserProvision

/-- A server as a connection knows it. -/
structure Description where
  address : Address
  maxWireVersion : Option Int32
  maxDocumentSize : Int64
  deriving DecidableEq, Repr

namespace Description

/-- The size limit of a server that tells none. -/
def defaultMaxDocumentSize : Int64 := 16777216

/-- The first wire version of servers that manage users through commands. -/
def userCommandsWireVersion : Int32 := 2

/-- Whether the server manages users through commands. One that tells no wire version speaks
version zero. -/
def hasUserCommands (d : Description) : Bool :=
  decide (userCommandsWireVersion ≤ d.maxWireVersion.getD 0)

/-- Reads the reply to the greeting that a connection is opened with. -/
def ofGreeting? (address : Address) (reply : RawDocument) : Option Description := do
  let fields ← reply.read?
  let wire ← Field.optional Field.int32? (fields.values "maxWireVersion")
  let size ← Field.optional Field.int64? (fields.values "maxBsonObjectSize")
  return ⟨address, wire, size.getD defaultMaxDocumentSize⟩

/-- Reads the reply to the greeting that a connection is opened with. -/
def ofGreeting (address : Address) (reply : RawDocument) : Except Error Description :=
  match ofGreeting? address reply with
  | some d => .ok d
  | none => .error (.ofKind .unreadableDocument)

end Description

end UserProvision
