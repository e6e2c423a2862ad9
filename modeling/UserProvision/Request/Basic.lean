import UserProvision.User.Namespace
import UserProvision.User.WriteConcern
import UserProvision.Document.Reading
import UserProvision.Text.LowerCase

/-!
# Requests

What a connection is asked to send in one round trip: a command, or an insert message followed by
the command that asks for its outcome. The text of a request in logs hides whatever carries
credentials.
-/

namespace UserProvision

/-- A command for a database. -/
structure Command where
  name : String
  database : String
  body : RawDocument
  deriving DecidableEq, Repr

namespace Command

/-- The commands that carry credentials, in lower case. -/
def secretNames : List String :=
  ["authenticate", "saslstart", "saslcontinue", "getnonce", "createuser", "updateuser"]

/-- Whether the body has to be kept out of logs. -/
def isSecret (c : Command) : Bool := secretNames.contains (LowerCase.ofText c.name)

/-- The text of a command in logs. What is secret or cannot be read shows as the empty document. -/
def logText (c : Command) : String :=
  if c.isSecret then Document.relaxed []
  else match c.body.shown? with
    | some d => d.relaxed
    | none => Document.relaxed []

end Command

/-- Documents for a collection, sent without a command. -/
structure Insert where
  target : Namespace
  documents : List RawDocument
  writeConcern : WriteConcern
  deriving DecidableEq, Repr

namespace Insert

/-- The command that asks for the outcome of the insert just sent. A write concern can always be put
into bytes (`WriteConcern.isLegible_toDocument`), so that only joining can fail. -/
def outcomeCommand (i : Insert) : Except Error Command :=
  let body := RawDocument.ofDocument [("getLastError", .int32 1)]
  let joined := body.join (RawDocument.ofDocument i.writeConcern.toDocument)
  match joined.fault with
  | none => .ok ⟨"getLastError", i.target.database, joined.document⟩
  | some fault => .error fault.toError

end Insert

/-- What a connection sends in one round trip. -/
inductive Request where
  | command (c : Command)
  | insert (i : Insert)
  deriving DecidableEq, Repr

namespace Request

def name : Request → String
  | .command c => c.name
  | .insert _ => "insert"

def database : Request → String
  | .command c => c.database
  | .insert i => i.target.database

/-- The text of a request in logs. Inserted documents do not show. -/
def logText : Request → String
  | .command c => c.logText
  | .insert _ => Document.relaxed []

end Request

end UserProvision
