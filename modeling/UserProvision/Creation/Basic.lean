import UserProvision.Creation.Request
import UserProvision.Log.Event
import UserProvision.Reply.LastError

/-!
# One creation of a user

A creation chooses its strategy from the description of the server each time a request is built, and
reads a reply by the strategy of the last request that could be built.
-/

namespace UserProvision

/-- How a user is created. -/
inductive Strategy where
  | command
  | insert
  deriving DecidableEq, Repr

namespace Strategy

/-- The strategy for a server. -/
def forServer (d : Description) : Strategy := if d.hasUserCommands then .command else .insert

def name : Strategy → String
  | .command => "createUser command"
  | .insert => "system.users insert"

/-- The request of a strategy. -/
def request (s : Strategy) (u : NewUser) (id : ObjectId) (d : Description) :
    Except Error Request :=
  match s with
  | .command => u.command.map .command
  | .insert => (u.insert id d.maxDocumentSize).map .insert

/-- What a reply amounts to under a strategy, told by the event that is logged for a success. -/
def acknowledgment (s : Strategy) (reply : RawDocument) : Except Error Event :=
  match s with
  | .command => (CommandReply.outcome reply).map fun rest => .userCreated rest.relaxed
  | .insert => (LastError.outcome reply).map .userInserted

end Strategy

/-- A user to be created and the strategy of the last request built for it. -/
structure Creation where
  user : NewUser
  strategy : Option Strategy := none
  deriving DecidableEq, Repr

namespace Creation

/-- The name of the operation in logs. -/
def operationName : String := NewUser.commandName

/-- The event for the choice of a strategy. -/
def selection (c : Creation) (d : Description) : Event :=
  .strategySelected (Strategy.forServer d).name d.maxWireVersion c.user.credential.database
    d.address

/-- The request for a server. The identifier is that of the user's document, should one be
needed. -/
def request (c : Creation) (id : ObjectId) (d : Description) : Except Error Request :=
  (Strategy.forServer d).request c.user id d

/-- The creation after a request was built: a request that cannot be built leaves it as it was. -/
def afterBuild (c : Creation) (id : ObjectId) (d : Description) : Creation :=
  match c.request id d with
  | .ok _ => { c with strategy := some (Strategy.forServer d) }
  | .error _ => c

/-- What a reply amounts to. -/
def handleReply (c : Creation) (reply : RawDocument) : Except Error Event :=
  match c.strategy with
  | some s => s.acknowledgment reply
  | none => .error (.internal "createUser response handled before a request was built")

/-- What an error of the round trip amounts to: itself. -/
def handleFault (_ : Creation) (e : Error) : Except Error Event := .error e

end Creation

end UserProvision
