import UserProvision.Failure.Wording
import UserProvision.Server.Description
import UserProvision.Request.Basic

/-!
# Log events

What happens while a user is created, as events with their texts and fields. An event names the
target that it belongs to and the level at which it is logged. It holds the error that it is about;
the field that shows the error is its text, which a wording settles.
-/

namespace UserProvision

/-- A field of an event. Elapsed time is not known here. -/
inductive FieldValue where
  | text (s : String)
  | number (n : Int)
  | flag (b : Bool)
  | elapsed
  deriving DecidableEq, Repr

/-- How the round trip in progress is identified in events. -/
structure RoundTrip where
  commandName : String
  server : Address
  deriving DecidableEq, Repr

/-- An event of the log. -/
inductive Event where
  | checkedOut
  | checkOutFailed (error : Error)
  | checkedIn (succeeded abandoned : Bool)
  | checkInFailedAfterSuccess (error : Error)
  | checkInFailedWhileAbandoning (error : Error)
  | strategySelected (strategy : String) (maxWireVersion : Option Int32) (database : String)
      (server : Address)
  | commandStarted (operation command database : String) (trip : RoundTrip)
  | commandSucceeded (trip : RoundTrip)
  | commandFailed (failure : Error) (trip : RoundTrip)
  | operationCancelled (operation stage : String)
  | userCreated (reply : String)
  | userInserted (count : Int)
  deriving Repr

namespace Event

def commandTarget : String := "mongodb_user_admin::command"

def connectionTarget : String := "mongodb_user_admin::connection"

def target : Event → String
  | .checkedOut | .checkOutFailed .. | .checkedIn .. | .checkInFailedAfterSuccess ..
  | .checkInFailedWhileAbandoning .. => connectionTarget
  | _ => commandTarget

/-- Trouble that nobody else is told of is a warning, what a server acknowledged a trace. -/
def level : Event → String
  | .checkInFailedAfterSuccess .. | .checkInFailedWhileAbandoning .. => "WARN"
  | .userCreated .. | .userInserted .. => "TRACE"
  | _ => "DEBUG"

def message : Event → String
  | .checkedOut => "Connection checked out"
  | .checkOutFailed .. => "Connection checkout failed"
  | .checkedIn .. => "Connection checked in"
  | .checkInFailedAfterSuccess .. => "Connection check-in failed after the operation succeeded"
  | .checkInFailedWhileAbandoning .. => "Connection check-in failed while abandoning an operation"
  | .strategySelected .. => "Selected user creation strategy"
  | .commandStarted .. => "Command started"
  | .commandSucceeded .. => "Command succeeded"
  | .commandFailed .. => "Command failed"
  | .operationCancelled .. => "Operation cancelled"
  | .userCreated .. => "User created"
  | .userInserted .. => "User document inserted"

/-- The fields that tell a server. -/
def serverFields (server : Address) : List (String × FieldValue) :=
  [("serverHost", .text server.host), ("serverPort", .number server.effectivePort.toNat)]

/-- The fields that tell a round trip. -/
def tripFields (trip : RoundTrip) : List (String × FieldValue) :=
  ("commandName", .text trip.commandName) :: serverFields trip.server

def fields (e : Event) (words : Wording := .plain) : List (String × FieldValue) :=
  match e with
  | .checkedOut => []
  | .checkOutFailed error | .checkInFailedAfterSuccess error
  | .checkInFailedWhileAbandoning error => [("error", .text (error.text words))]
  | .checkedIn succeeded abandoned =>
    [("succeeded", .flag succeeded), ("abandoned", .flag abandoned)]
  | .strategySelected strategy maxWireVersion database server =>
    ("strategy", .text strategy) ::
      (maxWireVersion.toList.map fun n => ("maxWireVersion", .number n.toInt)) ++
      ("databaseName", .text database) :: serverFields server
  | .commandStarted operation command database trip =>
    [("operation", .text operation), ("command", .text command),
      ("databaseName", .text database)] ++
      tripFields trip
  | .commandSucceeded trip => tripFields trip ++ [("durationMS", .elapsed)]
  | .commandFailed failure trip =>
    ("failure", .text (failure.text words)) :: tripFields trip ++ [("durationMS", .elapsed)]
  | .operationCancelled operation stage => [("operation", .text operation), ("stage", .text stage)]
  | .userCreated reply => [("reply", .text reply)]
  | .userInserted count => [("n", .number count)]

end Event

end UserProvision
