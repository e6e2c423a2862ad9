import UserProvision.Failure.Wording
import UserProvision.Time.Span

/-!
# Write concerns

Which servers have to acknowledge a write, how long they may take, and whether the journal has to
hold it.
-/

namespace UserProvision

/-- Who has to acknowledge a write. -/
inductive Acknowledgers where
  | nodes (count : UInt32)
  | majority
  | tagged (name : String)
  deriving DecidableEq, Repr

namespace Acknowledgers

/-- A name that is not the word for the majority names a set of tags. -/
def ofName (name : String) : Acknowledgers :=
  if name = "majority" then .majority else .tagged name

def toValue : Acknowledgers → Value
  | .nodes count => Value.ofInt count.toNat
  | .majority => .string "majority"
  | .tagged name => .string name

def inspect : Acknowledgers → String
  | .nodes count => Inspect.tuple "Nodes" [toString count.toNat]
  | .majority => "Majority"
  | .tagged name => Inspect.tuple "Custom" [Quoted.quote name]

end Acknowledgers

/-- How a write has to be acknowledged; what is left out is for the server to choose. -/
structure WriteConcern where
  acknowledgers : Option Acknowledgers := none
  timeout : Option Span := none
  journal : Option Bool := none
  deriving DecidableEq, Repr

/-- The whole milliseconds of a timeout: 32 bits if they fit, else the lowest 64 bits. -/
def Span.toValue (s : Span) : Value :=
  if s.wholeMillis < 2 ^ 31 then .int32 (Int32.ofNat s.wholeMillis)
  else .int64 (Int64.ofNat s.wholeMillis)

namespace WriteConcern

def ofAcknowledgers (a : Acknowledgers) : WriteConcern := { acknowledgers := some a }

def ofNodes (count : UInt32) : WriteConcern := ofAcknowledgers (.nodes count)

/-- One server is enough. -/
def single : WriteConcern := ofNodes 1

def ofMajority : WriteConcern := ofAcknowledgers .majority

def ofName (name : String) : WriteConcern := ofAcknowledgers (.ofName name)

/-- Whether no server at all is asked to acknowledge. -/
def asksNobody (w : WriteConcern) : Bool := w.acknowledgers == some (.nodes 0)

/-- Whether the write is acknowledged in some way. -/
def isAcknowledged (w : WriteConcern) : Bool := !w.asksNobody || w.journal == some true

/-- Whether everything is left to the server. -/
def isEmpty (w : WriteConcern) : Bool :=
  w.acknowledgers.isNone && w.timeout.isNone && w.journal.isNone

/-- A write that nobody acknowledges cannot wait for the journal. -/
def validate (w : WriteConcern) : Except Error Unit :=
  if w.asksNobody && w.journal == some true then
    .error (.invalidArgument "write concern cannot have w=0 and j=true")
  else .ok ()

/-- A field for what is there. -/
def field {α : Type} (key : String) (toValue : α → Value) (part : Option α) : Document :=
  part.toList.map fun a => (key, toValue a)

def toDocument (w : WriteConcern) : Document :=
  field "w" Acknowledgers.toValue w.acknowledgers ++ field "wtimeout" Span.toValue w.timeout ++
    field "j" Value.boolean w.journal

def inspect (w : WriteConcern) : String :=
  Inspect.record "WriteConcern"
    [("w", Inspect.option Acknowledgers.inspect w.acknowledgers),
      ("w_timeout", Inspect.option Span.inspect w.timeout),
      ("journal", Inspect.option toString w.journal)]

end WriteConcern

/-- What may be asked for when a user is created. -/
structure CreationOptions where
  writeConcern : Option WriteConcern := none
  deriving DecidableEq, Repr

namespace CreationOptions

def toDocument (o : CreationOptions) : Document :=
  WriteConcern.field "writeConcern" (fun w => .document w.toDocument) o.writeConcern

/-- Adds the options to a document in bytes. Options can always be put into bytes, since all their
keys are fixed (`CreationOptions.isLegible_toDocument`), so that only joining can fail. -/
def appendTo (d : RawDocument) (o : Option CreationOptions) : Joined :=
  match o with
  | none => ⟨d, none⟩
  | some o => d.join (RawDocument.ofDocument o.toDocument)

/-- Leaves out a write concern that asks for nothing. -/
def withoutEmpty (o : CreationOptions) : CreationOptions :=
  ⟨o.writeConcern.filter fun w => !w.isEmpty⟩

def inspect (o : CreationOptions) : String :=
  Inspect.record "CreateUserOptions"
    [("write_concern", Inspect.option WriteConcern.inspect o.writeConcern)]

end CreationOptions

end UserProvision
