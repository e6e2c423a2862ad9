import UserProvision.Document.Value

/-!
# Failures

A failure has a kind and a set of labels. An `Error` is a failure together with the failures that
happened while it was being handled, in order; `Error.attach` adds more of them at the end.

Errors say nothing about the order in which their labels are told, nor do they describe what is
wrong inside bytes: both are left to the wording.
-/

namespace UserProvision

/-- A set of labels. Its list is in increasing order, so that equal sets are equal; the order in
which labels are told is not that of the list. -/
structure Labels where
  toList : List String
  increasing : toList.Pairwise (· < ·)
  deriving DecidableEq, Repr

namespace Labels

def empty : Labels := ⟨[], .nil⟩

/-- Puts a label at its place. -/
def insertInto (label : String) : List String → List String
  | [] => [label]
  | l :: rest =>
    if label < l then label :: l :: rest
    else if label = l then l :: rest
    else l :: insertInto label rest

theorem mem_insertInto {label l : String} {labels : List String} :
    l ∈ insertInto label labels ↔ l = label ∨ l ∈ labels := by
  induction labels with
  | nil => simp [insertInto]
  | cons first rest ih =>
    rw [insertInto]
    split
    · simp
    · split
      · simp_all
      · simp [ih, or_left_comm]

theorem pairwise_insertInto (label : String) {labels : List String}
    (increasing : labels.Pairwise (· < ·)) : (insertInto label labels).Pairwise (· < ·) := by
  induction increasing with
  | nil => exact .cons nofun .nil
  | @cons first rest above increasing ih =>
    rw [insertInto]
    split
    · rename_i below
      refine .cons (fun l mem => ?_) (.cons above increasing)
      rcases List.mem_cons.mp mem with rfl | mem
      · exact below
      · exact String.lt_trans below (above l mem)
    · rename_i notBelow
      split
      · exact .cons above increasing
      · rename_i other
        refine .cons (fun l mem => ?_) ih
        rcases mem_insertInto.mp mem with rfl | mem
        · exact Std.lt_of_le_of_ne (String.not_lt.mp notBelow) (Ne.symm other)
        · exact above l mem

/-- Adds a label. -/
def insert (label : String) (labels : Labels) : Labels :=
  ⟨insertInto label labels.toList, pairwise_insertInto label labels.increasing⟩

/-- The set of the labels of a list. -/
def ofList (labels : List String) : Labels := labels.foldr insert empty

theorem mem_ofList {label : String} {labels : List String} :
    label ∈ (ofList labels).toList ↔ label ∈ labels := by
  induction labels with
  | nil => exact Iff.rfl
  | cons l labels ih =>
    rw [List.mem_cons, ← ih]
    exact mem_insertInto

def contains (labels : Labels) (label : String) : Bool := labels.toList.contains label

end Labels

/-- A command that the server refused. -/
structure CommandError where
  code : Int32
  codeName : String
  message : String
  deriving DecidableEq, Repr

/-- A write that the server did not carry out. -/
structure WriteError where
  code : Int32
  codeName : Option String
  message : String
  deriving DecidableEq, Repr

/-- A write that was carried out, but not acknowledged as it was asked to be. -/
structure WriteConcernError where
  code : Int32
  codeName : String
  message : String
  details : Option Document
  deriving Repr

mutual

/-- What went wrong. -/
inductive Kind where
  /-- The caller gave something unusable. -/
  | invalidArgument (message : String)
  /-- The pool had no connection to give. -/
  | connectionUnavailable (message : Message)
  | command (e : CommandError)
  | write (e : WriteError)
  | writeConcern (e : WriteConcernError)
  | cancelled
  /-- A reply that cannot be read. -/
  | invalidResponse (message : Message)
  /-- A document that cannot be read as what it should describe. -/
  | unreadableDocument
  /-- A document that cannot be put into bytes. -/
  | unwritableDocument
  | transport (message : String)
  /-- A rule of this library was broken. -/
  | internal (message : String)
  deriving Repr

/-- The message of a failure. What it leaves open is filled in when it is told. -/
inductive Message where
  | said (text : String)
  /-- What is wrong inside the bytes of a document. -/
  | unreadable
  /-- An opening, and the text of the failure that it leads to. -/
  | quoting (opening : String) (kind : Kind) (labels : Labels)
  deriving Repr

end

instance : Coe String Message := ⟨.said⟩

/-- A kind of failure with its labels. -/
structure Failure where
  kind : Kind
  labels : Labels
  deriving Repr

/-- A failure and those that happened while it was handled. -/
inductive Error where
  | alone (failure : Failure)
  | followed (failure : Failure) (secondary : Error)
  deriving Repr

namespace Kind

/-- The code that the server gave. -/
def code? : Kind → Option Int32
  | .command e => some e.code
  | .write e => some e.code
  | .writeConcern e => some e.code
  | _ => none

end Kind

namespace Error

/-- An error of a kind, without labels and secondary failures. -/
def ofKind (kind : Kind) : Error := .alone ⟨kind, .empty⟩

def labelled (kind : Kind) (labels : List String) : Error := .alone ⟨kind, .ofList labels⟩

/-- The failure that matters. -/
def primary : Error → Failure
  | .alone f => f
  | .followed f _ => f

def secondary? : Error → Option Error
  | .alone _ => none
  | .followed _ e => some e

def kind (e : Error) : Kind := e.primary.kind

def labels (e : Error) : Labels := e.primary.labels

def hasLabel (e : Error) (label : String) : Bool := e.labels.contains label

def code? (e : Error) : Option Int32 := e.kind.code?

/-- All failures, the one that matters first. -/
def chain : Error → List Failure
  | .alone f => [f]
  | .followed f e => f :: e.chain

/-- Adds an error behind all failures that are already there. -/
def attach : Error → Error → Error
  | .alone f, added => .followed f added
  | .followed f e, added => .followed f (e.attach added)

/-- Adds an error if there is one. -/
def attach? (e : Error) : Option Error → Error
  | none => e
  | some added => e.attach added

def isCancelled (e : Error) : Bool := e.kind matches .cancelled

/-- The codes for a key that is taken and for a user that exists. -/
def duplicateCodes : List Int32 := [11000, 51003]

/-- Whether what was to be created exists already. -/
def isDuplicate (e : Error) : Bool := e.code?.any duplicateCodes.contains

def invalidArgument (message : String) : Error := ofKind (.invalidArgument message)

def connectionUnavailable (message : Message) : Error := ofKind (.connectionUnavailable message)

def internal (message : String) : Error := ofKind (.internal message)

def cancelled : Error := ofKind .cancelled

end Error

end UserProvision
