import UserProvision.Failure.Basic
import UserProvision.Document.Inspect
import UserProvision.Document.Join

/-!
# The wording of errors

The text of each kind of failure, and of an error: its kind and its labels. A `Wording` gives what
errors leave open.
-/

namespace UserProvision

/-- How errors are told where they leave it open. Labels are a set, which is told in an order that
may be another one each time; and what is wrong inside bytes is said by their decoder. -/
structure Wording where
  /-- The labels in the order in which they are told. -/
  order : Labels → List String
  perm : ∀ labels, (order labels).Perm labels.toList
  /-- What is said of bytes that cannot be read, and of fields that cannot be put into bytes. -/
  unreadable : String

/-- Labels in the order of their quoted texts, and a mark for what is said of bytes. -/
def Wording.plain : Wording where
  order labels := labels.toList.mergeSort fun l l' => Quoted.quote l ≤ Quoted.quote l'
  perm _ := List.mergeSort_perm ..
  unreadable := "<bson>"

/-- A reply that cannot be read. -/
def Error.unreadableReply : Error := .ofKind (.invalidResponse .unreadable)

/-- The error for what stopped the joining of two documents. -/
def JoinFault.toError : JoinFault → Error
  | .unreadable => .unreadableReply
  | .repeatedKey key => .internal ("duplicate raw document key " ++ Quoted.quote key)

namespace CommandError

def text (e : CommandError) : String :=
  "Error code " ++ toString e.code.toInt ++ " (" ++ e.codeName ++ "): " ++ e.message

end CommandError

namespace WriteError

def inspect (e : WriteError) : String :=
  Inspect.record "WriteError"
    [("code", toString e.code.toInt), ("code_name", Inspect.option Quoted.quote e.codeName),
      ("message", Quoted.quote e.message)]

end WriteError

namespace WriteConcernError

def inspect (e : WriteConcernError) : String :=
  Inspect.record "WriteConcernError"
    [("code", toString e.code.toInt), ("code_name", Quoted.quote e.codeName),
      ("message", Quoted.quote e.message), ("details", Inspect.option Document.inspect e.details)]

end WriteConcernError

/-- The labels between braces, quoted, in whatever order the wording has for them. -/
def Labels.text (words : Wording) (labels : Labels) : String :=
  "\x7b" ++ String.intercalate ", " ((words.order labels).map Quoted.quote) ++ "\x7d"

/-- What the text of a kind of failure opens with. -/
def Kind.opening : Kind → String
  | .invalidArgument _ => "An invalid argument was provided: "
  | .connectionUnavailable _ => "No connection was available for the operation: "
  | .command _ => "Command failed: "
  | .write _ | .writeConcern _ => "An error occurred when trying to execute a write operation: "
  | .cancelled => "The operation was cancelled before it completed"
  | .invalidResponse _ => "The server returned an invalid reply to a database operation: "
  | .unreadableDocument | .unwritableDocument => ""
  | .transport _ => "I/O error: "
  | .internal _ => "Internal error: "

/-- The text of a kind of failure with the text of its labels. -/
def Failure.sentence (kind labels : String) : String := "Kind: " ++ kind ++ ", labels: " ++ labels

mutual

/-- What follows the opening. -/
def Kind.detail (words : Wording) : Kind → String
  | .invalidArgument message | .transport message | .internal message => message
  | .connectionUnavailable message | .invalidResponse message => message.text words
  | .command e => e.text
  | .write e => Inspect.tuple "WriteError" [e.inspect]
  | .writeConcern e => Inspect.tuple "WriteConcernError" [e.inspect]
  | .cancelled => ""
  | .unreadableDocument | .unwritableDocument => words.unreadable

def Message.text (words : Wording := .plain) : Message → String
  | .said text => text
  | .unreadable => words.unreadable
  | .quoting opening kind labels =>
    opening ++ Failure.sentence (kind.opening ++ kind.detail words) (labels.text words)

end

def Kind.text (words : Wording := .plain) (kind : Kind) : String :=
  kind.opening ++ kind.detail words

namespace Error

/-- The text of an error. Secondary failures are not part of it. -/
def text (e : Error) (words : Wording := .plain) : String :=
  Failure.sentence (e.kind.text words) (e.labels.text words)

/-- A message that ends in the text of an error. -/
def quotedAfter (opening : String) (e : Error) : Message := .quoting opening e.kind e.labels

theorem text_quotedAfter (words : Wording) (opening : String) (e : Error) :
    (e.quotedAfter opening).text words = opening ++ e.text words := by
  rw [quotedAfter, Message.text, text, Kind.text]

end Error

end UserProvision
