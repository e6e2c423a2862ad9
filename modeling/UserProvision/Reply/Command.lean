import UserProvision.Document.Field
import UserProvision.Document.RawMeaning
import UserProvision.Failure.Wording

/-!
# Replies to the command that creates a user

A reply tells by its field `ok` whether the command was carried out. A refusal is read strictly
first, and if that fails leniently; a success may still carry a failed write concern.
`CommandReply.outcome` is what a reply amounts to.

A field that is kept as it is and has a name of its own (`ok`, the code of a refusal that is read
leniently, the details of a failed write concern) means what it means as it is read; the fields that
are kept all together are opened before.
-/

namespace UserProvision

/-- A reply to a command: its field `ok` and all others. -/
structure CommandReply where
  ok : Value
  rest : Document
  deriving Repr

namespace CommandReply

/-- Whether a value of the field `ok` means success. -/
def isOk (ok : Value) : Bool := ok.integer? == some 1

@[simp] theorem isOk_iff {ok : Value} : isOk ok = true ↔ ok.integer? = some 1 := beq_iff_eq

def isSuccess (r : CommandReply) : Bool := isOk r.ok

/-- Reads any reply. -/
def ofReply? (reply : RawDocument) : Option CommandReply := do
  let (oks, others) ← reply.readExcept? "ok"
  let ok ← Field.required RawValue.meaning? oks
  let rest ← Document.meaning others
  return ⟨ok, rest⟩

end CommandReply

/-- The code of a refusal that tells none. -/
def CommandError.unknownCode : Int32 := 8

namespace Refusal

/-- The labels of a reply. -/
def labels? (fields : Document) : Option (List String) :=
  (Field.optional Field.texts? (fields.values "errorLabels")).map (·.getD [])

/-- Reads a refusal whose code is an integer and whose texts are texts. -/
def strict? (reply : RawDocument) : Option Error := do
  let fields ← reply.read?
  let labels ← labels? fields
  let code ← Field.required Field.int32? (fields.values "code")
  let codeName ← Field.withDefault "" Field.text? (fields.values "codeName")
  let message ← Field.withDefault "" Field.text? (fields.values "errmsg")
  return .labelled (.command ⟨code, codeName, message⟩) labels

/-- The code that a value stands for, if it is an integer of 32 bits. -/
def code (v : Option Value) : Int32 :=
  match v.bind Value.integer? with
  | some n => if Value.fitsInt32 n then Int32.ofInt n else CommandError.unknownCode
  | none => CommandError.unknownCode

/-- Reads a refusal of which any part may be missing, and whose code may be any value. -/
def lenient? (reply : RawDocument) : Option Error := do
  let (codes, fields) ← reply.readExcept? "code"
  let value ← Field.optional RawValue.meaning? codes
  let codeName ← Field.optional Field.text? (fields.values "codeName")
  let message ← Field.optional Field.text? (fields.values "errmsg")
  let labels ← labels? fields
  return .labelled (.command ⟨code value, codeName.getD "", message.getD ""⟩) labels

end Refusal

namespace WriteConcernError

/-- The message of a failed write concern goes by two names. -/
def renamed (fields : Document) : Document :=
  fields.map fun (k, v) => (if k = "errmsg" then "message" else k, v)

/-- Reads a failed write concern from its fields, or from an array that starts with their values in
order. -/
def ofValue? : RawValue → Option WriteConcernError
  | .document d => do
    let (infos, others) ← d.readExcept? "errInfo"
    let fields := renamed others
    let code ← Field.required Field.int32? (fields.values "code")
    let codeName ← Field.withDefault "" Field.text? (fields.values "codeName")
    let message ← Field.withDefault "" Field.text? (fields.values "message")
    let details ← Field.optional RawValue.document? infos
    return ⟨code, codeName, message, details⟩
  | .array d =>
    match d.elements.items.map (·.value) with
    | code :: codeName :: message :: details :: _ => do
      return ⟨← Field.int32? code, ← Field.text? codeName, ← Field.text? message,
        ← Field.nullable RawValue.document? details⟩
    | _ => none
  | _ => none

/-- Reads what a reply says about its write concern: nothing, or the error of its failure. -/
def ofReply? (reply : RawDocument) : Option (Option Error) := do
  let (failures, fields) ← reply.readExcept? "writeConcernError"
  let failed ← Field.optional ofValue? failures
  let labels ← Refusal.labels? fields
  return failed.map fun e => .labelled (.writeConcern e) labels

end WriteConcernError

namespace CommandReply

/-- What a reply amounts to: its fields without `ok`, or the error they describe. The outer `none`
is for a reply that cannot be read. -/
def outcome? (reply : RawDocument) : Option (Except Error Document) := do
  let r ← ofReply? reply
  if r.isSuccess then
    match ← WriteConcernError.ofReply? reply with
    | some e => return .error e
    | none => return .ok r.rest
  else
    return .error (← Refusal.strict? reply <|> Refusal.lenient? reply)

/-- What a reply amounts to. -/
def outcome (reply : RawDocument) : Except Error Document :=
  (outcome? reply).getD (.error .unreadableReply)

end CommandReply

end UserProvision
