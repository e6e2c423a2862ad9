import UserProvision.Reply.Command

/-!
# Replies about the last insert

Servers without user commands tell the outcome of an insert in a reply of its own. Notes about the
write concern weigh more than the error of the write itself, but a reply that is not ok is always
about the write.
-/

namespace UserProvision

/-- The fields of a reply about the last insert. -/
structure LastError where
  ok : Value
  inserted : Option Value
  error : Option String
  code : Option Int32
  codeName : Option String
  message : Option String
  timedOut : Option Bool
  writeNote : Option String
  journalNote : Option String
  deriving Repr

namespace LastError

def ofReply? (reply : RawDocument) : Option LastError := do
  let (oks, fields) ← reply.readExcept? "ok"
  return {
    ok := ← Field.required RawValue.meaning? oks
    inserted := ← Field.optional Value.meaning (fields.values "n")
    error := ← Field.optional Field.text? (fields.values "err")
    code := ← Field.optional Field.int32? (fields.values "code")
    codeName := ← Field.optional Field.text? (fields.values "codeName")
    message := ← Field.optional Field.text? (fields.values "errmsg")
    timedOut := ← Field.optional Field.boolean? (fields.values "wtimeout")
    writeNote := ← Field.optional Field.text? (fields.values "wnote")
    journalNote := ← Field.optional Field.text? (fields.values "jnote") }

/-- The code of a failed write concern that tells none. -/
def writeConcernFailedCode : Int32 := 64

/-- The error of the write. -/
def writeError (r : LastError) : Error :=
  .ofKind (.write ⟨r.code.getD CommandError.unknownCode, r.codeName,
    (r.error <|> r.message).getD ""⟩)

/-- The error of the write concern. -/
def writeConcernError (r : LastError) : Error :=
  .ofKind (.writeConcern ⟨r.code.getD writeConcernFailedCode, r.codeName.getD "",
    (r.error <|> r.writeNote <|> r.journalNote).getD "", none⟩)

/-- Whether the write concern was not met. -/
def missesWriteConcern (r : LastError) : Bool :=
  r.timedOut == some true || r.writeNote.isSome || r.journalNote.isSome

/-- The number of inserted documents, or the error that the reply describes. -/
def outcome? (r : LastError) : Except Error Int :=
  if !CommandReply.isOk r.ok then .error r.writeError
  else if r.missesWriteConcern then .error r.writeConcernError
  else if r.error.isSome || r.code.isSome then .error r.writeError
  else .ok ((r.inserted.bind Value.integer?).getD 0)

/-- What a reply amounts to. -/
def outcome (reply : RawDocument) : Except Error Int :=
  match ofReply? reply with
  | some r => r.outcome?
  | none => .error .unreadableReply

end LastError

end UserProvision
