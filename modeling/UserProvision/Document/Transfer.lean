import UserProvision.Document.Encoding
import UserProvision.Failure.Wording

/-!
# Documents that come from outside

A document comes as bytes or as fields. Of bytes only the frame is looked at; fields have to be put
into bytes, which fails for a key that holds a zero character.
-/

namespace UserProvision.RawDocument

/-- Takes a document from the bytes of a reply. -/
def ofReply (bytes : Bytes) : Except Error RawDocument :=
  match ofBytes? bytes with
  | some d => .ok d
  | none => .error .unreadableReply

/-- Puts fields into bytes. Of a repeated key the last value counts. -/
def ofFields (fields : Document) : Except Error RawDocument :=
  match ofDocument? fields.settled with
  | some d => .ok d
  | none => .error (.ofKind .unwritableDocument)

end UserProvision.RawDocument
