import UserProvision.Request.Basic
import UserProvision.Server.Description
import UserProvision.User.Credential

/-!
# The two requests that create a user

Servers with user commands are sent the command for it. Others get the document of the user,
inserted into the users of its database and acknowledged by a single server; that document must not
exceed the size that the server accepts.
-/

namespace UserProvision

/-- A user to be created. -/
structure NewUser where
  credential : Credential
  readOnly : Bool
  options : Option CreationOptions
  deriving DecidableEq, Repr

namespace NewUser

/-- The name of the command and of the operation. -/
def commandName : String := "createUser"

/-- The fields of the command without those of the options. The digest is sent in place of the
password, and the server is told so. -/
def commandFields (u : NewUser) : Document :=
  [(commandName, .string u.credential.name)] ++
    (match u.credential.passwordDigest with
      | some digest => [("pwd", .string digest), ("digestPassword", .boolean false)]
      | none => []) ++
    [("roles", .array [.string (u.credential.role u.readOnly)])]

/-- The command that creates the user. -/
def command (u : NewUser) : Except Error Command :=
  let joined := CreationOptions.appendTo (RawDocument.ofDocument u.commandFields) u.options
  match joined.fault with
  | none => .ok ⟨commandName, u.credential.database, joined.document⟩
  | some fault => .error fault.toError

/-- The document of the user. -/
def document (u : NewUser) (id : ObjectId) : Document :=
  [("_id", .objectId id), ("user", .string u.credential.name)] ++
    (u.credential.passwordDigest.toList.map fun digest => ("pwd", .string digest)) ++
    [("readOnly", .boolean u.readOnly)]

/-- The insert that creates the user, for a server with the given limit on documents. -/
def insert (u : NewUser) (id : ObjectId) (maxSize : Int64) : Except Error Insert :=
  let d := RawDocument.ofDocument (u.document id)
  let target := Namespace.users u.credential.database
  if maxSize.toInt < d.size then
    .error (.invalidArgument ("user document for " ++ target.text ++ " is " ++ toString d.size ++
      " bytes, which exceeds the server's limit of " ++ toString maxSize.toInt ++ " bytes"))
  else .ok ⟨target, [d], .single⟩

end NewUser

end UserProvision
