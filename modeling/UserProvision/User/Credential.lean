import UserProvision.Failure.Wording
import UserProvision.Digest

/-!
# Credentials

The name of a user, the database that authenticates it and its password. Any of them may be missing
until the user is to be created.
-/

namespace UserProvision

/-- Who a user is. -/
structure Credential where
  username : Option String
  source : Option String
  password : Option String
  deriving DecidableEq, Repr

namespace Credential

/-- The name of the user, empty if there is none. -/
def name (c : Credential) : String := c.username.getD ""

/-- The database of the user, empty if there is none. -/
def database (c : Credential) : String := c.source.getD ""

/-- A user needs a database and a name, neither of them empty. -/
def validate (c : Credential) : Except Error Unit :=
  match c.source with
  | none => .error (.invalidArgument "a credential must specify the source database of the user")
  | some "" => .error (.invalidArgument "the source database of a credential cannot be empty")
  | some _ =>
    if c.name = "" then
      .error (.invalidArgument "a credential must specify a non-empty username")
    else .ok ()

/-- What the server stores for a password: the digest of name and password, in hexadecimal. -/
def passwordDigest (c : Credential) : Option String :=
  c.password.map fun password =>
    Hex.encode (Digest.md5 (Bytes.ofText (c.name ++ ":mongo:" ++ password)))

/-- The database whose users have rights on all databases. -/
def adminDatabase : String := "admin"

/-- The role for read-only or full access. -/
def role (c : Credential) (readOnly : Bool) : String :=
  match c.database == adminDatabase, readOnly with
  | true, true => "readAnyDatabase"
  | true, false => "root"
  | false, true => "read"
  | false, false => "dbOwner"

/-- The text of a credential, which does not show the password. -/
def inspect (c : Credential) : String :=
  Inspect.record "Credential"
    [("username", Inspect.option Quoted.quote c.username),
      ("source", Inspect.option Quoted.quote c.source),
      ("password", Inspect.option Quoted.quote (c.password.map fun _ => "REDACTED"))]

end Credential

end UserProvision
