import UserProvision.Creation.Request

/-!
# Describing a user to be created

A user to be created starts from a valid credential and has no options. Options are replaced as a
whole; they are refused unless the write is acknowledged, and a write concern that asks for nothing
is left out.
-/

namespace UserProvision.NewUser

/-- A user without options. -/
def ofCredential (credential : Credential) (readOnly : Bool) : Except Error NewUser :=
  credential.validate.map fun () => ⟨credential, readOnly, none⟩

/-- Whether the write concern of some options, if there is one, is valid and acknowledged. -/
def checkOptions (options : Option CreationOptions) : Except Error Unit :=
  match options.bind CreationOptions.writeConcern with
  | none => .ok ()
  | some w =>
    match w.validate with
    | .error e => .error e
    | .ok () =>
      if w.isAcknowledged then .ok ()
      else .error (.invalidArgument "user creation requires an acknowledged write concern")

/-- Replaces the options. -/
def withOptions (u : NewUser) (options : Option CreationOptions) : Except Error NewUser :=
  (checkOptions options).map fun () =>
    { u with options := options.map CreationOptions.withoutEmpty }

/-- The user after one attempt to replace the options: a refused attempt leaves it as it was. -/
def attempt (u : NewUser) (options : Option CreationOptions) : NewUser :=
  (u.withOptions options).toOption.getD u

def inspect (u : NewUser) : String :=
  Inspect.record "CreateUser"
    [("credential", u.credential.inspect), ("read_only", toString u.readOnly),
      ("options", Inspect.option CreationOptions.inspect u.options)]

end UserProvision.NewUser
