import UserProvision.Creation.Basic
import UserProvision.Proofs.Document.Elements

/-!
# The requests that create a user

The command is the document of its own fields followed by that of the options, and it can be built
whenever that document fits the format. How long the document of a user is depends on the length of
the name and on whether there is a password.

## Main results

* `NewUser.command_eq` — what the command is.
* `NewUser.size_document` — how long the inserted document is.
-/

namespace UserProvision

/-! ## The digest of a password -/

theorem utf8ByteSize_ofList (cs : List Char) :
    (String.ofList cs).utf8ByteSize = (cs.map Char.utf8Size).sum := by
  induction cs with
  | nil => rfl
  | cons c cs ih => simp [String.ofList_cons, ih]

theorem Hex.utf8Size_digit {n : Nat} (h : n < 16) : (digit n).utf8Size = 1 := by
  revert n
  decide

theorem Hex.utf8ByteSize_encode (bytes : Bytes) :
    (encode bytes).utf8ByteSize = 2 * bytes.length := by
  rw [encode, utf8ByteSize_ofList]
  induction bytes with
  | nil => rfl
  | cons b bytes ih =>
    have high : (digit (b.toNat / 16)).utf8Size = 1 := utf8Size_digit (by have := b.toNat_lt; omega)
    have low : (digit (b.toNat % 16)).utf8Size = 1 := utf8Size_digit (Nat.mod_lt _ (by decide))
    simp only [List.flatMap_cons, encodeByte, List.cons_append, List.nil_append, List.map_cons,
      List.sum_cons, high, low, ih, List.length_cons]
    omega

namespace Credential

/-- A digest has 32 digits. -/
theorem utf8ByteSize_of_passwordDigest {c : Credential} {digest : String}
    (h : c.passwordDigest = some digest) : digest.utf8ByteSize = 32 := by
  obtain ⟨password, -, rfl⟩ := Option.map_eq_some_iff.mp h
  rw [Hex.utf8ByteSize_encode, Digest.length_md5]

end Credential

/-! ## The command -/

namespace NewUser

/-- The fields of the options. -/
def optionFields (u : NewUser) : Document := (u.options.map CreationOptions.toDocument).getD []

/-- The document that is sent as a command. -/
def commandDocument (u : NewUser) : Document := u.commandFields ++ u.optionFields

/-- Whether the command is a document of the format, whose sizes are signed and have 32 bits. -/
def Fits (u : NewUser) : Prop := (RawDocument.ofDocument u.commandDocument).size < 2 ^ 31

instance (u : NewUser) : Decidable u.Fits := inferInstanceAs (Decidable (_ < _))

/-- The keys of a command. -/
theorem keys_commandFields_subset (u : NewUser) :
    u.commandFields.keys ⊆ ["createUser", "pwd", "digestPassword", "roles"] := by
  unfold commandFields
  cases u.credential.passwordDigest <;> simp [Document.keys, commandName]

theorem keys_optionFields_subset (u : NewUser) : u.optionFields.keys ⊆ ["writeConcern"] := by
  unfold optionFields CreationOptions.toDocument WriteConcern.field
  rcases u.options with _ | ⟨_ | w⟩ <;> simp [Document.keys]

theorem isRegular_commandDocument (u : NewUser) : u.commandDocument.IsRegular := by
  have clean : ∀ k ∈ ["createUser", "pwd", "digestPassword", "roles", "writeConcern"],
      0 ∉ Bytes.ofText k := by decide
  simp only [List.forall_mem_cons] at clean
  obtain ⟨h₁, h₂, h₃, h₄, h₅, -⟩ := clean
  have fields : u.commandFields.IsRegular := by
    unfold commandFields
    cases u.credential.passwordDigest <;>
      simp [Value.framed, RawValue.IsRegular, Scalar.IsRegular, commandName, h₁, h₂, h₃, h₄]
  have options : u.optionFields.IsRegular := by
    unfold optionFields CreationOptions.toDocument WriteConcern.field
    rcases u.options with _ | ⟨_ | w⟩ <;> simp [Value.framed, RawValue.IsRegular, h₅]
  simp [commandDocument, fields, options]

/-- A command that fits the format is built from its fields and the options. -/
theorem command_eq {u : NewUser} (fits : u.Fits) :
    u.command =
      .ok ⟨commandName, u.credential.database, RawDocument.ofDocument u.commandDocument⟩ := by
  have joined : CreationOptions.appendTo (RawDocument.ofDocument u.commandFields) u.options =
      ⟨RawDocument.ofDocument u.commandDocument, none⟩ := by
    cases options : u.options with
    | none => simp [CreationOptions.appendTo, commandDocument, optionFields, options]
    | some o =>
      have fields : u.optionFields = o.toDocument := by simp [optionFields, options]
      rw [CreationOptions.appendTo, ← fields, commandDocument]
      refine RawDocument.join_ofDocument u.isRegular_commandDocument ?_ ?_
      · exact (Nat.le_of_lt fits).trans (by decide)
      · intro k hk shared
        have := u.keys_optionFields_subset hk
        have := u.keys_commandFields_subset shared
        simp_all
  rw [command, joined]

/-! ## The insert -/

theorem insert_eq (u : NewUser) (id : ObjectId) (maxSize : Int64) :
    u.insert id maxSize =
      if maxSize.toInt < (RawDocument.ofDocument (u.document id)).size then
        .error (.invalidArgument ("user document for " ++
          (Namespace.users u.credential.database).text ++ " is " ++
          toString (RawDocument.ofDocument (u.document id)).size ++
          " bytes, which exceeds the server's limit of " ++ toString maxSize.toInt ++ " bytes"))
      else .ok ⟨.users u.credential.database, [.ofDocument (u.document id)], .single⟩ := rfl

/-- How long the document of a user is. -/
theorem size_document (u : NewUser) (id : ObjectId) :
    (RawDocument.ofDocument (u.document id)).size =
      44 + u.credential.name.utf8ByteSize + if u.credential.password.isSome then 42 else 0 := by
  have password : u.credential.passwordDigest.isSome = u.credential.password.isSome := by
    simp [Credential.passwordDigest]
  have keys : "_id".utf8ByteSize = 3 ∧ "user".utf8ByteSize = 4 ∧ "pwd".utf8ByteSize = 3 ∧
      "readOnly".utf8ByteSize = 8 := by decide
  have fields : (u.document id).map (fun f => f.1.utf8ByteSize + f.2.payload.length + 2) =
      [17, u.credential.name.utf8ByteSize + 11] ++
        u.credential.passwordDigest.toList.map (fun digest => digest.utf8ByteSize + 10) ++ [11] := by
    simp [document, Value.payload, Scalar.payload, length_sizedText, id.length_bytes, keys]
    exact ⟨by omega, fun digest _ => by omega⟩
  rw [RawDocument.size, RawDocument.ofDocument, Document.length_body, fields]
  cases digest : u.credential.passwordDigest with
  | none =>
    rw [digest] at password
    simp [← password]
    omega
  | some text =>
    have digits := Credential.utf8ByteSize_of_passwordDigest digest
    rw [digest] at password
    simp [← password, digits]
    omega

end NewUser

end UserProvision
