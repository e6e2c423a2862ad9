import UserProvision.Proofs.Creation.Options

/-!
# Commands spell out their fields

The two commands, the one that creates a user and the one that asks for the outcome of an insert,
are joined from parts of a document. Whatever the user, its options and the write concern are, the
parts do not collide, so that the command can be built, starts with its name and reads back as the
fields it should have.

## Main definitions

* `Command.Spells` — the fields that a command is made of.
* `NewUser.spelled`, `Insert.spelled` — the fields of the two commands.

## Main results

* `Insert.outcomeCommand_eq` — what the command is that asks for the outcome.
* `commands_spell_fields` — every command can be built and is made of its fields.
-/

namespace UserProvision

/-- A command is made of some fields: its body is the document of them, which reads back unless it
exceeds the format, whose sizes are signed and have 32 bits. The first field is under the name of the
command and no two are under one key. -/
structure Command.Spells (c : Command) (fields : Document) : Prop where
  body : c.body = .ofDocument fields
  named : fields.keys.head? = some c.name
  distinct : fields.keys.Nodup
  opens : c.body.size < 2 ^ 31 → c.body.read? = some fields

theorem Command.spells_of_sublist {name database : String} {fields : Document} {keys : List String}
    (legible : fields.IsLegible) (named : fields.keys.head? = some name)
    (among : fields.keys.Sublist keys) (distinct : keys.Nodup) :
    Command.Spells ⟨name, database, .ofDocument fields⟩ fields where
  body := rfl
  named := named
  distinct := distinct.sublist among
  opens fits := RawDocument.read?_ofDocument legible (fits.le.trans (by decide))

/-! ## Creating a user -/

theorem CreationOptions.isLegible_toDocument (o : CreationOptions) : o.toDocument.IsLegible := by
  have clean : 0 ∉ Bytes.ofText "writeConcern" := by decide
  rcases o with ⟨_ | w⟩ <;>
    simp [toDocument, WriteConcern.field, WriteConcern.isLegible_document, clean]

theorem Credential.role_eq (c : Credential) (readOnly : Bool) :
    c.role readOnly = if c.source = some "admin" then if readOnly then "readAnyDatabase" else "root"
      else if readOnly then "read" else "dbOwner" := by
  have admin : (c.database == adminDatabase) = decide (c.source = some "admin") := by
    rw [database, adminDatabase, Bool.beq_eq_decide_eq]
    cases c.source <;> simp
  unfold role
  rw [admin]
  by_cases h : c.source = some "admin" <;> cases readOnly <;> simp [h]

namespace NewUser

/-- The fields of the command that creates a user: its name, its password in digested form, if it
has one, its role, and the write concern of the options, if they have one. -/
def spelled (u : NewUser) : Document :=
  let c := u.credential
  let name := c.username.getD ""
  [("createUser", .string name)] ++
    (c.password.toList.flatMap fun password =>
      [("pwd", .string (Hex.encode (Digest.md5 (Bytes.ofText (name ++ ":mongo:" ++ password))))),
        ("digestPassword", .boolean false)]) ++
    [("roles", .array [.string
      (if c.source = some "admin" then if u.readOnly then "readAnyDatabase" else "root"
        else if u.readOnly then "read" else "dbOwner")])] ++
    ((u.options.bind CreationOptions.writeConcern).toList.map fun w =>
      ("writeConcern", .document w.toDocument))

theorem commandDocument_eq (u : NewUser) : u.commandDocument = u.spelled := by
  unfold commandDocument commandFields spelled
  rw [Credential.role_eq]
  rcases u with ⟨⟨username, source, _ | password⟩, readOnly, _ | ⟨_ | w⟩⟩ <;> rfl

theorem keys_spelled_sublist (u : NewUser) :
    u.spelled.keys.Sublist ["createUser", "pwd", "digestPassword", "roles", "writeConcern"] := by
  rcases u with ⟨⟨username, source, _ | password⟩, readOnly, _ | ⟨_ | w⟩⟩ <;>
    simp [spelled, Document.keys]

/-- Without options no part of the command is joined to another. -/
theorem command_eq_of_options_eq_none {u : NewUser} (none : u.options = none) :
    u.command =
      .ok ⟨commandName, u.credential.database, RawDocument.ofDocument u.commandDocument⟩ := by
  simp [command, CreationOptions.appendTo, commandDocument, optionFields, none]

end NewUser

/-! ## Asking for the outcome of an insert -/

namespace Insert

/-- The fields of the command that asks for the outcome: its name and those of the write concern. -/
def spelled (i : Insert) : Document := ("getLastError", .int32 1) :: i.writeConcern.toDocument

/-- Whether that command is a document of the format. -/
def Fits (i : Insert) : Prop := (RawDocument.ofDocument i.spelled).size < 2 ^ 31

theorem isLegible_spelled (i : Insert) : i.spelled.IsLegible := by
  have clean : 0 ∉ Bytes.ofText "getLastError" := by decide
  have name : (Value.int32 1).IsLegible := .scalar trivial
  rw [spelled, Document.isLegible_cons]
  exact ⟨⟨clean, name⟩, i.writeConcern.isLegible_toDocument⟩

theorem keys_spelled_sublist (i : Insert) :
    i.spelled.keys.Sublist ["getLastError", "w", "wtimeout", "j"] :=
  i.writeConcern.spells_toDocument.keys.cons_cons "getLastError"

/-- No field of a write concern is called like the command. -/
theorem outcomeCommand_eq {i : Insert} (fits : i.Fits) :
    i.outcomeCommand =
      .ok ⟨"getLastError", i.target.database, RawDocument.ofDocument i.spelled⟩ := by
  have regular : i.spelled.IsRegular := fun f hf =>
    ⟨(i.isLegible_spelled f hf).1, (i.isLegible_spelled f hf).2.framed⟩
  have different : ∀ k ∈ i.writeConcern.toDocument.keys,
      k ∉ Document.keys [("getLastError", .int32 1)] := by
    intro k hk shared
    have := i.writeConcern.spells_toDocument.keys.subset hk
    simp_all [Document.keys]
  have joined : (RawDocument.ofDocument [("getLastError", .int32 1)]).join
      (RawDocument.ofDocument i.writeConcern.toDocument) = ⟨RawDocument.ofDocument i.spelled, none⟩ :=
    RawDocument.join_ofDocument regular ((Nat.le_of_lt fits).trans (by decide)) different
  rw [outcomeCommand, joined]

theorem exists_outcomeCommand {i : Insert} (fits : i.Fits) :
    ∃ command : Command, i.outcomeCommand = .ok command ∧ command.name = "getLastError" ∧
      command.database = i.target.database ∧ command.Spells i.spelled :=
  ⟨_, outcomeCommand_eq fits, rfl, rfl,
    Command.spells_of_sublist i.isLegible_spelled rfl i.keys_spelled_sublist (by decide)⟩

end Insert

/-! ## Both commands -/

/-- For a server with user commands a command can be built for any user, valid or not, whatever the
limit on the size of documents, and so can the command that asks for the outcome of any insert, if
what is joined is a document of the format at all. The one is called `createUser` and is for the
database of the user, the other is called `getLastError` and is for that of the collection, and both
are made of just their fields. Options and write concerns can always be written. -/
theorem commands_spell_fields :
    (∀ (u : NewUser) (strategy : Option Strategy) (id : ObjectId) (d : Description),
      2 ≤ d.maxWireVersion.getD 0 → u.options = none ∨ u.Fits →
      ∃ command : Command, Creation.request ⟨u, strategy⟩ id d = .ok (.command command) ∧
        command.name = "createUser" ∧ command.database = u.credential.source.getD "" ∧
        command.Spells u.spelled) ∧
    (∀ i : Insert, i.Fits →
      ∃ command : Command, i.outcomeCommand = .ok command ∧
        command.name = "getLastError" ∧ command.database = i.target.database ∧
        command.Spells i.spelled) ∧
    (∀ o : CreationOptions, RawDocument.ofDocument? o.toDocument = some (.ofDocument o.toDocument)) ∧
    ∀ w : WriteConcern, RawDocument.ofDocument? w.toDocument = some (.ofDocument w.toDocument) := by
  refine ⟨fun u strategy id d modern built => ?_, fun i fits => Insert.exists_outcomeCommand fits,
    fun o => if_pos o.isLegible_toDocument.isWritable,
    fun w => if_pos w.isLegible_toDocument.isWritable⟩
  have command : u.command =
      .ok ⟨"createUser", u.credential.database, RawDocument.ofDocument u.spelled⟩ := by
    rw [← u.commandDocument_eq]
    exact built.elim NewUser.command_eq_of_options_eq_none NewUser.command_eq
  refine ⟨⟨"createUser", u.credential.database, .ofDocument u.spelled⟩, ?_, rfl, rfl, ?_⟩
  · rw [Creation.request_eq, if_pos modern, command]
    rfl
  · have legible := u.commandDocument_eq ▸ u.isLegible_commandDocument
    exact Command.spells_of_sublist legible rfl u.keys_spelled_sublist (by decide)

theorem commands_spell_fields_of_unnamed_user :
    let u : NewUser := ⟨⟨none, some "admin", some "secret"⟩, true, some ⟨some .ofMajority⟩⟩
    u.Fits ∧ ∃ command : Command,
      Creation.request ⟨u, none⟩ .zero ⟨.localhost, some 2, -1⟩ = .ok (.command command) ∧
        command.body.read? = some [("createUser", .string ""),
          ("pwd", .string "fb8b687147ef59a64937eb03ba5b188c"), ("digestPassword", .boolean false),
          ("roles", .array [.string "readAnyDatabase"]),
          ("writeConcern", .document [("w", .string "majority")])] := by
  intro u
  have fits : u.Fits := by decide +kernel
  obtain ⟨users, -⟩ := commands_spell_fields
  obtain ⟨command, request, -, -, spells⟩ :=
    users u none .zero ⟨.localhost, some 2, -1⟩ (by decide) (.inr fits)
  have size : command.body.size < 2 ^ 31 := by
    rw [spells.body, ← u.commandDocument_eq]
    exact fits
  have digest : Hex.encode (Digest.md5 (Bytes.ofText ("" ++ ":mongo:" ++ "secret"))) =
      "fb8b687147ef59a64937eb03ba5b188c" := by decide +kernel
  refine ⟨fits, command, request, ?_⟩
  rw [← digest]
  exact spells.opens size

end UserProvision
