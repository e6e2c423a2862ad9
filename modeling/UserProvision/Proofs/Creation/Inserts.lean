import UserProvision.Proofs.Creation.Commands

/-!
# Users that are inserted

For a server without user commands the document of the user is inserted. What it takes is known from
the name and from whether there is a password, and just that decides whether the server's limit
admits it. The options have no say: a single server acknowledges the insert.

## Main definitions

* `NewUser.recorded` — the fields of the document.
* `Insert.Records` — the insert of one document into the users of a database.

## Main results

* `insert_within_limit` — when the insert can be built, and what it is.
-/

namespace UserProvision

/-- One document of some fields is inserted into the users of a database, and then their server is
asked whether it has acknowledged that. The document reads back as its fields if it fits the format,
whose sizes have 31 bits. -/
structure Insert.Records (i : Insert) (database : String) (fields : Document) : Prop where
  target : i.target = ⟨database, "system.users"⟩
  documents : i.documents = [.ofDocument fields]
  opens : (RawDocument.ofDocument fields).size < 2 ^ 31 →
    (RawDocument.ofDocument fields).read? = some fields
  writeConcern : i.writeConcern = { acknowledgers := some (.nodes 1) }
  outcome : ∃ command : Command, i.outcomeCommand = .ok command ∧ command.name = "getLastError" ∧
    command.database = database ∧
    command.body.read? = some [("getLastError", .int32 1), ("w", .int32 1)]

namespace NewUser

/-- The fields of the document that is inserted: an identifier, the name of the user, its password in
digested form, if it has one, and whether it may read only. -/
def recorded (u : NewUser) (id : ObjectId) : Document :=
  let name := u.credential.username.getD ""
  [("_id", .objectId id), ("user", .string name)] ++
    (u.credential.password.toList.map fun password =>
      ("pwd", .string (Hex.encode (Digest.md5 (Bytes.ofText (name ++ ":mongo:" ++ password)))))) ++
    [("readOnly", .boolean u.readOnly)]

/-- How many bytes the document takes. -/
def recordedSize (u : NewUser) : Nat :=
  44 + (u.credential.username.getD "").utf8ByteSize +
    if u.credential.password.isSome then 42 else 0

variable (u : NewUser) (id : ObjectId)

theorem document_eq : u.document id = u.recorded id := by
  rcases u with ⟨⟨username, source, _ | password⟩, readOnly, options⟩ <;> rfl

theorem size_recorded : (RawDocument.ofDocument (u.recorded id)).size = u.recordedSize := by
  rw [← document_eq, size_document]
  rfl

theorem isLegible_recorded : (u.recorded id).IsLegible := by
  have clean : ∀ k ∈ ["_id", "user", "pwd", "readOnly"], 0 ∉ Bytes.ofText k := by decide
  simp only [List.forall_mem_cons] at clean
  obtain ⟨h₁, h₂, h₃, h₄, -⟩ := clean
  have identifier : (Value.objectId id).IsLegible := .scalar trivial
  have text (s : String) : (Value.string s).IsLegible := .scalar trivial
  have boolean (b : Bool) : (Value.boolean b).IsLegible := .scalar trivial
  rcases u with ⟨⟨username, source, _ | password⟩, readOnly, options⟩ <;>
    simp [recorded, identifier, text, boolean, h₁, h₂, h₃, h₄]

end NewUser

theorem WriteConcern.toDocument_single : single.toDocument = [("w", .int32 1)] := by
  have one : Value.ofInt 1 = .int32 1 := if_pos (by decide)
  exact congrArg (fun v => [("w", v)]) one

/-- Only one server is asked, so the command for the outcome is the same for every such insert. -/
theorem Insert.exists_outcomeCommand_of_single {i : Insert} (single : i.writeConcern = .single) :
    ∃ command : Command, i.outcomeCommand = .ok command ∧ command.name = "getLastError" ∧
      command.database = i.target.database ∧
      command.body.read? = some [("getLastError", .int32 1), ("w", .int32 1)] := by
  have fields : i.spelled = [("getLastError", .int32 1), ("w", .int32 1)] := by
    rw [spelled, single, WriteConcern.toDocument_single]
  have size : (RawDocument.ofDocument i.spelled).size = 30 := by
    rw [fields]
    decide +kernel
  have fits : i.Fits := size.trans_lt (by decide)
  obtain ⟨command, built, name, database, spells⟩ := exists_outcomeCommand fits
  have opens := spells.opens (spells.body ▸ fits)
  exact ⟨command, built, name, database, fields ▸ opens⟩

theorem NewUser.records_insert (u : NewUser) (id : ObjectId) :
    Insert.Records ⟨.users u.credential.database, [.ofDocument (u.recorded id)], .single⟩
      (u.credential.source.getD "") (u.recorded id) where
  target := rfl
  documents := rfl
  opens fits := RawDocument.read?_ofDocument (u.isLegible_recorded id) (fits.le.trans (by decide))
  writeConcern := rfl
  outcome := Insert.exists_outcomeCommand_of_single rfl

/-- For a server without user commands the insert can be built just if the document of the user,
whose size is known from the name and from whether there is a password, is within the limit of the
server. It is the only document, has just its fields, takes just that many bytes, and is acknowledged
by one server. Otherwise the argument is invalid, and the next reply is read as before. -/
theorem insert_within_limit {d : Description} (older : ∀ v ∈ d.maxWireVersion, v < 2)
    (u : NewUser) (strategy : Option Strategy) (id : ObjectId) :
    let c : Creation := ⟨u, strategy⟩
    ((∃ request, c.request id d = .ok request) ↔
      (u.recordedSize : Int) ≤ d.maxDocumentSize.toInt) ∧
    (∀ request, c.request id d = .ok request →
      ∃ i : Insert, request = .insert i ∧
        i.Records (u.credential.source.getD "") (u.recorded id)) ∧
    (RawDocument.ofDocument (u.recorded id)).bytes.length = u.recordedSize ∧
    ∀ e, c.request id d = .error e →
      (∃ message, e = .invalidArgument message) ∧ c.afterBuild id d = c := by
  intro c
  have old : ¬ 2 ≤ d.maxWireVersion.getD 0 := by
    cases version : d.maxWireVersion with
    | none => decide
    | some v => exact Int32.not_le.mpr (older v version)
  have built : c.request id d = (u.insert id d.maxDocumentSize).map .insert := by
    rw [Creation.request_eq, if_neg old]
  rw [NewUser.insert_eq, NewUser.document_eq, NewUser.size_recorded] at built
  have bytes : (RawDocument.ofDocument (u.recorded id)).bytes.length = u.recordedSize := by
    rw [RawDocument.length_bytes, NewUser.size_recorded]
  by_cases within : (u.recordedSize : Int) ≤ d.maxDocumentSize.toInt
  · rw [if_neg (by omega)] at built
    refine ⟨iff_of_true ⟨_, built⟩ within, fun request eq => ?_, bytes, fun e eq => ?_⟩
    · obtain rfl := Except.ok.inj (built.symm.trans eq)
      exact ⟨_, rfl, u.records_insert id⟩
    · cases built.symm.trans eq
  · rw [if_pos (by omega)] at built
    refine ⟨iff_of_false ?_ within, fun request eq => ?_, bytes, fun e eq => ?_⟩
    · rintro ⟨request, eq⟩
      cases built.symm.trans eq
    · cases built.symm.trans eq
    · obtain rfl := Except.error.inj (built.symm.trans eq)
      exact ⟨⟨_, rfl⟩, Creation.afterBuild_of_error eq⟩

theorem insert_within_limit_to_the_byte :
    let u : NewUser := ⟨⟨some "é", some "app", some "secret"⟩, false, some ⟨some .ofMajority⟩⟩
    let c : Creation := ⟨u, some .command⟩
    let d (limit : Int64) : Description := ⟨.localhost, none, limit⟩
    u.recordedSize = 88 ∧
      (∃ i : Insert, c.request .zero (d 88) = .ok (.insert i) ∧
        i.writeConcern = { acknowledgers := some (.nodes 1) }) ∧
      (∃ message, c.request .zero (d 87) = .error (.invalidArgument message)) ∧
      c.afterBuild .zero (d 87) = c := by
  intro u c d
  have older (limit : Int64) : ∀ v ∈ (d limit).maxWireVersion, v < 2 := nofun
  have size : u.recordedSize = 88 := by decide
  obtain ⟨admitted, recorded, -, -⟩ := insert_within_limit (older 88) u (some .command) .zero
  obtain ⟨admitted', -, -, refused⟩ := insert_within_limit (older 87) u (some .command) .zero
  obtain ⟨request, built⟩ := admitted.mpr (by rw [size]; decide)
  obtain ⟨i, rfl, records⟩ := recorded request built
  cases unbuilt : c.request .zero (d 87) with
  | ok request =>
    have := admitted'.mp ⟨request, unbuilt⟩
    rw [size] at this
    exact absurd this (by decide)
  | error e =>
    obtain ⟨⟨message, rfl⟩, same⟩ := refused e unbuilt
    exact ⟨size, ⟨i, built, records.writeConcern⟩, ⟨message, rfl⟩, same⟩

end UserProvision
