import UserProvision.Proofs.Creation.Inserts
import UserProvision.Proofs.Document.Field

/-!
# What a greeting settles

A greeting is read just if the whole document is well-formed and its wire version and its limit on
documents are each missing, null or an integer that fits. What it reports settles the description of
the server, and with it whether a user is created by a command or by an insert of that limit.
Whatever else the greeting holds has no say.

## Main definitions

* `RawDocument.WellFormed` — the documents that can be read to the end, on every level.
* `RawDocument.Greets` — what a greeting reports.
* `Description.Holds` — what a description holds of it.

## Main results

* `Description.ofGreeting_of_greets`, `Description.ofGreeting_of_not_greets` — reading a greeting.
* `Description.Holds.request_of_modern`, `Description.Holds.request_of_older` — what is built.
* `greeting_settles_strategy` — from a greeting to what is sent.
-/

namespace UserProvision

/-! ## Well-formed documents -/

/-- The document that a value holds. -/
def RawValue.inner? : RawValue → Option RawDocument
  | .scalar _ => none
  | .document d | .array d | .scopedCode _ d => some d

theorem RawValue.innerSize_of_inner? {v : RawValue} {d : RawDocument} (h : v.inner? = some d) :
    v.innerSize = d.size := by
  cases v <;> cases h <;> rfl

/-- Every element of a document can be split off, and so can those of every document in it. -/
inductive RawDocument.WellFormed : RawDocument → Prop
  | mk {d : RawDocument} (complete : d.elements.complete = true)
    (inner : ∀ e ∈ d.elements.items, ∀ d', e.value.inner? = some d' → d'.WellFormed) : d.WellFormed

/-- A value opens just if the document that it holds can be read, if it holds one. -/
theorem RawValue.opens_iff {v : RawValue} :
    (∃ w, v.read? = some w) ↔ ∀ d, v.inner? = some d → ∃ fields, d.read? = some fields := by
  cases v with
  | scalar s => simp [read?, inner?]
  | document d | array d | scopedCode source d => simp [read?, inner?, Option.map_eq_some_iff]

namespace RawDocument

theorem wellFormed_of_read? {d : RawDocument} {fields : Document} (h : d.read? = some fields) :
    d.WellFormed := by
  obtain ⟨complete, opens⟩ := read?_eq_some_iff.mp h
  refine .mk complete fun e he d' inner => ?_
  obtain ⟨f, -, opened⟩ := exists_mem_of_forall₂ opens he
  obtain ⟨w, read⟩ : ∃ w, e.value.read? = some w := by
    obtain ⟨read⟩ := opened
    exact ⟨_, read⟩
  obtain ⟨fields', h'⟩ := RawValue.opens_iff.mp ⟨w, read⟩ d' inner
  have shorter : d'.body.length < d.body.length := by
    have := innerSize_le he
    rw [RawValue.innerSize_of_inner? inner, size] at this
    omega
  exact wellFormed_of_read? h'
termination_by d.body.length

theorem WellFormed.exists_read? {d : RawDocument} (h : d.WellFormed) :
    ∃ fields, d.read? = some fields := by
  induction h with
  | @mk d complete _ ih =>
    have opens : ∀ e ∈ d.elements.items, ∃ f, e.Opens f := by
      intro e he
      obtain ⟨w, read⟩ := RawValue.opens_iff.mpr (ih e he)
      exact ⟨(e.key, w), .field read⟩
    obtain ⟨fields, opened⟩ := exists_forall₂_iff.mpr opens
    exact ⟨fields, read?_eq_some_iff.mpr ⟨complete, opened⟩⟩

end RawDocument

/-! ## Integers in a greeting -/

/-- The integer that a value stores, in either size. -/
inductive RawValue.Stores : RawValue → Int → Prop
  | int32 (n : Int32) : Stores (.scalar (.int32 n)) n.toInt
  | int64 (n : Int64) : Stores (.scalar (.int64 n)) n.toInt

theorem RawValue.Stores.bounds {v : RawValue} {n : Int} (h : v.Stores n) :
    -2 ^ 63 ≤ n ∧ n < 2 ^ 63 := by
  cases h with
  | int32 n =>
    have := n.le_toInt
    have := n.toInt_lt
    omega
  | int64 n => exact ⟨n.le_toInt, n.toInt_lt⟩

theorem RawValue.Stores.ne_null {v : RawValue} {n : Int} (h : v.Stores n) :
    Readable.scalar? v ≠ some .null := by
  cases h <;> exact nofun

/-- What the values under a key report: nothing if there is none or if it is null, else an integer
of some range. -/
inductive RawValue.Report (range : Int → Prop) : List RawValue → Option Int → Prop
  | missing : Report range [] none
  | null : Report range [.scalar .null] none
  | integer {v : RawValue} {n : Int} (stored : v.Stores n) (within : range n) :
    Report range [v] (some n)

/-- What a greeting says: its wire version and its limit on documents, as far as it reports them. -/
structure RawDocument.Greets (reply : RawDocument) (wire limit : Option Int) : Prop where
  wellFormed : reply.WellFormed
  wire : RawValue.Report (fun n => -2 ^ 31 ≤ n ∧ n < 2 ^ 31) (reply.values "maxWireVersion") wire
  limit : RawValue.Report (fun _ => True) (reply.values "maxBsonObjectSize") limit

namespace Field

theorem storedInt?_eq_some_iff_stores {v : RawValue} {n : Int} :
    storedInt? v = some n ↔ v.Stores n := by
  constructor
  · intro h
    obtain ⟨s, scalar, stored⟩ := Option.bind_eq_some_iff.mp h
    cases v with
    | document | array | scopedCode => cases scalar
    | scalar s' =>
      cases scalar
      unfold Scalar.storedInt? at stored
      split at stored
      · cases stored
        exact .int32 _
      · cases stored
        exact .int64 _
      · cases stored
  · rintro (_ | _) <;> rfl

theorem int32?_eq_some_iff_stores {v : RawValue} {n : Int32} :
    int32? v = some n ↔ v.Stores n.toInt := by
  rw [int32?_eq_some_iff_storedInt?, storedInt?_eq_some_iff_stores]

theorem int64?_eq_some_iff_stores {v : RawValue} {n : Int64} :
    int64? v = some n ↔ v.Stores n.toInt := by
  rw [int64?, Option.map_eq_some_iff]
  simp only [storedInt?_eq_some_iff_stores]
  constructor
  · rintro ⟨k, stored, rfl⟩
    obtain ⟨low, high⟩ := stored.bounds
    rwa [Int64.toInt_ofInt_of_le (by simpa using low) (by simpa using high)]
  · intro stored
    exact ⟨_, stored, Int64.ofInt_toInt n⟩

/-- What an optional integer reads is what its values report. -/
theorem optional_eq_some_iff_report {β : Type} {toInt : β → Int} {range : Int → Prop}
    {vs : List RawValue} {read : RawValue → Option β}
    (reads : ∀ {v b}, read v = some b ↔ v.Stores (toInt b)) (within : ∀ b, range (toInt b))
    {o : Option β} :
    optional read vs = some o ↔ RawValue.Report range vs (o.map toInt) := by
  unfold optional withDefault nullable
  constructor
  · intro h
    split at h
    · cases h
      exact .missing
    · rename_i v
      split at h
      · rename_i isNull
        cases h
        cases v with
        | scalar s =>
          cases isNull
          exact .null
        | document | array | scopedCode => cases isNull
      · obtain ⟨b, stored, rfl⟩ := Option.map_eq_some_iff.mp h
        exact .integer (reads.mp stored) (within b)
    · cases h
  · intro h
    generalize told : o.map toInt = m at h
    cases h with
    | missing =>
      rw [Option.map_eq_none_iff.mp told]
    | null =>
      rw [Option.map_eq_none_iff.mp told]
      rfl
    | @integer v _ stored =>
      obtain ⟨b, rfl, rfl⟩ := Option.map_eq_some_iff.mp told
      dsimp only
      rw [if_neg stored.ne_null, reads.mpr stored]
      rfl

/-- An optional field of an opened document can be read off the bytes. -/
theorem optional_opened {β : Type} {read : Value → Option β} {read' : RawValue → Option β}
    (same : ∀ {v w}, v.read? = some w → read' v = read w) {vs : List RawValue} {ws : List Value}
    (opens : List.Forall₂ (fun v w => v.read? = some w) vs ws) :
    optional read ws = optional read' vs := by
  rcases opens with _ | ⟨first, _ | _⟩
  · rfl
  · simp only [optional, withDefault, nullable, same first, RawValue.scalar?_of_read? first]
  · rfl

end Field

/-! ## Descriptions -/

namespace Description

/-- What a description of a server holds after its greeting. -/
structure Holds (d : Description) (address : Address) (wire limit : Option Int) : Prop where
  address : d.address = address
  wire : d.maxWireVersion.map Int32.toInt = wire
  limit : d.maxDocumentSize.toInt = limit.getD 16777216

variable {address : Address} {reply : RawDocument} {d : Description} {wire limit : Option Int}

/-- A greeting is opened as a whole, though only two of its fields are looked at. -/
theorem ofGreeting?_eq_some_iff :
    ofGreeting? address reply = some d ↔ ∃ wire size,
      reply.WellFormed ∧ Field.optional Field.int32? (reply.values "maxWireVersion") = some wire ∧
        Field.optional Field.int64? (reply.values "maxBsonObjectSize") = some size ∧
        d = ⟨address, wire, size.getD defaultMaxDocumentSize⟩ := by
  unfold ofGreeting?
  constructor
  · intro h
    obtain ⟨fields, read, h⟩ := Option.bind_eq_some_iff.mp h
    obtain ⟨wire, first, h⟩ := Option.bind_eq_some_iff.mp h
    obtain ⟨size, second, h⟩ := Option.bind_eq_some_iff.mp h
    cases h
    rw [Field.optional_opened Field.int32?_of_read? (RawDocument.opens_values read _)] at first
    rw [Field.optional_opened Field.int64?_of_read? (RawDocument.opens_values read _)] at second
    exact ⟨wire, size, RawDocument.wellFormed_of_read? read, first, second, rfl⟩
  · rintro ⟨wire, size, wellFormed, first, second, rfl⟩
    obtain ⟨fields, read⟩ := wellFormed.exists_read?
    rw [← Field.optional_opened Field.int32?_of_read? (RawDocument.opens_values read _)] at first
    rw [← Field.optional_opened Field.int64?_of_read? (RawDocument.opens_values read _)] at second
    simp [read, first, second]

theorem optional_int32_iff {vs : List RawValue} {o : Option Int32} :
    Field.optional Field.int32? vs = some o ↔
      RawValue.Report (fun n => -2 ^ 31 ≤ n ∧ n < 2 ^ 31) vs (o.map Int32.toInt) :=
  Field.optional_eq_some_iff_report Field.int32?_eq_some_iff_stores
    fun b => ⟨b.le_toInt, b.toInt_lt⟩

theorem optional_int64_iff {vs : List RawValue} {o : Option Int64} :
    Field.optional Field.int64? vs = some o ↔
      RawValue.Report (fun _ => True) vs (o.map Int64.toInt) :=
  Field.optional_eq_some_iff_report Field.int64?_eq_some_iff_stores fun _ => trivial

theorem exists_eq_map_of_report {β : Type} {toInt : β → Int} {range : Int → Prop}
    {vs : List RawValue} {m : Option Int} (h : RawValue.Report range vs m)
    (within : ∀ {v n}, RawValue.Stores v n → range n → ∃ b, toInt b = n) :
    ∃ o : Option β, o.map toInt = m := by
  cases h with
  | missing | null => exact ⟨none, rfl⟩
  | integer stored inRange =>
    obtain ⟨b, rfl⟩ := within stored inRange
    exact ⟨some b, rfl⟩

/-- A greeting that reports the two fields is read as it reports them. -/
theorem ofGreeting_of_greets (h : reply.Greets wire limit) (address : Address) :
    ∃ d, ofGreeting address reply = .ok d ∧ d.Holds address wire limit := by
  obtain ⟨version, rfl⟩ : ∃ o : Option Int32, o.map Int32.toInt = wire := by
    refine exists_eq_map_of_report h.wire fun _ ⟨low, high⟩ => ?_
    exact ⟨_, Int32.toInt_ofInt_of_le (by simpa using low) (by simpa using high)⟩
  obtain ⟨size, rfl⟩ : ∃ o : Option Int64, o.map Int64.toInt = limit := by
    refine exists_eq_map_of_report h.limit fun stored _ => ?_
    obtain ⟨low, high⟩ := stored.bounds
    exact ⟨_, Int64.toInt_ofInt_of_le (by simpa using low) (by simpa using high)⟩
  have read : ofGreeting? address reply =
      some ⟨address, version, size.getD defaultMaxDocumentSize⟩ :=
    ofGreeting?_eq_some_iff.mpr ⟨version, size, h.wellFormed, optional_int32_iff.mpr h.wire,
      optional_int64_iff.mpr h.limit, rfl⟩
  refine ⟨_, by rw [ofGreeting, read], rfl, rfl, ?_⟩
  cases size <;> rfl

/-- Any other greeting is an unreadable document. -/
theorem ofGreeting_of_not_greets (h : ∀ wire limit, ¬ reply.Greets wire limit) :
    ofGreeting address reply = .error (.ofKind .unreadableDocument) := by
  have unread : ofGreeting? address reply = none := by
    rw [Option.eq_none_iff_forall_ne_some]
    intro d read
    obtain ⟨version, size, wellFormed, first, second, rfl⟩ := ofGreeting?_eq_some_iff.mp read
    exact h _ _ ⟨wellFormed, optional_int32_iff.mp first, optional_int64_iff.mp second⟩
  rw [ofGreeting, unread]

/-- Nothing else in a greeting has a say, and neither has the order. -/
theorem ofGreeting_congr {reply' : RawDocument} (wellFormed : reply.WellFormed)
    (wellFormed' : reply'.WellFormed)
    (version : reply'.values "maxWireVersion" = reply.values "maxWireVersion")
    (limit : reply'.values "maxBsonObjectSize" = reply.values "maxBsonObjectSize") :
    ofGreeting address reply' = ofGreeting address reply := by
  have same : ofGreeting? address reply' = ofGreeting? address reply := by
    apply Option.ext
    intro d
    simp only [ofGreeting?_eq_some_iff, wellFormed, wellFormed', version, limit]
  rw [ofGreeting, ofGreeting, same]

/-! ## What is sent -/

theorem Holds.two_le_iff (h : d.Holds address wire limit) :
    2 ≤ d.maxWireVersion.getD 0 ↔ ∃ n, wire = some n ∧ 2 ≤ n := by
  rw [← h.wire]
  cases version : d.maxWireVersion with
  | none => simp
  | some v =>
    simp [Int32.le_iff_toInt_le]

variable {u : NewUser} {strategy : Option Strategy} {id : ObjectId}

/-- A server that reports the wire version of user commands is sent the command. -/
theorem Holds.request_of_modern (h : d.Holds address wire limit)
    (modern : ∃ n, wire = some n ∧ 2 ≤ n) (built : u.options = none ∨ u.Fits) :
    ∃ command : Command, Creation.request ⟨u, strategy⟩ id d = .ok (.command command) ∧
      command.name = "createUser" := by
  have command := built.elim NewUser.command_eq_of_options_eq_none NewUser.command_eq
  have request : Creation.request ⟨u, strategy⟩ id d = .ok (.command
      ⟨NewUser.commandName, u.credential.database, .ofDocument u.commandDocument⟩) := by
    rw [Creation.request_eq, if_pos (h.two_le_iff.mpr modern), command]
    rfl
  exact ⟨_, request, rfl⟩

/-- For any other server the user is inserted, if its document is within the limit. -/
theorem Holds.request_of_older (h : d.Holds address wire limit) (u : NewUser)
    (strategy : Option Strategy) (id : ObjectId) (older : ¬ ∃ n, wire = some n ∧ 2 ≤ n) :
    if (u.recordedSize : Int) ≤ limit.getD 16777216 then
      ∃ i : Insert, Creation.request ⟨u, strategy⟩ id d = .ok (.insert i) ∧
        i.Records (u.credential.source.getD "") (u.recorded id)
    else ∃ message, Creation.request ⟨u, strategy⟩ id d = .error (.invalidArgument message) := by
  have built : Creation.request ⟨u, strategy⟩ id d =
      (u.insert id d.maxDocumentSize).map .insert := by
    rw [Creation.request_eq, if_neg (mt h.two_le_iff.mp older)]
  rw [NewUser.insert_eq, NewUser.document_eq, NewUser.size_recorded, h.limit] at built
  split
  · rw [if_neg (by omega)] at built
    exact ⟨_, built, u.records_insert id⟩
  · rw [if_pos (by omega)] at built
    exact ⟨_, built⟩

/-- Only such a server is sent the command. -/
theorem Holds.request_eq_command_iff (h : d.Holds address wire limit)
    (built : u.options = none ∨ u.Fits) :
    (∃ command : Command, Creation.request ⟨u, strategy⟩ id d = .ok (.command command) ∧
      command.name = "createUser") ↔ ∃ n, wire = some n ∧ 2 ≤ n := by
  refine ⟨fun ⟨command, sent, _⟩ => ?_, fun modern => h.request_of_modern modern built⟩
  by_contra older
  have request := h.request_of_older u strategy id older
  split at request
  · obtain ⟨i, eq, -⟩ := request
    cases sent.symm.trans eq
  · obtain ⟨message, eq⟩ := request
    cases sent.symm.trans eq

/-- No such server is sent an insert, even if no command can be built. -/
theorem Holds.not_modern_of_insert (h : d.Holds address wire limit) {i : Insert}
    (sent : Creation.request ⟨u, strategy⟩ id d = .ok (.insert i)) :
    ¬ ∃ n, wire = some n ∧ 2 ≤ n := by
  intro modern
  rw [Creation.request_eq, if_pos (h.two_le_iff.mpr modern)] at sent
  cases command : u.command <;>
    · rw [command] at sent
      cases sent

end Description

/-- From a greeting to what is sent. A greeting is read just if it greets at all, and is otherwise
an unreadable document. The description holds the address that was given and what is reported, and
a user is then created by a command just if a wire version of two or more is reported; otherwise, and
only then, an insert is attempted, within the limit that is reported. Greetings that agree in the
two fields are read as the same. -/
theorem greeting_settles_strategy (address : Address) (reply : RawDocument) :
    (∀ wire limit, reply.Greets wire limit →
      ∃ d, Description.ofGreeting address reply = .ok d ∧ d.Holds address wire limit ∧
        ∀ (u : NewUser) (strategy : Option Strategy) (id : ObjectId),
          let c : Creation := ⟨u, strategy⟩
          (u.options = none ∨ u.Fits →
            ((∃ command : Command, c.request id d = .ok (.command command) ∧
              command.name = "createUser") ↔ ∃ n, wire = some n ∧ 2 ≤ n)) ∧
          (∀ i, c.request id d = .ok (.insert i) → ¬ ∃ n, wire = some n ∧ 2 ≤ n) ∧
          (¬ (∃ n, wire = some n ∧ 2 ≤ n) →
            if (u.recordedSize : Int) ≤ limit.getD 16777216 then
              ∃ i : Insert, c.request id d = .ok (.insert i) ∧
                i.Records (u.credential.source.getD "") (u.recorded id)
            else ∃ message, c.request id d = .error (.invalidArgument message))) ∧
    ((∀ wire limit, ¬ reply.Greets wire limit) →
      Description.ofGreeting address reply = .error (.ofKind .unreadableDocument)) ∧
    ∀ reply' : RawDocument, reply.WellFormed → reply'.WellFormed →
      reply'.values "maxWireVersion" = reply.values "maxWireVersion" →
      reply'.values "maxBsonObjectSize" = reply.values "maxBsonObjectSize" →
      Description.ofGreeting address reply' = Description.ofGreeting address reply := by
  refine ⟨fun wire limit greets => ?_, Description.ofGreeting_of_not_greets,
    fun reply' => Description.ofGreeting_congr⟩
  obtain ⟨d, read, holds⟩ := Description.ofGreeting_of_greets greets address
  exact ⟨d, read, holds, fun u strategy id =>
    ⟨holds.request_eq_command_iff, fun _ => holds.not_modern_of_insert,
      holds.request_of_older u strategy id⟩⟩

theorem greeting_settles_strategy_past_other_elements :
    let u : NewUser := ⟨⟨some "alice", some "app", none⟩, false, none⟩
    let newer := RawDocument.ofDocument
      [("maxWireVersion", .int64 2), ("maxBsonObjectSize", .int32 48), ("ok", .int32 1)]
    let reordered := RawDocument.ofDocument
      [("ok", .boolean true), ("ok", .array [.int32 1]), ("maxBsonObjectSize", .int32 48),
        ("maxWireVersion", .int64 2)]
    let garbled := RawDocument.ofDocument [("maxWireVersion", .int32 8), ("maxWireVersion", .null)]
    newer.Greets (some 2) (some 48) ∧
      (∃ d, Description.ofGreeting .localhost newer = .ok d ∧
        ∃ command : Command, Creation.request ⟨u, none⟩ .zero d = .ok (.command command) ∧
          command.name = "createUser") ∧
      reordered.WellFormed ∧
      Description.ofGreeting .localhost reordered = Description.ofGreeting .localhost newer ∧
      (∀ wire limit, ¬ garbled.Greets wire limit) ∧
      Description.ofGreeting .localhost garbled = .error (.ofKind .unreadableDocument) := by
  intro u newer reordered garbled
  have wellFormed {d : RawDocument} (read : d.read?.isSome = true) : d.WellFormed := by
    obtain ⟨fields, read⟩ := Option.isSome_iff_exists.mp read
    exact RawDocument.wellFormed_of_read? read
  have greets : newer.Greets (some 2) (some 48) := by
    have wire : newer.values "maxWireVersion" = [.scalar (.int64 2)] := by decide +kernel
    have limit : newer.values "maxBsonObjectSize" = [.scalar (.int32 48)] := by decide +kernel
    refine ⟨wellFormed (by decide +kernel), ?_, ?_⟩
    · rw [wire]
      exact .integer (.int64 2) (by decide)
    · rw [limit]
      exact .integer (.int32 48) trivial
  have fits : reordered.WellFormed := wellFormed (by decide +kernel)
  have other : ∀ wire limit, ¬ garbled.Greets wire limit := by
    intro wire limit greets
    have values : garbled.values "maxWireVersion" = [.scalar (.int32 8), .scalar .null] := by
      decide +kernel
    have report := greets.wire
    rw [values] at report
    cases report
  obtain ⟨reads, -, congr⟩ := greeting_settles_strategy .localhost newer
  obtain ⟨-, refuses, -⟩ := greeting_settles_strategy .localhost garbled
  obtain ⟨d, read, -, requests⟩ := reads _ _ greets
  exact ⟨greets, ⟨d, read, ((requests u none .zero).1 (.inl rfl)).mpr ⟨2, rfl, by decide⟩⟩, fits,
    congr reordered greets.wellFormed fits (by decide +kernel) (by decide +kernel), other,
    refuses other⟩

end UserProvision
