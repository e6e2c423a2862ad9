import UserProvision.Creation.NewUser
import UserProvision.Proofs.Creation.History
import UserProvision.Proofs.User.WriteConcern

/-!
# Replacing the options of a user to be created

Options are replaced as a whole, any number of times. Those that ask nobody to acknowledge the write
are refused and change nothing; of those that are accepted the last ones count, without a write
concern that says nothing. So whatever was tried, the command asks for an acknowledgment exactly if
the last accepted options did, and never in a way that means none.

## Main definitions

* `CreationOptions.IsAcceptable` — which options are accepted.
* `NewUser.afterAttempts` — a user after some attempts to replace its options.

## Main results

* `NewUser.afterAttempts_eq` — what is left of some attempts.
* `NewUser.exists_command` — the command reads back as the fields that it was built from.
* `accepted_options_reach_command` — both, from the credential to the command.
-/

namespace UserProvision

namespace Credential

theorem validate_eq_ok_iff {c : Credential} :
    c.validate = .ok () ↔
      (∃ source, c.source = some source ∧ source ≠ "") ∧
        ∃ username, c.username = some username ∧ username ≠ "" := by
  rcases c with ⟨username, source, password⟩
  unfold validate name
  dsimp only
  split
  · simp
  · simp
  · rename_i text present
    cases username <;> grind

theorem validate_eq_error {c : Credential} (h : c.validate ≠ .ok ()) :
    ∃ message, c.validate = .error (.invalidArgument message) := by
  unfold validate at h ⊢
  split
  · exact ⟨_, rfl⟩
  · exact ⟨_, rfl⟩
  · rename_i text present source
    rw [source] at h
    split
    · exact ⟨_, rfl⟩
    · rename_i named
      simp [named] at h

end Credential

/-! ## Which options are accepted -/

namespace WriteConcern

theorem isEmpty_iff {w : WriteConcern} : w.isEmpty = true ↔ w = {} := by
  rcases w with ⟨_ | _, _ | _, _ | _⟩ <;> simp [isEmpty]

theorem asksNobody_iff {w : WriteConcern} :
    w.asksNobody = true ↔ w.acknowledgers = some (.nodes 0) :=
  beq_iff_eq

end WriteConcern

namespace CreationOptions

/-- Options are accepted unless their write concern asks no server at all. -/
def IsAcceptable (o : Option CreationOptions) : Prop :=
  ∀ w ∈ o.bind writeConcern, w.acknowledgers ≠ some (.nodes 0)

instance (o : Option CreationOptions) : Decidable (IsAcceptable o) :=
  inferInstanceAs (Decidable (∀ w ∈ o.bind writeConcern, w.acknowledgers ≠ some (.nodes 0)))

theorem withoutEmpty_eq (o : CreationOptions) :
    o.withoutEmpty = ⟨o.writeConcern.filter (· ≠ {})⟩ := by
  have same (w : WriteConcern) : (!w.isEmpty) = decide (w ≠ {}) := by
    rw [Bool.eq_iff_iff, Bool.not_eq_true', decide_eq_true_eq, Bool.eq_false_iff, ne_eq,
      WriteConcern.isEmpty_iff]
  simp only [withoutEmpty, same]

end CreationOptions

open CreationOptions (IsAcceptable)

namespace NewUser

theorem ofCredential_eq_ok_iff {c : Credential} {readOnly : Bool} {u : NewUser} :
    ofCredential c readOnly = .ok u ↔ c.validate = .ok () ∧ u = ⟨c, readOnly, none⟩ := by
  unfold ofCredential
  cases c.validate with
  | ok => exact ⟨fun h => ⟨rfl, (Except.ok.inj h).symm⟩, fun h => congrArg Except.ok h.2.symm⟩
  | error e => exact ⟨nofun, nofun⟩

theorem ofCredential_eq_error_iff {c : Credential} {readOnly : Bool} {e : Error} :
    ofCredential c readOnly = .error e ↔ c.validate = .error e := by
  unfold ofCredential
  cases c.validate with
  | ok => exact ⟨nofun, nofun⟩
  | error e' => exact ⟨fun h => congrArg Except.error (Except.error.inj h), fun h => h ▸ rfl⟩

/-- A user after some attempts to replace its options, each of them at the user that the last
accepted one has left. -/
def afterAttempts (u : NewUser) (attempts : List (Option CreationOptions)) : NewUser :=
  attempts.foldl attempt u

/-- The last of some attempts that was accepted. -/
def lastAccepted (attempts : List (Option CreationOptions)) : Option (Option CreationOptions) :=
  (attempts.filter (IsAcceptable ·)).getLast?

theorem checkOptions_of_acceptable {o : Option CreationOptions} (h : IsAcceptable o) :
    checkOptions o = .ok () := by
  unfold checkOptions
  split
  · rfl
  · rename_i w present
    have asks : w.asksNobody = false := by
      rw [Bool.eq_false_iff]
      exact WriteConcern.asksNobody_iff.not.mpr (h w present)
    simp [WriteConcern.validate, WriteConcern.isAcknowledged, asks]

theorem checkOptions_of_not_acceptable {o : Option CreationOptions} (h : ¬ IsAcceptable o) :
    ∃ message, checkOptions o = .error (.invalidArgument message) := by
  unfold IsAcceptable at h
  push Not at h
  obtain ⟨w, present, nobody⟩ := h
  rw [← WriteConcern.asksNobody_iff] at nobody
  unfold checkOptions
  rw [present]
  dsimp only
  -- Waiting for the journal is looked at first, so it decides which of the two refusals it is.
  by_cases journal : (w.journal == some true) = true
  · simp [WriteConcern.validate, nobody, journal]
  · rw [Bool.not_eq_true] at journal
    simp [WriteConcern.validate, WriteConcern.isAcknowledged, nobody, journal]

variable {u : NewUser} {o : Option CreationOptions}

theorem withOptions_of_acceptable (h : IsAcceptable o) :
    u.withOptions o = .ok { u with options := o.map CreationOptions.withoutEmpty } := by
  rw [withOptions, checkOptions_of_acceptable h]
  rfl

theorem withOptions_of_not_acceptable (h : ¬ IsAcceptable o) :
    ∃ message, u.withOptions o = .error (.invalidArgument message) := by
  obtain ⟨message, refused⟩ := checkOptions_of_not_acceptable h
  refine ⟨message, ?_⟩
  rw [withOptions, refused]
  rfl

theorem attempt_of_acceptable (h : IsAcceptable o) :
    u.attempt o = { u with options := o.map CreationOptions.withoutEmpty } := by
  rw [attempt, withOptions_of_acceptable h]
  rfl

theorem attempt_of_not_acceptable (h : ¬ IsAcceptable o) : u.attempt o = u := by
  obtain ⟨message, refused⟩ := withOptions_of_not_acceptable (u := u) h
  rw [attempt, refused]
  rfl

/-! ## What attempts leave -/

/-- A user keeps its credential and its rights, and has the options of the last attempt that was
accepted, if one was. -/
theorem afterAttempts_eq (u : NewUser) (attempts : List (Option CreationOptions)) :
    u.afterAttempts attempts = { u with
      options := ((lastAccepted attempts).map (·.map CreationOptions.withoutEmpty)).getD u.options } := by
  induction attempts generalizing u with
  | nil => rfl
  | cons o attempts ih =>
    rw [afterAttempts, List.foldl_cons, ← afterAttempts, ih, lastAccepted, lastAccepted,
      List.filter_cons]
    by_cases accepted : IsAcceptable o
    · rw [attempt_of_acceptable accepted, if_pos (decide_eq_true accepted), List.getLast?_cons]
      cases (attempts.filter (IsAcceptable ·)).getLast? <;> rfl
    · rw [attempt_of_not_acceptable accepted, if_neg (by simpa using accepted)]

/-- The write concern of a user, if it has one, says something and asks somebody. -/
def IsSound (u : NewUser) : Prop :=
  ∀ w ∈ u.options.bind CreationOptions.writeConcern,
    w ≠ {} ∧ w.acknowledgers ≠ some (.nodes 0)

theorem IsSound.attempt (h : u.IsSound) (o : Option CreationOptions) : (u.attempt o).IsSound := by
  by_cases accepted : IsAcceptable o
  · rw [attempt_of_acceptable accepted]
    intro w present
    obtain ⟨o', options, kept⟩ := Option.bind_eq_some_iff.mp present
    obtain ⟨given, rfl, rfl⟩ := Option.map_eq_some_iff.mp options
    rw [CreationOptions.withoutEmpty_eq, Option.filter_eq_some_iff] at kept
    exact ⟨of_decide_eq_true kept.2, accepted w kept.1⟩
  · rw [attempt_of_not_acceptable accepted]
    exact h

theorem IsSound.afterAttempts (h : u.IsSound) (attempts : List (Option CreationOptions)) :
    (u.afterAttempts attempts).IsSound := by
  induction attempts generalizing u with
  | nil => exact h
  | cons o attempts ih => exact ih (h.attempt o)

/-- A write concern that a user has kept is acknowledged. -/
theorem IsSound.acknowledged (h : u.IsSound) {o : CreationOptions} (ho : o ∈ u.options)
    {w : WriteConcern} (hw : w ∈ o.writeConcern) :
    w.isEmpty = false ∧ w.isAcknowledged = true ∧ w.acknowledgers ≠ some (.nodes 0) := by
  obtain ⟨something, asks⟩ := h w (Option.bind_eq_some_iff.mpr ⟨o, ho, hw⟩)
  have empty : w.isEmpty = false := by
    rw [Bool.eq_false_iff]
    exact WriteConcern.isEmpty_iff.not.mpr something
  have nobody : w.asksNobody = false := by
    rw [Bool.eq_false_iff]
    exact WriteConcern.asksNobody_iff.not.mpr asks
  exact ⟨empty, by simp [WriteConcern.isAcknowledged, nobody], asks⟩

/-! ## The command -/

theorem values_commandDocument (u : NewUser) :
    u.commandDocument.values "writeConcern" =
      (u.options.bind CreationOptions.writeConcern).toList.map (.document ·.toDocument) := by
  have own : u.commandFields.values "writeConcern" = [] := by
    unfold commandFields
    cases u.credential.passwordDigest <;> simp [Document.values, commandName]
  rw [commandDocument, Document.values_append, own, List.nil_append, optionFields]
  rcases u.options with _ | ⟨_ | w⟩ <;>
    simp [CreationOptions.toDocument, WriteConcern.field, Document.values]

/-- The write concern of a command, if it has one, says something and asks somebody. -/
theorem IsSound.sent (h : u.IsSound) {v : Value} (hv : v ∈ u.commandDocument.values "writeConcern") :
    ∃ d : Document, v = .document d ∧ d ≠ [] ∧ ∀ x ∈ d.values "w", x.integer? ≠ some 0 := by
  rw [values_commandDocument] at hv
  obtain ⟨w, hw, rfl⟩ := List.mem_map.mp hv
  obtain ⟨something, asks⟩ := h w (Option.mem_toList.mp hw)
  refine ⟨w.toDocument, rfl, WriteConcern.toDocument_eq_nil_iff.not.mpr something, ?_⟩
  intro x hx
  rw [WriteConcern.values_w] at hx
  obtain ⟨a, ha, rfl⟩ := List.mem_map.mp hx
  refine a.spells_toValue.integer?_ne_zero ?_
  rintro rfl
  exact asks (Option.mem_toList.mp ha)

theorem isLegible_commandDocument (u : NewUser) : u.commandDocument.IsLegible := by
  have text (s : String) : (Value.string s).IsLegible := .scalar trivial
  have boolean (b : Bool) : (Value.boolean b).IsLegible := .scalar trivial
  have role (s : String) : (Value.array [.string s]).IsLegible :=
    .array fun v hv => List.mem_singleton.mp hv ▸ text s
  have values : ∀ f ∈ u.commandDocument, f.2.IsLegible := by
    unfold commandDocument commandFields optionFields CreationOptions.toDocument
      WriteConcern.field
    rcases u.options with _ | ⟨_ | w⟩ <;> cases u.credential.passwordDigest <;>
      simp [text, boolean, role, WriteConcern.isLegible_document]
  exact fun f hf => ⟨(u.isRegular_commandDocument f hf).1, values f hf⟩

/-- For a server with user commands a command is built, and reads back as its fields. -/
theorem exists_command (fits : u.Fits) {d : Description} (modern : 2 ≤ d.maxWireVersion.getD 0)
    (strategy : Option Strategy) (id : ObjectId) :
    ∃ command : Command, Creation.request ⟨u, strategy⟩ id d = .ok (.command command) ∧
      command.body.read? = some u.commandDocument := by
  refine ⟨⟨commandName, u.credential.database, .ofDocument u.commandDocument⟩, ?_, ?_⟩
  · rw [Creation.request_eq, if_pos modern, command_eq fits]
    rfl
  · exact RawDocument.read?_ofDocument u.isLegible_commandDocument (fits.le.trans (by decide))

end NewUser

/-- From a credential through any attempts to replace the options to the command. A user can be
described exactly if the credential has a database and a name, and keeps both and its rights. An
attempt is accepted unless it asks no server at all, and is otherwise refused and changes nothing.
The options are those of the last attempt that was accepted, without a write concern that says
nothing, so that a write concern that is kept says something and is acknowledged. The command has a
write concern just if those options have, and that is neither empty nor asks for zero servers. It
reads back from its bytes if it fits the format, whose sizes have 31 bits. -/
theorem accepted_options_reach_command (c : Credential) (readOnly : Bool) :
    ((∃ u, NewUser.ofCredential c readOnly = .ok u) ↔
      (∃ source, c.source = some source ∧ source ≠ "") ∧
        ∃ username, c.username = some username ∧ username ≠ "") ∧
    (∀ e, NewUser.ofCredential c readOnly = .error e → ∃ message, e = .invalidArgument message) ∧
    ∀ u₀, NewUser.ofCredential c readOnly = .ok u₀ → ∀ attempts : List (Option CreationOptions),
      let u := u₀.afterAttempts attempts
      let last := NewUser.lastAccepted attempts
      u = ⟨c, readOnly, last.bind (·.map fun o => ⟨o.writeConcern.filter (· ≠ {})⟩)⟩ ∧
      (∀ o, IsAcceptable o → u.withOptions o = .ok (u.attempt o)) ∧
      (∀ o, ¬ IsAcceptable o →
        (∃ message, u.withOptions o = .error (.invalidArgument message)) ∧ u.attempt o = u) ∧
      (∀ o ∈ u.options, ∀ w ∈ o.writeConcern,
        w.isEmpty = false ∧ w.isAcknowledged = true ∧ w.acknowledgers ≠ some (.nodes 0)) ∧
      (u.commandDocument.values "writeConcern" ≠ [] ↔
        ∃ o w, last = some (some o) ∧ o.writeConcern = some w ∧ w ≠ {}) ∧
      (∀ v ∈ u.commandDocument.values "writeConcern", ∃ d : Document, v = .document d ∧ d ≠ [] ∧
        ∀ x ∈ d.values "w", x.integer? ≠ some 0) ∧
      ∀ strategy id d, 2 ≤ d.maxWireVersion.getD 0 → u.Fits →
        ∃ command : Command, Creation.request ⟨u, strategy⟩ id d = .ok (.command command) ∧
          command.body.read? = some u.commandDocument := by
  refine ⟨?_, fun e refused => ?_, fun u₀ start attempts => ?_⟩
  · simp [NewUser.ofCredential_eq_ok_iff, Credential.validate_eq_ok_iff]
  · have invalid := NewUser.ofCredential_eq_error_iff.mp refused
    obtain ⟨message, eq⟩ := Credential.validate_eq_error (c := c) (by simp [invalid])
    exact ⟨message, Except.error.inj (invalid.symm.trans eq)⟩
  obtain ⟨-, rfl⟩ := NewUser.ofCredential_eq_ok_iff.mp start
  intro u last
  have left : u = ⟨c, readOnly, last.bind (·.map fun o => ⟨o.writeConcern.filter (· ≠ {})⟩)⟩ := by
    have eq := NewUser.afterAttempts_eq ⟨c, readOnly, none⟩ attempts
    rw [funext CreationOptions.withoutEmpty_eq] at eq
    simp only [u, last, eq]
    cases NewUser.lastAccepted attempts <;> rfl
  have sound : u.IsSound := by
    have none : NewUser.IsSound ⟨c, readOnly, none⟩ := by simp [NewUser.IsSound]
    exact none.afterAttempts attempts
  refine ⟨left, fun o accepted => ?_, fun o refused => ?_, fun o ho w hw => sound.acknowledged ho hw,
    ?_, fun v hv => sound.sent hv,
    fun strategy id d modern fits => NewUser.exists_command fits modern strategy id⟩
  · rw [NewUser.attempt_of_acceptable accepted, NewUser.withOptions_of_acceptable accepted]
  · exact ⟨NewUser.withOptions_of_not_acceptable refused,
      NewUser.attempt_of_not_acceptable refused⟩
  · rw [NewUser.values_commandDocument, left]
    cases last with
    | none => simp
    | some o =>
      rcases o with _ | ⟨_ | w⟩
      · simp
      · simp
      · by_cases empty : w = {} <;> simp [empty]

theorem accepted_options_reach_command_past_refusal :
    let c : Credential := ⟨some "alice", some "app", some "secret"⟩
    let tagged : CreationOptions := ⟨some ⟨some (.tagged "east"), none, some true⟩⟩
    let unasked : CreationOptions := ⟨some ⟨some (.nodes 0), none, some true⟩⟩
    let u₀ : NewUser := ⟨c, false, none⟩
    let u := u₀.afterAttempts [some ⟨some {}⟩, some tagged, some unasked]
    NewUser.ofCredential c false = .ok u₀ ∧ u.options = some tagged ∧ u.Fits ∧
      ∃ command : Command,
        Creation.request ⟨u, none⟩ .zero ⟨.localhost, some 2, 16777216⟩ = .ok (.command command) ∧
        ∃ fields, command.body.read? = some fields ∧ fields.values "writeConcern" ≠ [] := by
  intro c tagged unasked u₀ u
  have start : NewUser.ofCredential c false = .ok u₀ := rfl
  obtain ⟨-, -, reached⟩ := accepted_options_reach_command c false
  obtain ⟨left, -, -, -, present, -, built⟩ :=
    reached u₀ start [some ⟨some {}⟩, some tagged, some unasked]
  have fits : u.Fits := by decide +kernel
  obtain ⟨command, request, opens⟩ := built none .zero ⟨.localhost, some 2, 16777216⟩ (by decide) fits
  refine ⟨start, congrArg NewUser.options left, fits, command, request, _, opens, ?_⟩
  exact present.mpr ⟨tagged, _, rfl, rfl, nofun⟩

end UserProvision
