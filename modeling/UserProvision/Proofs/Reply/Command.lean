import UserProvision.Creation.Basic
import UserProvision.Proofs.Reply.WriteConcern

/-!
# What a reply to the command amounts to

`CommandReply.Amounts` gives the rules, over the opened fields of a reply. They are complete and
leave no choice, so they tell exactly what a reply amounts to.

## Main results

* `CommandReply.acknowledgment_eq_iff` — a reply is read by these rules.
* `command_reply_settled` — the same for a creation whose last request was a command.
* `lenient_reading_decides` — a refusal is what its lenient reading makes of it.
-/

namespace UserProvision

open UserProvision.Field

namespace CommandReply

variable {reply : RawDocument} {fields : Document} {r : CommandReply}

/-- What a reply to the command amounts to. -/
inductive Amounts (reply : RawDocument) : Except Error Event → Prop
  /-- The reply does not read as one to a command. -/
  | unreadable (h : ∀ fields r, ¬ Reads reply fields r) : Amounts reply (.error .unreadableReply)
  /-- The server refused the command. -/
  | refused {fields : Document} {r : CommandReply} {e : Error} (h : Reads reply fields r)
    (notOk : r.ok.integer? ≠ some 1) (describes : Refusal.Describes fields e) :
    Amounts reply (.error e)
  /-- The server refused the command, but its refusal cannot be read. -/
  | garbledRefusal {fields : Document} {r : CommandReply} (h : Reads reply fields r)
    (notOk : r.ok.integer? ≠ some 1) (garbled : Refusal.IsGarbled fields) :
    Amounts reply (.error .unreadableReply)
  /-- The command was carried out, but not acknowledged as it was asked to be. -/
  | unacknowledged {fields : Document} {r : CommandReply} {e : WriteConcernError}
    {labels : Option (List String)} (h : Reads reply fields r) (ok : r.ok.integer? = some 1)
    (hfailed : Told WriteConcernError.Describes (fields.values "writeConcernError") (some e))
    (hlabels : Told Value.IsTexts (fields.values "errorLabels") labels) :
    Amounts reply (.error (.labelled (.writeConcern e) (labels.getD [])))
  /-- The command was carried out, but what is said about its write concern cannot be read. -/
  | garbledAcknowledgment {fields : Document} {r : CommandReply} (h : Reads reply fields r)
    (ok : r.ok.integer? = some 1)
    (garbled : Garbled WriteConcernError.Describes (fields.values "writeConcernError") ∨
      Garbled Value.IsTexts (fields.values "errorLabels")) :
    Amounts reply (.error .unreadableReply)
  /-- The command was carried out. -/
  | accepted {fields : Document} {r : CommandReply} {labels : Option (List String)}
    (h : Reads reply fields r) (ok : r.ok.integer? = some 1)
    (hfailed : Told WriteConcernError.Describes (fields.values "writeConcernError") none)
    (hlabels : Told Value.IsTexts (fields.values "errorLabels") labels) :
    Amounts reply (.ok (.userCreated r.rest.relaxed))

/-- Every reply amounts to something. -/
theorem exists_amounts (reply : RawDocument) : ∃ o, Amounts reply o := by
  by_cases reads : ∃ fields r, Reads reply fields r
  · obtain ⟨fields, r, h⟩ := reads
    by_cases ok : r.ok.integer? = some 1
    · rcases told_or_garbled WriteConcernError.Describes (fields.values "writeConcernError") with
        ⟨failed, told⟩ | garbled
      · rcases told_or_garbled Value.IsTexts (fields.values "errorLabels") with
          ⟨labels, told'⟩ | garbled
        · cases failed with
          | none => exact ⟨_, .accepted h ok told told'⟩
          | some e => exact ⟨_, .unacknowledged h ok told told'⟩
        · exact ⟨_, .garbledAcknowledgment h ok (.inr garbled)⟩
      · exact ⟨_, .garbledAcknowledgment h ok (.inl garbled)⟩
    · rcases Refusal.exists_describes_or_isGarbled h with ⟨e, describes⟩ | garbled
      · exact ⟨_, .refused h ok describes⟩
      · exact ⟨_, .garbledRefusal h ok garbled⟩
  · exact ⟨_, .unreadable fun fields r h => reads ⟨fields, r, h⟩⟩

/-- Whatever is read of a reply, the reply opens with all that is in it. -/
theorem reads_of_outcome? {o : Except Error Document} (h : outcome? reply = some o) :
    ∃ fields r, Reads reply fields r := by
  obtain ⟨r, read, h⟩ := Option.bind_eq_some_iff.mp h
  obtain ⟨p, first, -⟩ := Option.bind_eq_some_iff.mp read
  -- The first reading skips `ok`, and every reading that may follow skips another key or none.
  have opens : ∃ fields, reply.read? = some fields := by
    split at h
    · obtain ⟨_, failed, -⟩ := Option.bind_eq_some_iff.mp h
      obtain ⟨p', second, -⟩ := Option.bind_eq_some_iff.mp failed
      exact RawDocument.read?_of_readExcept? (by decide) first second
    · obtain ⟨e, refused, -⟩ := Option.bind_eq_some_iff.mp h
      cases strict : Refusal.strict? reply with
      | some e' =>
        obtain ⟨fields, opens, -⟩ := Option.bind_eq_some_iff.mp strict
        exact ⟨fields, opens⟩
      | none =>
        rw [strict] at refused
        obtain ⟨p', second, -⟩ := Option.bind_eq_some_iff.mp refused
        exact RawDocument.read?_of_readExcept? (by decide) first second
  obtain ⟨fields, opens⟩ := opens
  exact ⟨fields, r, (reads_iff opens).mpr read⟩

theorem outcome?_of_refused (read : ofReply? reply = some r) (notOk : r.ok.integer? ≠ some 1) :
    outcome? reply = (Refusal.lenient? reply).map .error := by
  have refused : ¬ r.isSuccess = true := isOk_iff.not.mpr notOk
  rw [outcome?, read, Option.bind_eq_bind, Option.bind_some, if_neg refused,
    Refusal.strict?_or_lenient? read]
  cases Refusal.lenient? reply <;> rfl

theorem outcome?_of_ok (h : Reads reply fields r) (ok : r.ok.integer? = some 1) :
    outcome? reply = (WriteConcernError.ofReply? reply).map fun failed =>
      failed.elim (.ok r.rest) .error := by
  have success : r.isSuccess = true := isOk_iff.mpr ok
  rw [outcome?, h.ofReply?_eq, Option.bind_eq_bind, Option.bind_some, if_pos success]
  rcases WriteConcernError.ofReply? reply with _ | _ | _ <;> rfl

theorem acknowledgment_of_outcome? {o : Option (Except Error Document)}
    (h : outcome? reply = o) :
    Strategy.command.acknowledgment reply =
      (o.getD (.error .unreadableReply)).map fun rest => .userCreated rest.relaxed := by
  rw [Strategy.acknowledgment, outcome, h]

theorem acknowledgment_of_amounts {o : Except Error Event} (h : Amounts reply o) :
    Strategy.command.acknowledgment reply = o := by
  cases h with
  | unreadable unread =>
    refine acknowledgment_of_outcome? (Option.eq_none_iff_forall_ne_some.mpr fun o eq => ?_)
    obtain ⟨fields, r, h⟩ := reads_of_outcome? eq
    exact unread fields r h
  | refused h notOk describes =>
    rw [acknowledgment_of_outcome? (outcome?_of_refused h.ofReply?_eq notOk),
      (Refusal.lenient?_eq_some_iff h).mpr describes]
    rfl
  | garbledRefusal h notOk garbled =>
    rw [acknowledgment_of_outcome? (outcome?_of_refused h.ofReply?_eq notOk),
      Refusal.lenient?_of_isGarbled h garbled]
    rfl
  | unacknowledged h ok hfailed hlabels | accepted h ok hfailed hlabels =>
    rw [acknowledgment_of_outcome? (outcome?_of_ok h ok),
      (WriteConcernError.ofReply?_eq_some_iff h).mpr ⟨_, _, hfailed, hlabels, rfl⟩]
    rfl
  | garbledAcknowledgment h ok garbled =>
    rw [acknowledgment_of_outcome? (outcome?_of_ok h ok),
      WriteConcernError.ofReply?_of_garbled h garbled]
    rfl

/-- The rules tell exactly what a reply amounts to. -/
theorem acknowledgment_eq_iff {o : Except Error Event} :
    Strategy.command.acknowledgment reply = o ↔ Amounts reply o := by
  constructor
  · rintro rfl
    obtain ⟨o, amounts⟩ := exists_amounts reply
    rw [acknowledgment_of_amounts amounts]
    exact amounts
  · exact acknowledgment_of_amounts

end CommandReply

/-! ## After a command was built -/

/-- The labels of an error are those it was given, whatever their order and however often. -/
theorem Error.hasLabel_labelled {kind : Kind} {labels : List String} {label : String} :
    (Error.labelled kind labels).hasLabel label = true ↔ label ∈ labels :=
  List.contains_iff_mem.trans Labels.mem_ofList

/-- Once a command was built for a server with user commands, every reply is settled by the rules,
and an error has just the labels that the reply gives. -/
theorem command_reply_settled {c : Creation} {id : ObjectId} {d : Description} {request : Request}
    (built : c.request id d = .ok request) (commands : d.hasUserCommands = true)
    (reply : RawDocument) (o : Except Error Event) :
    ((c.afterBuild id d).handleReply reply = o ↔ CommandReply.Amounts reply o) ∧
      ∀ kind labels label, (Error.labelled kind labels).hasLabel label = true ↔ label ∈ labels := by
  have strategy : (c.afterBuild id d).strategy = some .command := by
    rw [Creation.afterBuild, built, Strategy.forServer, if_pos commands]
  rw [Creation.handleReply, strategy]
  exact ⟨CommandReply.acknowledgment_eq_iff, fun _ _ _ => Error.hasLabel_labelled⟩

theorem command_reply_settled_without_permission :
    let c : Creation := ⟨⟨⟨some "alice", some "app", none⟩, false, none⟩, none⟩
    let d : Description := ⟨.localhost, some 8, 16777216⟩
    let reply := RawDocument.ofDocument
      [("ok", .int32 0), ("code", .int64 13), ("errmsg", .string "no")]
    (∃ request, c.request .zero d = .ok request) ∧ d.hasUserCommands = true ∧
      CommandReply.Amounts reply (.error (.labelled (.command ⟨13, "", "no"⟩) [])) := by
  intro c d reply
  have built : ∃ request, c.request .zero d = .ok request := ⟨_, rfl⟩
  obtain ⟨request, built'⟩ := built
  have settled := command_reply_settled built' rfl reply
    (.error (.labelled (.command ⟨13, "", "no"⟩) []))
  exact ⟨⟨request, built'⟩, rfl, settled.1.mp rfl⟩

/-- Plain binary data in UTF-8 pass for a text: this refusal is read, although its `codeName` is no
string. -/
theorem binary_code_name_is_read :
    let c : Creation := ⟨⟨⟨some "alice", some "app", none⟩, false, none⟩, none⟩
    let d : Description := ⟨.localhost, some 8, 16777216⟩
    let fields : Document :=
      [("ok", .int32 0), ("code", .int32 9), ("codeName", .scalar (.binary 0 [0x43]))]
    (∃ request, c.request .zero d = .ok request) ∧ d.hasUserCommands = true ∧
      (RawDocument.ofDocument fields).read? = some fields ∧
      (∃ v, fields.values "codeName" = [v] ∧ v ≠ .null ∧ ∀ text, v ≠ .string text) ∧
      (c.afterBuild .zero d).handleReply (.ofDocument fields) =
        .error (.labelled (.command ⟨9, "C", ""⟩) []) := by
  refine ⟨⟨_, rfl⟩, rfl, rfl, ⟨.scalar (.binary 0 [0x43]), rfl, ?_, fun text => ?_⟩, rfl⟩
  · nofun
  · nofun

/-! ## The readings of a refusal -/

theorem CommandReply.acknowledgment_of_refused {reply : RawDocument} {r : CommandReply}
    (read : ofReply? reply = some r) (notOk : r.ok.integer? ≠ some 1) :
    Strategy.command.acknowledgment reply =
      .error ((Refusal.lenient? reply).getD .unreadableReply) := by
  rw [acknowledgment_of_outcome? (outcome?_of_refused read notOk)]
  cases Refusal.lenient? reply <;> rfl

/-- The strict reading of a refusal goes first but has no say. Wherever it succeeds, the lenient
reading makes the same error, and the reply is unreadable just if the lenient reading fails. -/
theorem lenient_reading_decides {c : Creation} (command : c.strategy = some .command)
    {reply : RawDocument} {r : CommandReply} (read : CommandReply.ofReply? reply = some r)
    (notOk : r.ok.integer? ≠ some 1) :
    (∀ e, Refusal.strict? reply = some e → Refusal.lenient? reply = some e) ∧
      c.handleReply reply = .error ((Refusal.lenient? reply).getD .unreadableReply) ∧
      ((∃ e message, c.handleReply reply = .error e ∧ e.kind = .invalidResponse message) ↔
        Refusal.lenient? reply = none) := by
  have handled : c.handleReply reply =
      .error ((Refusal.lenient? reply).getD .unreadableReply) := by
    rw [Creation.handleReply, command]
    exact CommandReply.acknowledgment_of_refused read notOk
  refine ⟨fun e => Refusal.lenient?_of_strict? read, handled, ?_⟩
  rw [handled]
  cases lenient : Refusal.lenient? reply with
  | none => exact ⟨fun _ => rfl, fun _ => ⟨_, _, rfl, rfl⟩⟩
  | some e =>
    obtain ⟨refused, labels, rfl⟩ := Refusal.exists_command_of_lenient? lenient
    refine ⟨?_, nofun⟩
    rintro ⟨_, message, same, kind⟩
    cases same
    cases kind

theorem lenient_reading_decides_at_largest_code :
    let c : Creation := ⟨⟨⟨some "alice", some "app", none⟩, false, none⟩, some .command⟩
    let reply := RawDocument.ofDocument
      [("ok", .int32 0), ("code", .int64 2147483647), ("note", .null), ("errmsg", .string "no"),
        ("errorLabels", .array [.string "b", .string "a"])]
    let e := Error.labelled (.command ⟨2147483647, "", "no"⟩) ["b", "a"]
    Refusal.strict? reply = some e ∧ Refusal.lenient? reply = some e ∧
      c.handleReply reply = .error e := by
  intro c reply e
  have strict : Refusal.strict? reply = some e := rfl
  obtain ⟨agree, handled, -⟩ :=
    @lenient_reading_decides c rfl reply _ rfl (by decide +kernel)
  have lenient := agree e strict
  rw [lenient] at handled
  exact ⟨strict, lenient, handled⟩

end UserProvision
