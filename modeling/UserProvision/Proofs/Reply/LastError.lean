import UserProvision.Creation.Basic
import UserProvision.Proofs.Document.Field

/-!
# What a reply about the last insert amounts to

A reply about the last insert is read once, so its rules follow the fields that it has. Of the value
under `ok` only as much is read as it takes to know what it means; all else has to open.

## Main results

* `LastError.acknowledgment_eq_iff` — a reply is read by the rules of `LastError.Amounts`.
* `LastError.quiet_of_ok` — nothing in an accepted reply tells of a failure.
* `insert_reply_settled` — both for a creation whose last request was an insert.
-/

namespace UserProvision

open UserProvision.Field

namespace LastError

/-- A reply that reads as one about the last insert: its field `ok` is there once and means
something as it is read, all other fields open, and those with a name have the right types. -/
structure Reads (reply : RawDocument) (fields : Document) (r : LastError) : Prop where
  complete : reply.elements.complete = true
  ok : ∃ v, reply.values "ok" = [v] ∧ v.meaning? = some r.ok
  opens : List.Forall₂ Element.Opens (reply.elements.items.filter (·.key != "ok")) fields
  inserted : Told Value.Means (fields.values "n") r.inserted
  error : Told Value.IsText (fields.values "err") r.error
  code : Told Value.IsInt32 (fields.values "code") r.code
  codeName : Told Value.IsText (fields.values "codeName") r.codeName
  message : Told Value.IsText (fields.values "errmsg") r.message
  timedOut : Told Value.IsBoolean (fields.values "wtimeout") r.timedOut
  writeNote : Told Value.IsText (fields.values "wnote") r.writeNote
  journalNote : Told Value.IsText (fields.values "jnote") r.journalNote

/-- The first of some texts that is given, or the empty text. -/
def firstGiven (texts : List (Option String)) : String := (texts.filterMap id).headD ""

/-- The reply notes that the write concern was not met. -/
def Notes (r : LastError) : Prop :=
  r.timedOut = some true ∨ r.writeNote ≠ none ∨ r.journalNote ≠ none

/-- What a reply about the last insert amounts to. -/
inductive Amounts (reply : RawDocument) : Except Error Event → Prop
  /-- The reply does not read as one about the last insert. -/
  | unreadable (h : ∀ fields r, ¬ Reads reply fields r) : Amounts reply (.error .unreadableReply)
  /-- The reply is not ok, whatever it notes. -/
  | refused {fields : Document} {r : LastError} (h : Reads reply fields r)
    (notOk : r.ok.integer? ≠ some 1) :
    Amounts reply (.error (.ofKind (.write
      ⟨r.code.getD 8, r.codeName, firstGiven [r.error, r.message]⟩)))
  /-- The write concern was not met, whatever is said about the write. -/
  | unacknowledged {fields : Document} {r : LastError} (h : Reads reply fields r)
    (ok : r.ok.integer? = some 1) (noted : r.Notes) :
    Amounts reply (.error (.ofKind (.writeConcern
      ⟨r.code.getD 64, r.codeName.getD "",
        firstGiven [r.error, r.writeNote, r.journalNote], none⟩)))
  /-- The write failed. -/
  | failed {fields : Document} {r : LastError} (h : Reads reply fields r)
    (ok : r.ok.integer? = some 1) (unnoted : ¬ r.Notes) (told : r.error ≠ none ∨ r.code ≠ none) :
    Amounts reply (.error (.ofKind (.write
      ⟨r.code.getD 8, r.codeName, firstGiven [r.error, r.message]⟩)))
  /-- The document was inserted. -/
  | inserted {fields : Document} {r : LastError} (h : Reads reply fields r)
    (ok : r.ok.integer? = some 1) (unnoted : ¬ r.Notes) (noError : r.error = none)
    (noCode : r.code = none) :
    Amounts reply (.ok (.userInserted ((r.inserted.bind Value.integer?).getD 0)))

variable {reply : RawDocument} {fields : Document} {r : LastError}

/-! ## Reading -/

theorem ofReply?_eq_some_iff : ofReply? reply = some r ↔ ∃ fields, Reads reply fields r := by
  have texts {vs : List Value} {o : Option String} :
      Field.optional text? vs = some o ↔ Told Value.IsText vs o :=
    optional_iff_told text?_eq_some_iff
  constructor
  · intro h
    obtain ⟨⟨oks, fields⟩, read, h⟩ := Option.bind_eq_some_iff.mp h
    obtain ⟨complete, rfl, opens⟩ := RawDocument.readExcept?_eq_some_iff.mp read
    obtain ⟨ok, hok, h⟩ := Option.bind_eq_some_iff.mp h
    obtain ⟨inserted, hinserted, h⟩ := Option.bind_eq_some_iff.mp h
    obtain ⟨error, herror, h⟩ := Option.bind_eq_some_iff.mp h
    obtain ⟨code, hcode, h⟩ := Option.bind_eq_some_iff.mp h
    obtain ⟨codeName, hcodeName, h⟩ := Option.bind_eq_some_iff.mp h
    obtain ⟨message, hmessage, h⟩ := Option.bind_eq_some_iff.mp h
    obtain ⟨timedOut, htimedOut, h⟩ := Option.bind_eq_some_iff.mp h
    obtain ⟨writeNote, hwriteNote, h⟩ := Option.bind_eq_some_iff.mp h
    obtain ⟨journalNote, hjournalNote, h⟩ := Option.bind_eq_some_iff.mp h
    cases h
    exact ⟨fields, {
      complete, opens
      ok := required_eq_some_iff.mp hok
      inserted := (optional_iff_told Iff.rfl).mp hinserted
      error := texts.mp herror
      code := (optional_iff_told int32?_eq_some_iff).mp hcode
      codeName := texts.mp hcodeName
      message := texts.mp hmessage
      timedOut := (optional_iff_told boolean?_eq_some_iff).mp htimedOut
      writeNote := texts.mp hwriteNote
      journalNote := texts.mp hjournalNote }⟩
  · rintro ⟨fields, h⟩
    have read := RawDocument.readExcept?_eq_some_iff.mpr ⟨h.complete, rfl, h.opens⟩
    simp only [ofReply?, read, required_eq_some_iff.mpr h.ok,
      (optional_iff_told Iff.rfl).mpr h.inserted, texts.mpr h.error,
      (optional_iff_told int32?_eq_some_iff).mpr h.code, texts.mpr h.codeName, texts.mpr h.message,
      (optional_iff_told boolean?_eq_some_iff).mpr h.timedOut, texts.mpr h.writeNote,
      texts.mpr h.journalNote, Option.bind_eq_bind, Option.bind_some, Option.pure_def]

/-! ## The rules -/

theorem firstGiven_pair (a b : Option String) : firstGiven [a, b] = (a <|> b).getD "" := by
  cases a <;> cases b <;> rfl

theorem firstGiven_triple (a b c : Option String) :
    firstGiven [a, b, c] = (a <|> b <|> c).getD "" := by
  cases a <;> cases b <;> cases c <;> rfl

theorem missesWriteConcern_iff : r.missesWriteConcern = true ↔ r.Notes := by
  simp [missesWriteConcern, Notes, or_assoc, Option.isSome_iff_ne_none]

theorem acknowledgment_of_reads (h : Reads reply fields r) :
    Strategy.insert.acknowledgment reply = r.outcome?.map .userInserted := by
  rw [Strategy.acknowledgment, outcome, ofReply?_eq_some_iff.mpr ⟨fields, h⟩]

theorem writeError_eq (r : LastError) :
    r.writeError = .ofKind (.write
      ⟨r.code.getD 8, r.codeName, firstGiven [r.error, r.message]⟩) := by
  rw [firstGiven_pair]
  rfl

theorem writeConcernError_eq (r : LastError) :
    r.writeConcernError = .ofKind (.writeConcern ⟨r.code.getD 64, r.codeName.getD "",
      firstGiven [r.error, r.writeNote, r.journalNote], none⟩) := by
  rw [firstGiven_triple]
  rfl

/-- Every reply amounts to something. -/
theorem exists_amounts (reply : RawDocument) : ∃ o, Amounts reply o := by
  by_cases reads : ∃ fields r, Reads reply fields r
  · obtain ⟨fields, r, h⟩ := reads
    by_cases ok : r.ok.integer? = some 1
    · by_cases noted : r.Notes
      · exact ⟨_, .unacknowledged h ok noted⟩
      · by_cases told : r.error ≠ none ∨ r.code ≠ none
        · exact ⟨_, .failed h ok noted told⟩
        · obtain ⟨noError, noCode⟩ := not_or.mp told
          exact ⟨_, .inserted h ok noted (not_not.mp noError) (not_not.mp noCode)⟩
    · exact ⟨_, .refused h ok⟩
  · exact ⟨_, .unreadable fun fields r h => reads ⟨fields, r, h⟩⟩

theorem acknowledgment_of_amounts {o : Except Error Event} (h : Amounts reply o) :
    Strategy.insert.acknowledgment reply = o := by
  cases h with
  | unreadable unread =>
    have none : ofReply? reply = none := Option.eq_none_iff_forall_ne_some.mpr fun r read => by
      obtain ⟨fields, h⟩ := ofReply?_eq_some_iff.mp read
      exact unread fields r h
    rw [Strategy.acknowledgment, outcome, none]
    rfl
  | @refused fields r h notOk =>
    have refused : (!CommandReply.isOk r.ok) = true := by
      rw [Bool.not_eq_true', Bool.eq_false_iff]
      exact CommandReply.isOk_iff.not.mpr notOk
    rw [acknowledgment_of_reads h, outcome?, if_pos refused, ← writeError_eq]
    rfl
  | @unacknowledged fields r h ok noted =>
    have success : CommandReply.isOk r.ok = true := CommandReply.isOk_iff.mpr ok
    rw [acknowledgment_of_reads h, outcome?, success, missesWriteConcern_iff.mpr noted,
      ← writeConcernError_eq]
    rfl
  | @failed fields r h ok unnoted told =>
    have success : CommandReply.isOk r.ok = true := CommandReply.isOk_iff.mpr ok
    have met : ¬ r.missesWriteConcern = true := missesWriteConcern_iff.not.mpr unnoted
    have told : (r.error.isSome || r.code.isSome) = true := by
      simpa [Option.isSome_iff_ne_none] using told
    rw [acknowledgment_of_reads h, outcome?, success, if_neg met, told, ← writeError_eq]
    rfl
  | @inserted fields r h ok unnoted noError noCode =>
    have success : CommandReply.isOk r.ok = true := CommandReply.isOk_iff.mpr ok
    have met : ¬ r.missesWriteConcern = true := missesWriteConcern_iff.not.mpr unnoted
    rw [acknowledgment_of_reads h, outcome?, success, if_neg met, noError, noCode]
    rfl

/-- The rules tell exactly what a reply amounts to. -/
theorem acknowledgment_eq_iff {o : Except Error Event} :
    Strategy.insert.acknowledgment reply = o ↔ Amounts reply o := by
  constructor
  · rintro rfl
    obtain ⟨o, amounts⟩ := exists_amounts reply
    rw [acknowledgment_of_amounts amounts]
    exact amounts
  · exact acknowledgment_of_amounts

/-! ## Nothing is swallowed -/

theorem null_of_told {β : Type} {is : Value → β → Prop} {vs : List Value} (h : Told is vs none) :
    ∀ v ∈ vs, v = .null := by
  cases h with
  | missing => nofun
  | null => simp

theorem not_true_of_told {vs : List Value} {o : Option Bool} (h : Told Value.IsBoolean vs o)
    (other : o ≠ some true) : .boolean true ∉ vs := by
  intro mem
  cases h with
  | missing => cases mem
  | null => cases List.mem_singleton.mp mem
  | given _ is =>
    cases List.mem_singleton.mp mem
    cases is
    exact other rfl

/-- Any element but `ok` opens as a field under its key. -/
theorem Reads.opens_of_mem (h : Reads reply fields r) {e : Element}
    (mem : e ∈ reply.elements.items) (other : e.key ≠ "ok") :
    ∃ w ∈ fields.values e.key, e.value.read? = some w := by
  have kept : e ∈ reply.elements.items.filter (·.key != "ok") :=
    List.mem_filter.mpr ⟨mem, by simpa using other⟩
  obtain ⟨_, mem, ⟨read⟩⟩ := exists_mem_of_forall₂ h.opens kept
  exact ⟨_, Document.mem_values_of_mem mem, read⟩

theorem eq_scalar_of_read? {v : RawValue} {s : Scalar} (h : v.read? = some (.scalar s)) :
    v = .scalar s := by
  cases v with
  | scalar s' =>
    cases h
    rfl
  | document d | array d | scopedCode source d =>
    obtain ⟨fields, -, eq⟩ := Option.map_eq_some_iff.mp h
    cases eq

/-- In an accepted reply no error, code or note stands but as null, and no time ran out. -/
theorem quiet_of_ok {event : Event} (h : Amounts reply (.ok event)) {e : Element}
    (mem : e ∈ reply.elements.items) :
    (e.key ∈ ["err", "code", "wnote", "jnote"] → e.value = .scalar .null) ∧
      (e.key = "wtimeout" → e.value ≠ .scalar (.boolean true)) := by
  cases h with
  | @inserted fields r h ok unnoted noError noCode =>
    obtain ⟨inTime, noWriteNote, noJournalNote⟩ : r.timedOut ≠ some true ∧ r.writeNote = none ∧
        r.journalNote = none := by
      simpa [Notes] using unnoted
    constructor
    · intro key
      have nulls : ∀ v ∈ fields.values e.key, v = .null := by
        simp only [List.mem_cons, List.not_mem_nil, or_false] at key
        rcases key with key | key | key | key
        · exact key ▸ null_of_told (noError ▸ h.error)
        · exact key ▸ null_of_told (noCode ▸ h.code)
        · exact key ▸ null_of_told (noWriteNote ▸ h.writeNote)
        · exact key ▸ null_of_told (noJournalNote ▸ h.journalNote)
      have other : e.key ≠ "ok" := by
        rintro own
        rw [own] at key
        exact absurd key (by decide)
      obtain ⟨w, hw, read⟩ := h.opens_of_mem mem other
      rw [nulls w hw] at read
      exact eq_scalar_of_read? read
    · intro key true
      obtain ⟨w, hw, read⟩ := h.opens_of_mem mem (by rw [key]; decide)
      rw [true] at read
      cases read
      exact not_true_of_told h.timedOut inTime (key ▸ hw)

/-- Two readings of a reply are the same. -/
theorem Reads.unique {fields' : Document} {r' : LastError} (h : Reads reply fields r)
    (h' : Reads reply fields' r') : r' = r :=
  Option.some.inj ((ofReply?_eq_some_iff.mpr ⟨_, h'⟩).symm.trans (ofReply?_eq_some_iff.mpr ⟨_, h⟩))

/-- An error that a reply describes has the code of the reply, or else that of its kind. -/
theorem code?_of_amounts (h : Reads reply fields r) {e : Error}
    (amounts : Amounts reply (.error e)) :
    e.code? = some (r.code.getD 8) ∨ e.code? = some (r.code.getD 64) := by
  cases amounts with
  | unreadable unread => exact absurd h (unread _ _)
  | refused h' | failed h' =>
    rw [h.unique h']
    exact .inl rfl
  | unacknowledged h' =>
    rw [h.unique h']
    exact .inr rfl

/-- An error that a reply describes is that of something that exists already just if the reply has
such a code. -/
theorem isDuplicate_iff (h : Reads reply fields r) {e : Error}
    (amounts : Amounts reply (.error e)) :
    e.isDuplicate = true ↔ ∃ n ∈ Error.duplicateCodes, r.code = some n := by
  have own : ∀ default : Int32, default ∉ Error.duplicateCodes →
      (r.code.getD default ∈ Error.duplicateCodes ↔
        ∃ n ∈ Error.duplicateCodes, r.code = some n) := by
    intro default other
    cases r.code with
    | none => simpa using other
    | some n => simp
  rw [Error.isDuplicate]
  rcases code?_of_amounts h amounts with code | code
  · rw [code, ← own 8 (by decide)]
    simp
  · rw [code, ← own 64 (by decide)]
    simp

end LastError

/-- Once an insert was built for a server without user commands, every reply is settled by the
rules; a code of the reply shows in the error, and nothing that tells of a failure passes as
success. -/
theorem insert_reply_settled {c : Creation} {id : ObjectId} {d : Description} {request : Request}
    (built : c.request id d = .ok request) (commands : d.hasUserCommands = false)
    (reply : RawDocument) (o : Except Error Event) :
    ((c.afterBuild id d).handleReply reply = o ↔ LastError.Amounts reply o) ∧
      (∀ fields r e, LastError.Reads reply fields r →
        (c.afterBuild id d).handleReply reply = .error e →
        (e.isDuplicate = true ↔ ∃ n ∈ Error.duplicateCodes, r.code = some n)) ∧
      ∀ event, (c.afterBuild id d).handleReply reply = .ok event →
        ∀ e ∈ reply.elements.items,
          (e.key ∈ ["err", "code", "wnote", "jnote"] → e.value = .scalar .null) ∧
          (e.key = "wtimeout" → e.value ≠ .scalar (.boolean true)) := by
  have strategy : (c.afterBuild id d).strategy = some .insert := by
    rw [Creation.afterBuild, built, Strategy.forServer, commands]
    rfl
  rw [Creation.handleReply, strategy]
  refine ⟨LastError.acknowledgment_eq_iff, fun fields r e h failed => ?_, fun event ok e mem => ?_⟩
  · exact LastError.isDuplicate_iff h (LastError.acknowledgment_eq_iff.mp failed)
  · exact LastError.quiet_of_ok (LastError.acknowledgment_eq_iff.mp ok) mem

theorem insert_reply_settled_of_taken_name :
    let c : Creation := ⟨⟨⟨some "alice", some "app", none⟩, false, none⟩, none⟩
    let d : Description := ⟨.localhost, some 1, 16777216⟩
    let reply := RawDocument.ofDocument
      [("ok", .int32 1), ("code", .int32 11000), ("wnote", .string "late"), ("err", .null)]
    (∃ request, c.request .zero d = .ok request) ∧ d.hasUserCommands = false ∧
      LastError.Amounts reply (.error (.ofKind (.writeConcern ⟨11000, "", "late", none⟩))) := by
  intro c d reply
  have built : ∃ request, c.request .zero d = .ok request := ⟨_, rfl⟩
  obtain ⟨request, built'⟩ := built
  have settled := insert_reply_settled built' rfl reply
    (.error (.ofKind (.writeConcern ⟨11000, "", "late", none⟩)))
  exact ⟨⟨request, built'⟩, rfl, settled.1.mp rfl⟩

/-- What is under `ok` is read no further than to the end of a spelled value, and plain binary data
in UTF-8 pass for a text: of these replies one cannot be opened and the other has an `err` that is no
string, yet both are read. -/
theorem unopened_ok_is_read :
    let c : Creation := ⟨⟨⟨some "alice", some "app", none⟩, false, none⟩, none⟩
    let d : Description := ⟨.localhost, some 1, 16777216⟩
    let one : RawDocument :=
      ⟨(RawDocument.ofDocument [("$numberLong", .string "1")]).body ++ [0x20, 0x78, 0x00]⟩
    let reply := (RawDocument.empty.appendElement ⟨"ok", .document one⟩).appendElement
      ⟨"n", .scalar (.int32 3)⟩
    let reply' := RawDocument.ofDocument [("ok", .int32 1), ("err", .scalar (.binary 0 [0x41]))]
    (∃ request, c.request .zero d = .ok request) ∧ d.hasUserCommands = false ∧
      (reply.read? = none ∧ (c.afterBuild .zero d).handleReply reply = .ok (.userInserted 3)) ∧
      reply'.values "err" = [.scalar (.binary 0 [0x41])] ∧
      (c.afterBuild .zero d).handleReply reply' = .error (.ofKind (.write ⟨8, none, "A"⟩)) :=
  ⟨⟨_, rfl⟩, rfl, ⟨rfl, rfl⟩, rfl, rfl⟩

end UserProvision
