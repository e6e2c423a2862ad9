import UserProvision.Creation.Basic
import UserProvision.Proofs.Document.Elements
import UserProvision.Proofs.Document.Meaningful
import UserProvision.Proofs.Document.Widening

/-!
# Replies with more in them

What a reply amounts to does not depend on the order of its fields, and mostly not on fields that
nobody asks for. A reply about the last insert may have any further fields that open. A reply to the
command is kept as a whole for the log, and for that all its fields have to mean something together:
a further field that means nothing makes the whole reply unreadable, even one that tells of success.

## Main definitions

* `Strategy.keys` — the keys that a reply is read for.
* `Creation.result` — what a reply tells the caller.

## Main results

* `LastError.ofReply?_widened` — further fields do not change what a reply about the last insert is
  read as.
* `CommandReply.result?_widened`, `CommandReply.outcome?_of_meaningless` — when further fields change
  what a reply to the command amounts to.
* `reply_order_has_no_say`, `unasked_field_settled` — both for a creation.
-/

namespace UserProvision

open UserProvision.Field

/-- The keys that a reply to the command is read for. -/
def CommandReply.keys : List String :=
  ["ok", "code", "codeName", "errmsg", "errorLabels", "writeConcernError"]

/-- The keys that a reply about the last insert is read for. -/
def LastError.keys : List String :=
  ["ok", "n", "err", "code", "codeName", "errmsg", "wtimeout", "wnote", "jnote"]

variable {d d' : RawDocument} {extra : List Element}

/-! ## Replies about the last insert -/

namespace LastError

theorem ofReply?_widened (h : RawDocument.Widens keys extra d d') : ofReply? d' = ofReply? d := by
  refine h.bind_readExcept? (by decide) fun own' own fields' fields oks others => ?_
  simp only [required_perm oks, optional_perm (others "n" (by decide)),
    optional_perm (others "err" (by decide)), optional_perm (others "code" (by decide)),
    optional_perm (others "codeName" (by decide)), optional_perm (others "errmsg" (by decide)),
    optional_perm (others "wtimeout" (by decide)), optional_perm (others "wnote" (by decide)),
    optional_perm (others "jnote" (by decide))]

theorem acknowledgment_widened (h : RawDocument.Widens keys extra d d') :
    Strategy.insert.acknowledgment d' = Strategy.insert.acknowledgment d := by
  rw [Strategy.acknowledgment, Strategy.acknowledgment, outcome, outcome, ofReply?_widened h]

end LastError

/-! ## Replies to the command -/

namespace Refusal

theorem labels?_perm {fields fields' : Document}
    (perm : (fields'.values "errorLabels").Perm (fields.values "errorLabels")) :
    labels? fields' = labels? fields := by
  rw [labels?, labels?, optional_perm perm]

theorem strict?_widened (h : RawDocument.Widens CommandReply.keys extra d d') :
    strict? d' = strict? d := by
  refine h.bind_read? fun fields' fields values => ?_
  simp only [labels?_perm (values "errorLabels" (by decide)),
    required_perm (values "code" (by decide)), withDefault_perm (values "codeName" (by decide)),
    withDefault_perm (values "errmsg" (by decide))]

theorem lenient?_widened (h : RawDocument.Widens CommandReply.keys extra d d') :
    lenient? d' = lenient? d := by
  refine h.bind_readExcept? (by decide) fun own' own fields' fields codes others => ?_
  simp only [optional_perm codes, optional_perm (others "codeName" (by decide)),
    optional_perm (others "errmsg" (by decide)), labels?_perm (others "errorLabels" (by decide))]

end Refusal

theorem WriteConcernError.ofReply?_widened (h : RawDocument.Widens CommandReply.keys extra d d') :
    ofReply? d' = ofReply? d := by
  refine h.bind_readExcept? (by decide) fun own' own fields' fields failures others => ?_
  simp only [optional_perm failures, Refusal.labels?_perm (others "errorLabels" (by decide))]

namespace CommandReply

/-- A reply reads as one to the command exactly if `ok` is there once and means something, and all
other elements can stand in a document that does. -/
theorem map_ok_eq_some_iff {ok : Value} :
    (ofReply? d).map (·.ok) = some ok ↔
      (∃ v, d.values "ok" = [v] ∧ v.meaning? = some ok) ∧ d.elements.complete = true ∧
        ∀ e ∈ d.elements.items, e.key ≠ "ok" → e.IsMeaningful := by
  have others {fields : Document}
      (opens : List.Forall₂ Element.Opens (d.elements.items.filter (·.key != "ok")) fields) :
      (∃ m, fields.meaning = some m) ↔
        ∀ e ∈ d.elements.items, e.key ≠ "ok" → e.IsMeaningful := by
    simp [Element.exists_meaning_iff_of_opens opens]
  constructor
  · intro h
    obtain ⟨r, whole, rfl⟩ := Option.map_eq_some_iff.mp h
    obtain ⟨⟨oks, fields⟩, read, whole⟩ := Option.bind_eq_some_iff.mp whole
    obtain ⟨complete, rfl, opens⟩ := RawDocument.readExcept?_eq_some_iff.mp read
    obtain ⟨ok, required, whole⟩ := Option.bind_eq_some_iff.mp whole
    obtain ⟨rest, meaning, whole⟩ := Option.bind_eq_some_iff.mp whole
    cases whole
    exact ⟨required_eq_some_iff.mp required, complete, (others opens).mp ⟨rest, meaning⟩⟩
  · rintro ⟨single, complete, meaningful⟩
    obtain ⟨⟨oks, fields⟩, read⟩ := RawDocument.exists_readExcept?_iff.mpr
      ⟨complete, fun e he other => by
        obtain ⟨-, w, -, opens, -⟩ := meaningful e he other
        exact ⟨_, .field opens⟩⟩
    obtain ⟨-, rfl, opens⟩ := RawDocument.readExcept?_eq_some_iff.mp read
    obtain ⟨rest, meaning⟩ := (others opens).mpr meaningful
    simp [ofReply?, read, required_eq_some_iff.mpr single, meaning]

theorem map_ok_widened (h : RawDocument.Widens keys extra d d')
    (meaningful : ∀ e ∈ extra, e.IsMeaningful) :
    (ofReply? d').map (·.ok) = (ofReply? d).map (·.ok) := by
  refine Option.ext fun ok => ?_
  have single (v : RawValue) : d'.values "ok" = [v] ↔ d.values "ok" = [v] := by
    have perm : (d'.values "ok").Perm (d.values "ok") := h.values_perm (by decide)
    rw [← List.perm_singleton, perm.congr_left, List.perm_singleton]
  have others := h.forall_items_iff fun e he (_ : e.key ≠ "ok") => meaningful e he
  simp only [map_ok_eq_some_iff, single, h.complete, others]

/-- What a reply to the command amounts to, without the fields that it is logged with. -/
def result? (reply : RawDocument) : Option (Except Error Unit) :=
  (outcome? reply).map fun o => o.map fun _ => ()

/-- Of all fields together only `ok` counts for what a reply amounts to. -/
theorem result?_eq (reply : RawDocument) :
    result? reply = ((ofReply? reply).map (·.ok)).bind fun ok =>
      if isOk ok then
        (WriteConcernError.ofReply? reply).map fun failed => failed.elim (.ok ()) .error
      else (Refusal.strict? reply <|> Refusal.lenient? reply).map .error := by
  unfold result? outcome?
  cases ofReply? reply with
  | none => rfl
  | some r =>
    simp only [Option.bind_eq_bind, Option.bind_some, Option.map_some]
    by_cases ok : isOk r.ok = true
    · have success : r.isSuccess = true := ok
      rw [if_pos ok, if_pos success]
      rcases WriteConcernError.ofReply? reply with _ | _ | _ <;> rfl
    · have refused : ¬ r.isSuccess = true := ok
      rw [if_neg ok, if_neg refused]
      cases (Refusal.strict? reply <|> Refusal.lenient? reply) <;> rfl

/-- Further fields that mean something do not change what a reply amounts to. -/
theorem result?_widened (h : RawDocument.Widens keys extra d d')
    (meaningful : ∀ e ∈ extra, e.IsMeaningful) : result? d' = result? d := by
  rw [result?_eq, result?_eq, map_ok_widened h meaningful, Refusal.strict?_widened h,
    Refusal.lenient?_widened h, WriteConcernError.ofReply?_widened h]

/-- A further field that means nothing makes a reply unreadable. -/
theorem outcome?_of_meaningless {e : Element} (mem : e ∈ d.elements.items) (other : e.key ≠ "ok")
    (meaningless : ¬ e.IsMeaningful) : outcome? d = none := by
  have unread : ofReply? d = none := by
    refine Option.eq_none_iff_forall_ne_some.mpr fun r read => ?_
    have ok : (ofReply? d).map (·.ok) = some r.ok := by rw [read, Option.map_some]
    obtain ⟨-, -, meaningful⟩ := map_ok_eq_some_iff.mp ok
    exact meaningless (meaningful e mem other)
  rw [outcome?, unread]
  rfl

end CommandReply

/-! ## A creation -/

/-- The keys that a reply is read for under a strategy. -/
def Strategy.keys : Strategy → List String
  | .command => CommandReply.keys
  | .insert => LastError.keys

theorem CommandReply.map_acknowledgment (reply : RawDocument) :
    (Strategy.command.acknowledgment reply).map (fun _ => ()) =
      (result? reply).getD (.error .unreadableReply) := by
  unfold Strategy.acknowledgment outcome result?
  rcases outcome? reply with _ | _ | _
  · rfl
  · rfl
  · rfl

namespace Creation

/-- What a reply tells the caller: whether the user was created, or the error if it was not. -/
def result (c : Creation) (reply : RawDocument) : Except Error Unit :=
  (c.handleReply reply).map fun _ => ()

variable {c : Creation}

/-- Further fields do not change what a reply tells the caller; if the reply is one to the command,
they have to mean something. -/
theorem result_widened (h : ∀ s, c.strategy = some s → RawDocument.Widens s.keys extra d d')
    (meaningful : c.strategy = some .command → ∀ e ∈ extra, e.IsMeaningful) :
    c.result d' = c.result d := by
  unfold result handleReply
  cases strategy : c.strategy with
  | none => rfl
  | some s =>
    dsimp only
    cases s with
    | command =>
      rw [CommandReply.map_acknowledgment, CommandReply.map_acknowledgment,
        CommandReply.result?_widened (h _ strategy) (meaningful strategy)]
    | insert => rw [LastError.acknowledgment_widened (h _ strategy)]

end Creation

/-- Replies with the same elements in different orders tell the caller the same. -/
theorem reply_order_has_no_say (c : Creation) {reply reply' : RawDocument}
    {items items' : List Element} (elements : reply.elements = ⟨items, true⟩)
    (elements' : reply'.elements = ⟨items', true⟩) (perm : items.Perm items') :
    c.result reply = c.result reply' := by
  refine Creation.result_widened (fun s _ => ?_) fun _ => List.forall_mem_nil _
  refine ⟨by rw [elements, elements'], ?_, List.forall_mem_nil _, List.forall_mem_nil _⟩
  rw [elements, elements']
  exact perm

theorem reply_order_has_no_say_for_refusal :
    let c : Creation := ⟨⟨⟨some "alice", some "app", none⟩, false, none⟩, some .command⟩
    let fields : Document := [("ok", .int32 0), ("errmsg", .string "no"), ("code", .int64 13)]
    let fields' : Document := fields.reverse
    let reply := RawDocument.ofDocument fields
    let reply' := RawDocument.ofDocument fields'
    reply.elements = ⟨fields.framed, true⟩ ∧ reply'.elements = ⟨fields'.framed, true⟩ ∧
      fields.framed.Perm fields'.framed ∧
      c.result reply = .error (.labelled (.command ⟨13, "", "no"⟩) []) ∧
      c.result reply' = .error (.labelled (.command ⟨13, "", "no"⟩) []) := by
  intro c fields fields' reply reply'
  have elements : reply.elements = ⟨fields.framed, true⟩ := by decide
  have elements' : reply'.elements = ⟨fields'.framed, true⟩ := by decide
  have perm : fields.framed.Perm fields'.framed := (List.reverse_perm fields).symm.map _
  have refused : c.result reply = .error (.labelled (.command ⟨13, "", "no"⟩) []) := rfl
  have same := reply_order_has_no_say c elements elements' perm
  exact ⟨elements, elements', perm, refused, same.symm.trans refused⟩

/-- A field that opens is added to a reply under a key that it is not read for. A reply about the
last insert stays what it was, with all that is logged of it. So does a reply to the command for the
caller if the field can stand in a document with a meaning, as it can if nothing in it is marked as
a spelled value; otherwise nothing can be read of the reply any more. -/
theorem unasked_field_settled (c : Creation) {reply extended : RawDocument}
    {before after : List Element} {e : Element} {w : Value}
    (elements : reply.elements = ⟨before ++ after, true⟩)
    (added : extended.elements = ⟨before ++ e :: after, true⟩) (opens : e.value.read? = some w)
    (unasked : ∀ s, c.strategy = some s → e.key ∉ s.keys) :
    (c.strategy ≠ some .command → c.handleReply extended = c.handleReply reply) ∧
      (c.strategy = some .command → e.IsMeaningful → c.result extended = c.result reply) ∧
      (c.strategy = some .command → ¬ e.IsMeaningful →
        c.handleReply extended = .error .unreadableReply) ∧
      (Document.IsPlain e.key → w.IsUnmarked → c.result extended = c.result reply) := by
  have widens : ∀ s, c.strategy = some s → RawDocument.Widens s.keys [e] reply extended := by
    intro s strategy
    refine ⟨by rw [elements, added], ?_, ?_, ?_⟩
    · rw [elements, added]
      exact List.perm_middle
    · exact List.forall_mem_singleton.mpr (unasked s strategy)
    · exact List.forall_mem_singleton.mpr ⟨_, .field opens⟩
  have same (meaningful : c.strategy = some .command → e.IsMeaningful) :
      c.result extended = c.result reply :=
    Creation.result_widened widens fun command => List.forall_mem_singleton.mpr (meaningful command)
  refine ⟨fun other => ?_, fun _ meaningful => same fun _ => meaningful,
    fun command meaningless => ?_, fun plain unmarked => same fun _ => ?_⟩
  · unfold Creation.handleReply
    rcases strategy : c.strategy with _ | _ | _
    · rfl
    · exact absurd strategy other
    · exact LastError.acknowledgment_widened (widens _ strategy)
  · have present : e ∈ extended.elements.items := by simp [added]
    have notOk : e.key ≠ "ok" := by
      intro own
      exact unasked .command command (by simp [own, Strategy.keys, CommandReply.keys])
    have unread := CommandReply.outcome?_of_meaningless present notOk meaningless
    rw [Creation.handleReply, command]
    simp only [Strategy.acknowledgment, CommandReply.outcome, unread]
    rfl
  · exact (Element.isMeaningful_iff opens).mpr ⟨plain, unmarked.exists_means⟩

theorem unasked_field_settled_for_success :
    let c : Creation := ⟨⟨⟨some "alice", some "app", none⟩, false, none⟩, some .command⟩
    let success : Document := [("ok", .int32 1)]
    let note : Value := .document [("deep", .array [.null])]
    let reply := RawDocument.ofDocument success
    let extended := RawDocument.ofDocument (("note", note) :: success)
    reply.elements = ⟨success.framed, true⟩ ∧
      extended.elements = ⟨⟨"note", note.framed⟩ :: success.framed, true⟩ ∧
      note.framed.read? = some note ∧ "note" ∉ Strategy.command.keys ∧
      c.result reply = .ok () ∧ c.result extended = .ok () := by
  intro c success note reply extended
  have elements : reply.elements = ⟨success.framed, true⟩ := by decide
  have added : extended.elements = ⟨⟨"note", note.framed⟩ :: success.framed, true⟩ := by decide
  have opens : note.framed.read? = some note := rfl
  have unasked : "note" ∉ Strategy.command.keys := by decide
  have accepted : c.result reply = .ok () := rfl
  have unmarked : note.IsUnmarked :=
    .document (List.forall_mem_singleton.mpr ⟨by decide, by decide, rfl⟩)
      (List.forall_mem_singleton.mpr (.array (List.forall_mem_singleton.mpr (.scalar .null))))
  obtain ⟨-, -, -, same⟩ := @unasked_field_settled c reply extended [] success.framed
    ⟨"note", note.framed⟩ note elements added opens fun s hs => Option.some.inj hs ▸ unasked
  exact ⟨elements, added, opens, unasked, accepted,
    (same ⟨by decide, by decide, rfl⟩ unmarked).trans accepted⟩

/-- A success and a refusal are both lost once the server adds a field that looks like a spelled
value but is none, although nobody asks for that field. -/
theorem misspelled_field_spoils_reply :
    let c : Creation := ⟨⟨⟨some "alice", some "app", none⟩, false, none⟩, some .command⟩
    let extra : String × Value := ("x", .document [("$oid", .string "nope")])
    let success : Document := [("ok", .int32 1)]
    let refusal : Document := [("ok", .int32 0), ("code", .int32 13)]
    (RawDocument.ofDocument (success ++ [extra])).elements =
        ⟨success.framed ++ [⟨extra.1, extra.2.framed⟩], true⟩ ∧
      extra.1 ∉ Strategy.command.keys ∧ extra.2.framed.read? = some extra.2 ∧
      c.result (.ofDocument success) = .ok () ∧
      c.result (.ofDocument (success ++ [extra])) = .error .unreadableReply ∧
      c.result (.ofDocument refusal) = .error (.labelled (.command ⟨13, "", ""⟩) []) ∧
      c.result (.ofDocument (refusal ++ [extra])) = .error .unreadableReply :=
  ⟨by decide, by decide, rfl, rfl, rfl, rfl, rfl⟩

end UserProvision
