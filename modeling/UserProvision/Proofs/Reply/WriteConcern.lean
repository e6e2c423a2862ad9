import UserProvision.Proofs.Reply.Refusal

/-!
# Failed write concerns

A reply to the command may hold the error of a failed write concern, given by its fields or by an
array of their values. Its details are read as they stand in the bytes; as the whole reply means
something once it is opened, so do they, and the same.

## Main results

* `WriteConcernError.ofValue?_eq_some_iff` — what a value says about a write concern.
* `WriteConcernError.ofReply?_eq_some_iff` — what a reply says about it.
-/

namespace UserProvision

open UserProvision.Field

namespace WriteConcernError

/-- The values of the message, which goes by two names. -/
def messages (fields : Document) : List Value :=
  (fields.filter fun f => f.1 == "errmsg" || f.1 == "message").map (·.2)

/-- The failed write concern that a value describes, by its fields or by their values in order. -/
inductive Describes : Value → WriteConcernError → Prop
  | fields {fields : Document} {v : Value} {code : Int32} {codeName message : String}
    {details : Option Document} (single : fields.values "code" = [v]) (hcode : v.IsInt32 code)
    (hname : Stated "" Value.IsText (fields.values "codeName") codeName)
    (hmessage : Stated "" Value.IsText (messages fields) message)
    (hdetails : Told Value.IsDocument (fields.values "errInfo") details) :
    Describes (.document fields) ⟨code, codeName, message, details⟩
  | items {v name text infos : Value} {more : List Value} {code : Int32}
    {codeName message : String} {details : Option Document} (hcode : v.IsInt32 code)
    (hname : name.IsText codeName) (hmessage : text.IsText message)
    (hdetails : Told Value.IsDocument [infos] details) :
    Describes (.array (v :: name :: text :: infos :: more)) ⟨code, codeName, message, details⟩

theorem values_renamed (fields : Document) (key : String) :
    (renamed fields).values key =
      (fields.filter fun f => (if f.1 = "errmsg" then "message" else f.1) == key).map (·.2) := by
  rw [Document.values, renamed, List.filter_map, List.map_map]
  rfl

theorem values_renamed_message (fields : Document) :
    (renamed fields).values "message" = messages fields := by
  rw [values_renamed, messages]
  congr 2
  funext f
  by_cases old : f.1 = "errmsg" <;> simp [old]

theorem values_renamed_of_ne {key : String} (h : key ≠ "errmsg") (h' : key ≠ "message")
    (fields : Document) : (renamed fields).values key = fields.values key := by
  rw [values_renamed, Document.values]
  congr 2
  funext f
  by_cases old : f.1 = "errmsg" <;> simp [old, h.symm, h'.symm]

theorem messages_except {key : String} (h : key ≠ "errmsg") (h' : key ≠ "message")
    (fields : Document) : messages (fields.except key) = messages fields := by
  rw [messages, Document.except, List.filter_filter, messages]
  congr 2
  funext f
  by_cases own : f.1 = key <;> simp [own, h, h']

theorem document?_eq_some_iff {v : RawValue} {w m : Value} (read : v.read? = some w)
    (means : w.Means m) {d : Document} : v.document? = some d ↔ w.IsDocument d := by
  rw [RawValue.document?, RawValue.meaning?_of_meaning read means, Value.IsDocument, means]
  cases m <;> simp

theorem ofValue?_document_iff {d : RawDocument} {fs : Document} {m : Value}
    (opens : d.read? = some fs) (means : Document.meaningOnto [] fs = some m)
    {e : WriteConcernError} : ofValue? (.document d) = some e ↔ Describes (.document fs) e := by
  have infos : List.Forall₂ (Agrees RawValue.document? Value.IsDocument) (d.values "errInfo")
      (fs.values "errInfo") :=
    RawDocument.agrees_values opens
      (Document.means_of_mem_values means ⟨by decide, by decide, rfl⟩)
      fun _ _ _ read means _ => document?_eq_some_iff read means
  have code : (fs.except "errInfo").values "code" = fs.values "code" :=
    Document.values_except (by decide) fs
  have name : (fs.except "errInfo").values "codeName" = fs.values "codeName" :=
    Document.values_except (by decide) fs
  unfold ofValue?
  dsimp only
  rw [RawDocument.readExcept?_of_read? opens, Option.bind_eq_bind, Option.bind_some]
  dsimp only
  rw [values_renamed_of_ne (by decide) (by decide), values_renamed_of_ne (by decide) (by decide),
    values_renamed_message, messages_except (by decide) (by decide), code, name]
  constructor
  · intro h
    obtain ⟨code, hcode, h⟩ := Option.bind_eq_some_iff.mp h
    obtain ⟨codeName, hname, h⟩ := Option.bind_eq_some_iff.mp h
    obtain ⟨message, hmessage, h⟩ := Option.bind_eq_some_iff.mp h
    obtain ⟨details, hdetails, h⟩ := Option.bind_eq_some_iff.mp h
    cases h
    obtain ⟨v, single, int⟩ := required_eq_some_iff.mp hcode
    exact .fields single (int32?_eq_some_iff.mp int)
      ((withDefault_eq_some_iff text?_eq_some_iff).mp hname)
      ((withDefault_eq_some_iff text?_eq_some_iff).mp hmessage)
      ((optional_eq_some_iff infos).mp hdetails)
  · rintro ⟨single, hcode, hname, hmessage, hdetails⟩
    rw [required_eq_some_iff.mpr ⟨_, single, int32?_eq_some_iff.mpr hcode⟩,
      (withDefault_eq_some_iff text?_eq_some_iff).mpr hname,
      (withDefault_eq_some_iff text?_eq_some_iff).mpr hmessage,
      (optional_eq_some_iff infos).mpr hdetails]
    rfl

theorem ofValue?_array_iff {d : RawDocument} {fs : Document} {ms : List Value}
    (opens : d.read? = some fs) (means : Value.meanings (fs.map (·.2)) = some ms)
    {e : WriteConcernError} :
    ofValue? (.array d) = some e ↔ Describes (.array (fs.map (·.2))) e := by
  obtain ⟨-, opened⟩ := RawDocument.read?_eq_some_iff.mp opens
  have reads : List.Forall₂ (fun v w => RawValue.read? v = some w)
      (d.elements.items.map (·.value)) (fs.map (·.2)) := by
    rw [List.forall₂_map_left_iff, List.forall₂_map_right_iff]
    exact opened.imp fun e f ⟨read⟩ => read
  unfold ofValue?
  dsimp only
  generalize d.elements.items.map (·.value) = vs, fs.map (·.2) = ws at means reads
  rcases reads with _ | ⟨code, _ | ⟨name, _ | ⟨text, _ | ⟨infos, more⟩⟩⟩⟩
  case cons.cons.cons.cons =>
    obtain ⟨m, mean⟩ := Value.exists_meaning_of_mem means (.tail _ (.tail _ (.tail _ (.head _))))
    have details : List.Forall₂ (Agrees RawValue.document? Value.IsDocument) [_] [_] :=
      .cons ⟨RawValue.scalar?_of_read? infos, fun _ => document?_eq_some_iff infos mean⟩ .nil
    dsimp only
    rw [int32?_of_read? code, text?_of_read? name, text?_of_read? text]
    constructor
    · intro h
      obtain ⟨_, hcode, h⟩ := Option.bind_eq_some_iff.mp h
      obtain ⟨_, hname, h⟩ := Option.bind_eq_some_iff.mp h
      obtain ⟨_, hmessage, h⟩ := Option.bind_eq_some_iff.mp h
      obtain ⟨_, hdetails, h⟩ := Option.bind_eq_some_iff.mp h
      cases h
      exact .items (int32?_eq_some_iff.mp hcode) (text?_eq_some_iff.mp hname)
        (text?_eq_some_iff.mp hmessage) ((optional_eq_some_iff details).mp hdetails)
    · rintro (_ | ⟨hcode, hname, hmessage, hdetails⟩)
      have hdetails := (optional_eq_some_iff details).mpr hdetails
      rw [Field.optional, withDefault] at hdetails
      rw [int32?_eq_some_iff.mpr hcode, text?_eq_some_iff.mpr hname,
        text?_eq_some_iff.mpr hmessage, hdetails]
      rfl
  all_goals
    constructor
    · intro h
      cases h
    · rintro ⟨⟩

/-- A value that stands in the bytes is read as what it describes once it is opened. -/
theorem ofValue?_eq_some_iff {v : RawValue} {w m : Value} (read : v.read? = some w)
    (means : w.Means m) {e : WriteConcernError} : ofValue? v = some e ↔ Describes w e := by
  rw [Value.Means] at means
  cases v with
  | scalar s =>
    cases read
    constructor
    · intro h
      cases h
    · rintro ⟨⟩
  | document d =>
    obtain ⟨fs, opens, rfl⟩ := Option.map_eq_some_iff.mp read
    rw [Value.meaning] at means
    exact ofValue?_document_iff opens means
  | array d =>
    obtain ⟨fs, opens, rfl⟩ := Option.map_eq_some_iff.mp read
    rw [Value.meaning] at means
    obtain ⟨ms, meanings, -⟩ := Option.map_eq_some_iff.mp means
    exact ofValue?_array_iff opens meanings
  | scopedCode source d =>
    obtain ⟨fs, opens, rfl⟩ := Option.map_eq_some_iff.mp read
    constructor
    · intro h
      cases h
    · rintro ⟨⟩

theorem agrees {reply : RawDocument} {fields : Document} {r : CommandReply}
    (h : CommandReply.Reads reply fields r) :
    List.Forall₂ (Agrees ofValue? Describes) (reply.values "writeConcernError")
      (fields.values "writeConcernError") :=
  h.agrees (by decide) ⟨by decide, by decide, rfl⟩ fun _ _ _ read means _ =>
    ofValue?_eq_some_iff read means

/-- What a reply says about its write concern, with the labels of the reply. -/
theorem ofReply?_eq_some_iff {reply : RawDocument} {fields : Document} {r : CommandReply}
    (h : CommandReply.Reads reply fields r) {o : Option Error} :
    ofReply? reply = some o ↔
      ∃ failed labels, Told Describes (fields.values "writeConcernError") failed ∧
        Told Value.IsTexts (fields.values "errorLabels") labels ∧
        failed.map (fun e => .labelled (.writeConcern e) (labels.getD [])) = o := by
  unfold ofReply?
  rw [RawDocument.readExcept?_of_read? h.opens, Option.bind_eq_bind, Option.bind_some]
  dsimp only
  rw [Refusal.labels?_except (by decide)]
  constructor
  · intro h'
    obtain ⟨failed, told, h'⟩ := Option.bind_eq_some_iff.mp h'
    obtain ⟨_, labels, h'⟩ := Option.bind_eq_some_iff.mp h'
    obtain ⟨labels', told', rfl⟩ := Refusal.labels?_eq_some_iff.mp labels
    cases h'
    exact ⟨failed, labels', (optional_eq_some_iff (agrees h)).mp told, told', rfl⟩
  · rintro ⟨failed, labels, told, told', rfl⟩
    rw [(optional_eq_some_iff (agrees h)).mpr told,
      Refusal.labels?_eq_some_iff.mpr ⟨labels, told', rfl⟩]
    rfl

theorem ofReply?_of_garbled {reply : RawDocument} {fields : Document} {r : CommandReply}
    (h : CommandReply.Reads reply fields r)
    (garbled : Garbled Describes (fields.values "writeConcernError") ∨
      Garbled Value.IsTexts (fields.values "errorLabels")) : ofReply? reply = none := by
  refine Option.eq_none_iff_forall_ne_some.mpr fun o read => ?_
  obtain ⟨failed, labels, told, told', -⟩ := (ofReply?_eq_some_iff h).mp read
  rcases garbled with garbled | garbled
  · exact garbled_iff.mp garbled _ told
  · exact garbled_iff.mp garbled _ told'

end WriteConcernError

end UserProvision
