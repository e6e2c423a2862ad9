import UserProvision.Reply.Command
import UserProvision.Proofs.Document.Field

/-!
# Refused commands

The same bytes are read up to three times to settle what a reply to the command amounts to. A reply
that reads (`CommandReply.Reads`) opens with all that is in it, so that the other readings can be
described by its opened fields. Of the two readings of a refusal, the strict one goes first and adds
nothing: what it accepts, the lenient one accepts as the same error.

## Main results

* `Refusal.lenient?_eq_some_iff`, `Refusal.lenient?_of_isGarbled` — what the lenient reading
  accepts.
* `Refusal.lenient?_of_strict?`, `Refusal.strict?_or_lenient?` — that the strict reading goes first
  makes no difference.
-/

namespace UserProvision

open UserProvision.Field

/-! ## Replies that read -/

/-- A reply that reads as one to a command: it opens with all that is in it, its field `ok` is there
once and means something as it is read, and the other fields together mean a document. -/
structure CommandReply.Reads (reply : RawDocument) (fields : Document) (r : CommandReply) :
    Prop where
  opens : reply.read? = some fields
  ok : ∃ v, reply.values "ok" = [v] ∧ v.meaning? = some r.ok
  rest : (fields.except "ok").meaning = some r.rest

namespace CommandReply

variable {reply : RawDocument} {fields : Document} {r : CommandReply}

theorem reads_iff (opens : reply.read? = some fields) :
    Reads reply fields r ↔ ofReply? reply = some r := by
  unfold ofReply?
  rw [RawDocument.readExcept?_of_read? opens]
  constructor
  · rintro ⟨-, ok, rest⟩
    have ok := required_eq_some_iff.mpr ok
    simp [ok, rest]
  · intro h
    obtain ⟨_, eq, h⟩ := Option.bind_eq_some_iff.mp h
    cases eq
    obtain ⟨ok, required, h⟩ := Option.bind_eq_some_iff.mp h
    obtain ⟨rest, meaning, h⟩ := Option.bind_eq_some_iff.mp h
    cases h
    exact ⟨opens, required_eq_some_iff.mp required, meaning⟩

theorem Reads.ofReply?_eq (h : Reads reply fields r) : ofReply? reply = some r :=
  (reads_iff h.opens).mp h

/-- Every field of a reply but `ok` means something. -/
theorem Reads.meanings (h : Reads reply fields r) {key : String} (other : key ≠ "ok")
    (plain : Document.IsPlain key) : ∀ v ∈ fields.values key, ∃ m, v.Means m := by
  have rest := h.rest
  unfold Document.meaning at rest
  split at rest
  · rename_i whole
    rw [← Document.values_except other]
    exact Document.means_of_mem_values whole plain
  · cases rest

/-- What stands under a key of a reply agrees with the field that it opens as. -/
theorem Reads.agrees (h : Reads reply fields r) {key : String} (other : key ≠ "ok")
    (plain : Document.IsPlain key) {β : Type} {read : RawValue → Option β} {is : Value → β → Prop}
    (reads : ∀ v w m, v.read? = some w → w.Means m → ∀ b, read v = some b ↔ is w b) :
    List.Forall₂ (Agrees read is) (reply.values key) (fields.values key) :=
  RawDocument.agrees_values h.opens (h.meanings other plain) reads

end CommandReply

/-! ## Refusals -/

namespace Refusal

/-- The code that the values under a key tell: what they mean, if that is an integer of 32 bits, and
otherwise that of an unknown error. -/
inductive Codes : List Value → Int32 → Prop
  | missing : Codes [] 8
  | told {v m : Value} {n : Int32} (means : v.Means m) (int : m.integer? = some n.toInt) :
    Codes [v] n
  | untold {v m : Value} (means : v.Means m) (other : ∀ n : Int32, m.integer? ≠ some n.toInt) :
    Codes [v] 8

/-- The error that a refusal describes. -/
inductive Describes (fields : Document) : Error → Prop
  | command {code : Int32} {codeName message : Option String} {labels : Option (List String)}
    (codes : Codes (fields.values "code") code)
    (names : Told Value.IsText (fields.values "codeName") codeName)
    (messages : Told Value.IsText (fields.values "errmsg") message)
    (labelled : Told Value.IsTexts (fields.values "errorLabels") labels) :
    Describes fields (.labelled (.command ⟨code, codeName.getD "", message.getD ""⟩)
      (labels.getD []))

theorem code_of_integer? {m : Value} {n : Int32} (h : m.integer? = some n.toInt) :
    code (some m) = n := by
  simp [code, h, Value.fitsInt32_iff.mpr ⟨n, rfl⟩]

theorem code_of_ne {m : Value} (h : ∀ n : Int32, m.integer? ≠ some n.toInt) :
    code (some m) = CommandError.unknownCode := by
  unfold code
  split
  · rename_i n int
    refine if_neg fun fits => ?_
    obtain ⟨k, rfl⟩ := Value.fitsInt32_iff.mp fits
    exact h k int
  · rfl

theorem means_null {m : Value} : Value.null.Means m ↔ m = .null := by
  rw [Value.Means, Value.meaning, Option.some.injEq, eq_comm]

/-- The code of a refusal is read from the value that is told, if any. -/
theorem codes_iff {vs : List Value} {n : Int32} :
    (∃ value, Told Value.Means vs value ∧ code value = n) ↔ Codes vs n := by
  constructor
  · rintro ⟨value, told, rfl⟩
    cases told with
    | missing => exact .missing
    | null => exact .untold (means_null.mpr rfl) nofun
    | @given v m _ means =>
      by_cases int : ∃ n : Int32, m.integer? = some n.toInt
      · obtain ⟨n, int⟩ := int
        rw [code_of_integer? int]
        exact .told means int
      · have other := not_exists.mp int
        rw [code_of_ne other]
        exact .untold means other
  · rintro (_ | ⟨means, int⟩ | ⟨means, other⟩)
    · exact ⟨none, .missing, rfl⟩
    · refine ⟨some _, .given ?_ means, code_of_integer? int⟩
      rintro rfl
      cases means_null.mp means
      cases int
    · rename_i v m
      by_cases present : v = .null
      · subst present
        exact ⟨none, .null, rfl⟩
      · exact ⟨some m, .given present means, code_of_ne other⟩

variable {reply : RawDocument} {fields : Document} {r : CommandReply} {e : Error}

theorem labels?_eq_some_iff {labels : List String} :
    labels? fields = some labels ↔
      ∃ o, Told Value.IsTexts (fields.values "errorLabels") o ∧ o.getD [] = labels := by
  simp only [labels?, Option.map_eq_some_iff, optional_iff_told texts?_eq_some_iff]

theorem labels?_except {key : String} (other : "errorLabels" ≠ key) :
    labels? (fields.except key) = labels? fields := by
  rw [labels?, labels?, Document.values_except other]

/-- The lenient reading accepts the refusals that describe an error. -/
theorem lenient?_eq_some_iff (h : CommandReply.Reads reply fields r) :
    lenient? reply = some e ↔ Describes fields e := by
  have codes : List.Forall₂ (Agrees RawValue.meaning? Value.Means) (reply.values "code")
      (fields.values "code") :=
    h.agrees (by decide) ⟨by decide, by decide, rfl⟩ fun v w m read means b => by
      rw [RawValue.meaning?_of_meaning read means, Value.Means, means]
  have name : (fields.except "code").values "codeName" = fields.values "codeName" :=
    Document.values_except (by decide) fields
  have errmsg : (fields.except "code").values "errmsg" = fields.values "errmsg" :=
    Document.values_except (by decide) fields
  have labels : labels? (fields.except "code") = labels? fields := labels?_except (by decide)
  unfold lenient?
  rw [RawDocument.readExcept?_of_read? h.opens, Option.bind_eq_bind, Option.bind_some]
  dsimp only
  rw [name, errmsg, labels]
  constructor
  · intro h
    obtain ⟨value, hvalue, h⟩ := Option.bind_eq_some_iff.mp h
    obtain ⟨codeName, hname, h⟩ := Option.bind_eq_some_iff.mp h
    obtain ⟨message, hmessage, h⟩ := Option.bind_eq_some_iff.mp h
    obtain ⟨_, hlabels, h⟩ := Option.bind_eq_some_iff.mp h
    obtain ⟨labels, told, rfl⟩ := labels?_eq_some_iff.mp hlabels
    cases h
    exact .command (codes_iff.mp ⟨value, (optional_eq_some_iff codes).mp hvalue, rfl⟩)
      ((optional_iff_told text?_eq_some_iff).mp hname)
      ((optional_iff_told text?_eq_some_iff).mp hmessage) told
  · rintro ⟨hcodes, hnames, hmessages, hlabels⟩
    obtain ⟨value, told, rfl⟩ := codes_iff.mpr hcodes
    rw [(optional_eq_some_iff codes).mpr told,
      (optional_iff_told text?_eq_some_iff).mpr hnames,
      (optional_iff_told text?_eq_some_iff).mpr hmessages,
      labels?_eq_some_iff.mpr ⟨_, hlabels, rfl⟩]
    rfl

theorem told_of_stated {vs : List Value} {text : String}
    (h : Stated "" Value.IsText vs text) : ∃ o, Told Value.IsText vs o ∧ o.getD "" = text := by
  obtain _ | h := h
  · exact ⟨none, .missing, rfl⟩
  · refine ⟨some text, .given ?_ h, rfl⟩
    rintro rfl
    cases h

theorem codes_of_isInt32 {v : Value} {n : Int32} (h : v.IsInt32 n) : Codes [v] n := by
  cases h with
  | int32 n => exact .told (by rw [Value.Means, Value.meaning]) rfl
  | @int64 k _ same =>
    exact .told (m := .int64 k) (by rw [Value.Means, Value.meaning]) (congrArg some same)

/-- The strict reading accepts some of these refusals, and as the same errors. -/
theorem describes_of_strict? (opens : reply.read? = some fields) (h : strict? reply = some e) :
    Describes fields e := by
  unfold strict? at h
  rw [opens, Option.bind_eq_bind, Option.bind_some] at h
  obtain ⟨_, hlabels, h⟩ := Option.bind_eq_some_iff.mp h
  obtain ⟨code, hcode, h⟩ := Option.bind_eq_some_iff.mp h
  obtain ⟨codeName, hname, h⟩ := Option.bind_eq_some_iff.mp h
  obtain ⟨message, hmessage, h⟩ := Option.bind_eq_some_iff.mp h
  cases h
  obtain ⟨labels, told, rfl⟩ := labels?_eq_some_iff.mp hlabels
  obtain ⟨v, single, int⟩ := required_eq_some_iff.mp hcode
  obtain ⟨name, names, rfl⟩ :=
    told_of_stated ((withDefault_eq_some_iff text?_eq_some_iff).mp hname)
  obtain ⟨text, messages, rfl⟩ :=
    told_of_stated ((withDefault_eq_some_iff text?_eq_some_iff).mp hmessage)
  exact .command (single ▸ codes_of_isInt32 (int32?_eq_some_iff.mp int)) names messages told

/-- The parts of a refusal that make it unreadable if they are repeated or of another type. -/
def IsGarbled (fields : Document) : Prop :=
  2 ≤ (fields.values "code").length ∨ Garbled Value.IsText (fields.values "codeName") ∨
    Garbled Value.IsText (fields.values "errmsg") ∨
    Garbled Value.IsTexts (fields.values "errorLabels")

theorem length_of_codes {vs : List Value} {n : Int32} (h : Codes vs n) : vs.length ≤ 1 := by
  cases h <;> simp

theorem not_isGarbled_of_describes (h : Describes fields e) : ¬ IsGarbled fields := by
  obtain ⟨codes, names, messages, labelled⟩ := h
  rintro (several | garbled | garbled | garbled)
  · have := length_of_codes codes
    omega
  · exact garbled_iff.mp garbled _ names
  · exact garbled_iff.mp garbled _ messages
  · exact garbled_iff.mp garbled _ labelled

/-- The lenient reading refuses what is garbled. -/
theorem lenient?_of_isGarbled (h : CommandReply.Reads reply fields r) (garbled : IsGarbled fields) :
    lenient? reply = none := by
  refine Option.eq_none_iff_forall_ne_some.mpr fun e read => ?_
  exact not_isGarbled_of_describes ((lenient?_eq_some_iff h).mp read) garbled

theorem exists_codes {vs : List Value} (meanings : ∀ v ∈ vs, ∃ m, v.Means m) (h : vs.length ≤ 1) :
    ∃ n, Codes vs n := by
  rcases told_or_garbled Value.Means vs with ⟨value, told⟩ | garbled
  · exact ⟨_, codes_iff.mp ⟨value, told, rfl⟩⟩
  · cases garbled with
    | repeated => simp at h
    | mistyped _ other =>
      obtain ⟨m, means⟩ := meanings _ List.mem_cons_self
      exact absurd means (other m)

/-- A refusal describes an error or is garbled. -/
theorem exists_describes_or_isGarbled (h : CommandReply.Reads reply fields r) :
    (∃ e, Describes fields e) ∨ IsGarbled fields := by
  rcases told_or_garbled Value.IsText (fields.values "codeName") with ⟨_, names⟩ | garbled
  · rcases told_or_garbled Value.IsText (fields.values "errmsg") with ⟨_, messages⟩ | garbled
    · rcases told_or_garbled Value.IsTexts (fields.values "errorLabels") with
        ⟨_, labelled⟩ | garbled
      · by_cases single : (fields.values "code").length ≤ 1
        · obtain ⟨n, codes⟩ := exists_codes (h.meanings (by decide)
            ⟨by decide, by decide, rfl⟩) single
          exact .inl ⟨_, .command codes names messages labelled⟩
        · exact .inr (.inl (by omega))
      · exact .inr (.inr (.inr (.inr garbled)))
    · exact .inr (.inr (.inr (.inl garbled)))
  · exact .inr (.inr (.inl garbled))

/-- What the strict reading accepts, the lenient one accepts as the same error. -/
theorem lenient?_of_strict? (read : CommandReply.ofReply? reply = some r)
    (h : strict? reply = some e) : lenient? reply = some e := by
  obtain ⟨fields, opens, -⟩ := Option.bind_eq_some_iff.mp h
  exact (lenient?_eq_some_iff ((CommandReply.reads_iff opens).mpr read)).mpr
    (describes_of_strict? opens h)

/-- That the strict reading goes first makes no difference. -/
theorem strict?_or_lenient? (read : CommandReply.ofReply? reply = some r) :
    (strict? reply <|> lenient? reply) = lenient? reply := by
  cases strict : strict? reply with
  | none => rfl
  | some e => exact (lenient?_of_strict? read strict).symm

/-- The lenient reading makes nothing but errors of a refused command. -/
theorem exists_command_of_lenient? (h : lenient? reply = some e) :
    ∃ refused labels, e = .labelled (.command refused) labels := by
  obtain ⟨_, -, h⟩ := Option.bind_eq_some_iff.mp h
  obtain ⟨_, -, h⟩ := Option.bind_eq_some_iff.mp h
  obtain ⟨_, -, h⟩ := Option.bind_eq_some_iff.mp h
  obtain ⟨_, -, h⟩ := Option.bind_eq_some_iff.mp h
  obtain ⟨_, -, h⟩ := Option.bind_eq_some_iff.mp h
  cases h
  exact ⟨_, _, rfl⟩

end Refusal

end UserProvision
