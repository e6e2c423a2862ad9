import UserProvision.Proofs.Number.Double
import UserProvision.Proofs.Reply.Command
import UserProvision.Proofs.Reply.LastError

/-!
# Numbers in replies

A reply is a success only if `ok` is one, and the code of a refusal is the number that the reply
gives, provided that this is an integer of 32 bits. Numbers count by their exact value, except for
the doubles that are near to an integer without being one (`Double.Nears`): those count as the
integer that they are near to.

## Main results

* `Value.integer?_eq_some_iff` — the integers that values count as.
* `Refusal.codes_iff_numbered` — the code of a refusal.
* `reply_numbers_settled` — the numbers in replies to requests of either strategy.
-/

namespace UserProvision

/-! ## Values -/

namespace Value

/-- The integer is the exact value of a number. -/
inductive IsNumber : Value → Int → Prop
  | int32 (n : Int32) : IsNumber (.int32 n) n.toInt
  | int64 (n : Int64) : IsNumber (.int64 n) n.toInt
  | double {x : Double} {n : Int} (int : x.IsInt n) : IsNumber (.double x) n

/-- A double is near to an integer without being one. -/
inductive Nears : Value → Int → Prop
  | double {x : Double} {n : Int} (finite : x.isFinite = true) (near : x.Nears n) :
    Nears (.double x) n

variable {v : Value}

theorem isNumber_double_iff {x : Double} {n : Int} : (Value.double x).IsNumber n ↔ x.IsInt n := by
  constructor
  · rintro (_ | _ | int)
    exact int
  · exact .double

/-- A number is a double, or it is stored in at most 64 bits and counts as its value. -/
theorem IsNumber.double_or_stored {n : Int} (h : v.IsNumber n) :
    (∃ x, v = .double x ∧ x.IsInt n) ∨ (v.integer? = some n ∧ n < 2 ^ 63) := by
  cases h with
  | int32 n =>
    have high := n.toInt_lt
    exact .inr ⟨rfl, by omega⟩
  | int64 n => exact .inr ⟨rfl, n.toInt_lt⟩
  | double int => exact .inl ⟨_, rfl, int⟩

/-- A number of 64 bits counts as its value, the double next beyond as the last integer that has
64 bits, and a double that is near to an integer as that. No other value counts. -/
theorem integer?_eq_some_iff {n : Int} :
    v.integer? = some n ↔
      (v.IsNumber n ∧ -2 ^ 63 ≤ n ∧ n < 2 ^ 63) ∨ (v.IsNumber (2 ^ 63) ∧ n = 2 ^ 63 - 1) ∨
        v.Nears n := by
  constructor
  · intro h
    unfold integer? at h
    split at h
    · rename_i k
      cases h
      have low := k.le_toInt
      have high := k.toInt_lt
      exact .inl ⟨.int32 k, by omega, by omega⟩
    · rename_i k
      cases h
      exact .inl ⟨.int64 k, k.le_toInt, k.toInt_lt⟩
    · rcases Double.integer?_eq_some_iff.mp h with ⟨int, range⟩ | ⟨int, rfl⟩ | ⟨finite, near⟩
      · exact .inl ⟨.double int, range⟩
      · exact .inr (.inl ⟨.double int, rfl⟩)
      · exact .inr (.inr (.double finite near))
    · cases h
  · rintro (⟨number, range⟩ | ⟨number, rfl⟩ | ⟨finite, near⟩)
    · rcases number.double_or_stored with ⟨x, rfl, int⟩ | ⟨counts, -⟩
      · exact Double.integer?_eq_some_iff.mpr (.inl ⟨int, range⟩)
      · exact counts
    · rcases number.double_or_stored with ⟨x, rfl, int⟩ | ⟨-, high⟩
      · exact Double.integer?_eq_some_iff.mpr (.inr (.inl ⟨int, rfl⟩))
      · exact absurd rfl high.ne
    · exact Double.integer?_eq_some_iff.mpr (.inr (.inr ⟨finite, near⟩))

/-- Integers of 32 bits come from numbers that are equal or near to them. -/
theorem integer?_eq_some_toInt_iff {k : Int32} :
    v.integer? = some k.toInt ↔ v.IsNumber k.toInt ∨ v.Nears k.toInt := by
  have low := k.le_toInt
  have high := k.toInt_lt
  rw [integer?_eq_some_iff]
  constructor
  · rintro (⟨number, -⟩ | ⟨-, limit⟩ | near)
    · exact .inl number
    · omega
    · exact .inr near
  · rintro (number | near)
    · exact .inl ⟨number, by omega, by omega⟩
    · exact .inr (.inr near)

end Value

/-- A value under `ok` means success if it is one, or a double that is near to one. -/
theorem CommandReply.isOk_iff_numbered {ok : Value} :
    isOk ok = true ↔ ok.IsNumber 1 ∨ ok.Nears 1 :=
  isOk_iff.trans (Value.integer?_eq_some_toInt_iff (k := 1))

/-! ## Codes -/

namespace Refusal

/-- The code that the values under a key tell: the number that they mean, if that is an integer of
32 bits or near to one, and otherwise that of an unknown error. -/
inductive Numbered : List Value → Int32 → Prop
  | missing : Numbered [] 8
  | exact {v m : Value} {n : Int32} (means : v.Means m) (number : m.IsNumber n.toInt) :
    Numbered [v] n
  | near {v m : Value} {n : Int32} (means : v.Means m) (near : m.Nears n.toInt) : Numbered [v] n
  | other {v m : Value} (means : v.Means m)
    (none : ∀ n : Int32, ¬ m.IsNumber n.toInt ∧ ¬ m.Nears n.toInt) : Numbered [v] 8

theorem codes_iff_numbered {vs : List Value} {n : Int32} : Codes vs n ↔ Numbered vs n := by
  constructor
  · rintro (_ | ⟨means, int⟩ | ⟨means, other⟩)
    · exact .missing
    · rcases Value.integer?_eq_some_toInt_iff.mp int with number | near
      · exact .exact means number
      · exact .near means near
    · exact .other means fun n => not_or.mp (Value.integer?_eq_some_toInt_iff.not.mp (other n))
  · rintro (_ | ⟨means, number⟩ | ⟨means, near⟩ | ⟨means, none⟩)
    · exact .missing
    · exact .told means (Value.integer?_eq_some_toInt_iff.mpr (.inl number))
    · exact .told means (Value.integer?_eq_some_toInt_iff.mpr (.inr near))
    · exact .untold means fun n => Value.integer?_eq_some_toInt_iff.not.mpr (not_or.mpr (none n))

end Refusal

/-! ## Replies -/

/-- The write was carried out, although it may not have been acknowledged as it was asked to be. -/
inductive CarriedOut : Except Error Event → Prop
  | acknowledged (event : Event) : CarriedOut (.ok event)
  | unacknowledged {e : Error} {failed : WriteConcernError} (kind : e.kind = .writeConcern failed) :
    CarriedOut (.error e)

variable {reply : RawDocument} {o : Except Error Event}

theorem CommandReply.ok_of_carriedOut (h : Amounts reply o) (carriedOut : CarriedOut o) :
    ∃ v ok, reply.values "ok" = [v] ∧ v.meaning? = some ok ∧ isOk ok = true := by
  cases h with
  | unreadable | garbledRefusal | garbledAcknowledgment =>
    obtain _ | kind := carriedOut
    cases kind
  | refused h notOk describes =>
    obtain _ | kind := carriedOut
    cases describes
    cases kind
  | unacknowledged h ok | accepted h ok =>
    obtain ⟨v, single, means⟩ := h.ok
    exact ⟨v, _, single, means, isOk_iff.mpr ok⟩

theorem LastError.ok_of_carriedOut (h : Amounts reply o) (carriedOut : CarriedOut o) :
    ∃ v ok, reply.values "ok" = [v] ∧ v.meaning? = some ok ∧ CommandReply.isOk ok = true := by
  cases h with
  | unreadable | refused | failed =>
    obtain _ | kind := carriedOut
    cases kind
  | unacknowledged h ok | inserted h ok =>
    obtain ⟨v, single, means⟩ := h.ok
    exact ⟨v, _, single, means, CommandReply.isOk_iff.mpr ok⟩

theorem CommandReply.numbered_of_refused {e : Error} (h : Amounts reply (.error e))
    {refused : CommandError} (kind : e.kind = .command refused) :
    ∃ fields, reply.read? = some fields ∧
      Refusal.Numbered (fields.values "code") refused.code := by
  cases h with
  | unreadable | garbledRefusal | garbledAcknowledgment | unacknowledged => cases kind
  | refused h notOk describes =>
    obtain ⟨codes, -, -, -⟩ := describes
    cases kind
    exact ⟨_, h.opens, Refusal.codes_iff_numbered.mp codes⟩

theorem LastError.not_refused {e : Error} (h : Amounts reply (.error e)) (refused : CommandError) :
    e.kind ≠ .command refused := by
  cases h <;> nofun

/-- Whatever the strategy, a reply is a success only if the value under `ok` is one or near to one,
and the code of a refused command is the number that the reply gives or is near to. -/
theorem reply_numbers_settled (c : Creation) (reply : RawDocument) :
    (∀ ok : Value, CommandReply.isOk ok = true ↔ ok.IsNumber 1 ∨ ok.Nears 1) ∧
      (CarriedOut (c.handleReply reply) →
        ∃ v ok, reply.values "ok" = [v] ∧ v.meaning? = some ok ∧ (ok.IsNumber 1 ∨ ok.Nears 1)) ∧
      ∀ e refused, c.handleReply reply = .error e → e.kind = .command refused →
        ∃ fields, reply.read? = some fields ∧
          Refusal.Numbered (fields.values "code") refused.code := by
  have numbered_ok (h : ∃ v ok, reply.values "ok" = [v] ∧ v.meaning? = some ok ∧
      CommandReply.isOk ok = true) :
      ∃ v ok, reply.values "ok" = [v] ∧ v.meaning? = some ok ∧ (ok.IsNumber 1 ∨ ok.Nears 1) := by
    obtain ⟨v, ok, single, means, isOk⟩ := h
    exact ⟨v, ok, single, means, CommandReply.isOk_iff_numbered.mp isOk⟩
  refine ⟨fun ok => CommandReply.isOk_iff_numbered, ?_⟩
  unfold Creation.handleReply
  rcases c.strategy with _ | _ | _
  · refine ⟨?_, ?_⟩
    · rintro ⟨⟩
      contradiction
    · rintro e refused ⟨⟩ ⟨⟩
  · refine ⟨fun carriedOut => ?_, fun e refused failed kind => ?_⟩
    · have amounts := CommandReply.acknowledgment_eq_iff.mp
        (Eq.refl (Strategy.command.acknowledgment reply))
      exact numbered_ok (CommandReply.ok_of_carriedOut amounts carriedOut)
    · exact CommandReply.numbered_of_refused (CommandReply.acknowledgment_eq_iff.mp failed) kind
  · refine ⟨fun carriedOut => ?_, fun e refused failed kind => ?_⟩
    · have amounts := LastError.acknowledgment_eq_iff.mp
        (Eq.refl (Strategy.insert.acknowledgment reply))
      exact numbered_ok (LastError.ok_of_carriedOut amounts carriedOut)
    · exact absurd kind (LastError.not_refused (LastError.acknowledgment_eq_iff.mp failed) refused)

theorem reply_numbers_settled_of_whole_double :
    let c : Creation := ⟨⟨⟨some "alice", some "app", none⟩, false, none⟩, some .command⟩
    let success := RawDocument.ofDocument [("ok", .int64 1)]
    let refusal := RawDocument.ofDocument [("ok", .int32 0), ("code", .double ⟨0x402A000000000000⟩)]
    (∃ v ok, success.values "ok" = [v] ∧ v.meaning? = some ok ∧ (ok.IsNumber 1 ∨ ok.Nears 1)) ∧
      ∃ e refused, c.handleReply refusal = .error e ∧ e.kind = .command refused ∧
        refused.code = 13 ∧ ∃ fields, refusal.read? = some fields ∧
          Refusal.Numbered (fields.values "code") refused.code := by
  intro c success refusal
  have accepted : CarriedOut (c.handleReply success) := .acknowledged (.userCreated "\x7b\x7d")
  obtain ⟨-, one, -⟩ := reply_numbers_settled c success
  obtain ⟨-, -, numbered⟩ := reply_numbers_settled c refusal
  exact ⟨one accepted, _, _, rfl, rfl, by decide +kernel, numbered _ _ rfl rfl⟩

/-- The double next above one counts as one and a tiny double as zero, although neither is an
integer: a refusal is taken for a success, and another one for a refusal with the code zero. -/
theorem inexact_numbers_are_taken :
    let command : Creation := ⟨⟨⟨some "alice", some "app", none⟩, false, none⟩, some .command⟩
    let insert : Creation := ⟨⟨⟨some "alice", some "app", none⟩, false, none⟩, some .insert⟩
    let next : Value := .double ⟨0x3FF0000000000001⟩
    let tiny : Value := .double ⟨1⟩
    let notOne := RawDocument.ofDocument [("ok", next)]
    let notZero := RawDocument.ofDocument [("ok", .int32 0), ("code", tiny)]
    ¬ next.IsNumber 1 ∧ (∀ n, ¬ tiny.IsNumber n) ∧
      (command.handleReply notOne).isOk = true ∧ (insert.handleReply notOne).isOk = true ∧
      ∃ e, command.handleReply notZero = .error e ∧ e.code? = some 0 := by
  intro command insert next tiny notOne notZero
  have nextNear : Double.Nears ⟨0x3FF0000000000001⟩ 1 := .one (by decide +kernel)
  have tinyNear : Double.Nears ⟨1⟩ 0 := .zero (by decide +kernel) (by decide +kernel)
  have zero : (match command.handleReply notZero with
      | .error e => e.code?
      | .ok _ => none) = some 0 := by decide +kernel
  refine ⟨fun one => ?_, fun n number => ?_, by decide +kernel, by decide +kernel, ?_⟩
  · exact nextNear.fraction (Value.isNumber_double_iff.mp one).dvd
  · exact tinyNear.fraction (Value.isNumber_double_iff.mp number).dvd
  · cases h : command.handleReply notZero with
    | ok => simp [h] at zero
    | error e => exact ⟨e, rfl, by simpa [h] using zero⟩

end UserProvision
