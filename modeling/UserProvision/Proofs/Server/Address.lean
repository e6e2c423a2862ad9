import Mathlib.Data.List.Basic
import Mathlib.Data.List.TFAE
import Mathlib.Data.List.TakeWhile
import Mathlib.Tactic.TFAE
import UserProvision.Log.Event

/-!
# What addresses are called

A text is read as an address just if it is spelled as one: a host without a colon and, after the
first colon if there is one, a port. The text that an address is printed as tells the host and the
port that is connected to, whatever the host holds. So printing, comparing, hashing and logging make
the same differences between addresses, and a missing port is the default port to all of them.

## Main definitions

* `Address.Spells` — the texts that spell an address.

## Main results

* `Digits.unsigned?_eq_some_iff` — how a number is read.
* `Address.parse_eq_ok_iff` — reading an address.
* `Address.Spells.text`, `Address.text_eq_iff` — printing one.
* `addresses_read_as_spelled` — which texts are read, and that printing is undone by reading.
* `addresses_compare_alike` — which addresses are the same.
-/

namespace UserProvision

/-! ## Digits -/

namespace Digits

theorem isDigit_eq (c : Char) : isDigit c = c.isDigit := by
  simp only [isDigit, Char.isDigit, Char.le_def, ge_iff_le]

/-- One or more digits are read as the number that they stand for. -/
theorem natural?_eq_some_iff {chars : List Char} {n : Nat} :
    natural? chars = some n ↔
      chars ≠ [] ∧ (∀ c ∈ chars, c.isDigit = true) ∧ Nat.ofDigitChars 10 chars 0 = n := by
  have value : Digits.value chars = Nat.ofDigitChars 10 chars 0 := rfl
  rw [natural?, Option.ite_none_right_eq_some, Bool.and_eq_true, List.all_eq_true, value]
  simp [isDigit_eq, and_assoc]

/-- One plus sign makes no difference. -/
theorem unsigned?_eq_some_iff {chars : List Char} {n : Nat} :
    unsigned? chars = some n ↔
      ∃ digits, (chars = digits ∨ chars = '+' :: digits) ∧ natural? digits = some n := by
  constructor
  · intro h
    unfold unsigned? at h
    split at h
    · exact ⟨_, .inr rfl, h⟩
    · exact ⟨_, .inl rfl, h⟩
  · rintro ⟨digits, rfl | rfl, h⟩
    · unfold unsigned?
      split
      · have digit := (natural?_eq_some_iff.mp h).2.1 '+' List.mem_cons_self
        cases digit
      · exact h
    · exact h

theorem isDigit_of_mem_toDigits {n : Nat} : ∀ c ∈ Nat.toDigits 10 n, c.isDigit = true := by
  intro c hc
  exact Nat.isDigit_of_mem_toDigits (by decide) (by decide) hc

theorem colon_notMem_toDigits (n : Nat) : ':' ∉ Nat.toDigits 10 n := by
  intro mem
  cases isDigit_of_mem_toDigits _ mem

end Digits

namespace Address

/-! ## Spelling -/

/-- The texts that spell an address: a host alone, which has at least one character but no colon, or
a host, a colon, perhaps a plus sign, and digits, whose number is the port and not zero. -/
inductive Spells : String → Address → Prop
  | host {host : String} (named : host ≠ "") (plain : ':' ∉ host.toList) : Spells host ⟨host, none⟩
  | port {host sign digits : String} {port : UInt16} (named : host ≠ "")
    (plain : ':' ∉ host.toList) (signed : sign = "" ∨ sign = "+") (nonempty : digits ≠ "")
    (decimal : ∀ c ∈ digits.toList, c.isDigit = true)
    (value : Nat.ofDigitChars 10 digits.toList 0 = port.toNat) (positive : 1 ≤ port.toNat) :
    Spells (host ++ ":" ++ (sign ++ digits)) ⟨host, some port⟩

theorem port?_eq_some_iff {chars : List Char} {port : UInt16} :
    port? chars = some port ↔ Digits.unsigned? chars = some port.toNat ∧ 1 ≤ port.toNat := by
  unfold port?
  split
  · rename_i n read
    rw [read, Option.ite_none_right_eq_some, Option.some_inj, Option.some_inj]
    constructor
    · rintro ⟨⟨positive, small⟩, rfl⟩
      rw [UInt16.toNat_ofNat_of_lt' small]
      exact ⟨rfl, positive⟩
    · rintro ⟨rfl, positive⟩
      exact ⟨⟨positive, port.toNat_lt⟩, UInt16.ofNat_toNat⟩
  · rename_i unread
    simp [unread]

/-- A text has no colon, or its first colon splits it. -/
theorem exists_split (text : String) :
    ':' ∉ text.toList ∨ ∃ host tail : String, ':' ∉ host.toList ∧ text = host ++ ":" ++ tail := by
  by_cases colon : ':' ∈ text.toList
  · obtain ⟨host, tail, split, plain⟩ := List.eq_append_cons_of_mem colon
    refine .inr ⟨String.ofList host, String.ofList tail, by simpa using plain, ?_⟩
    apply String.toList_inj.mp
    simp [split]
  · exact .inl colon

theorem bne_colon {chars : List Char} (plain : ':' ∉ chars) : ∀ c ∈ chars, (c != ':') = true :=
  fun _ hc => bne_iff_ne.mpr (ne_of_mem_of_not_mem hc plain)

theorem ofText?_of_plain {host : String} (plain : ':' ∉ host.toList) :
    ofText? host = if host = "" then none else some ⟨host, none⟩ := by
  have taken := List.takeWhile_eq_self_iff.mpr (bne_colon plain)
  have dropped := List.dropWhile_eq_nil_iff.mpr (bne_colon plain)
  simp [ofText?, taken, dropped]

theorem ofText?_of_colon {host : String} (plain : ':' ∉ host.toList) (tail : String) :
    ofText? (host ++ ":" ++ tail) =
      if host = "" then none else (port? tail.toList).map fun port => ⟨host, some port⟩ := by
  have chars : (host ++ ":" ++ tail).toList = host.toList ++ ':' :: tail.toList := by simp
  have taken : (host.toList ++ ':' :: tail.toList).takeWhile (· != ':') = host.toList := by
    rw [List.takeWhile_append_of_pos (bne_colon plain)]
    simp
  have dropped :
      (host.toList ++ ':' :: tail.toList).dropWhile (· != ':') = ':' :: tail.toList := by
    rw [List.dropWhile_append_of_pos (bne_colon plain)]
    simp
  rw [ofText?, chars, taken, dropped]
  simp

theorem ofText?_eq_some_iff {text : String} {a : Address} :
    ofText? text = some a ↔ Spells text a := by
  constructor
  · intro h
    rcases exists_split text with plain | ⟨host, tail, plain, rfl⟩
    · rw [ofText?_of_plain plain, Option.ite_none_left_eq_some] at h
      obtain ⟨named, eq⟩ := h
      cases eq
      exact .host named plain
    · rw [ofText?_of_colon plain, Option.ite_none_left_eq_some] at h
      obtain ⟨named, mapped⟩ := h
      obtain ⟨port, read, rfl⟩ := Option.map_eq_some_iff.mp mapped
      obtain ⟨number, positive⟩ := port?_eq_some_iff.mp read
      obtain ⟨digits, signed, number⟩ := Digits.unsigned?_eq_some_iff.mp number
      obtain ⟨nonempty, decimal, value⟩ := Digits.natural?_eq_some_iff.mp number
      have tail_eq : ∃ sign, (sign = "" ∨ sign = "+") ∧ tail = sign ++ String.ofList digits := by
        rcases signed with bare | plus
        · exact ⟨"", .inl rfl, String.toList_inj.mp (by simpa using bare)⟩
        · exact ⟨"+", .inr rfl, String.toList_inj.mp (by simpa using plus)⟩
      obtain ⟨sign, sign_eq, rfl⟩ := tail_eq
      exact .port named plain sign_eq (by simpa using nonempty) (by simpa using decimal)
        (by simpa using value) positive
  · intro h
    cases h with
    | host named plain => rw [ofText?_of_plain plain, if_neg named]
    | @port host sign digits port named plain signed nonempty decimal value positive =>
      have number : Digits.natural? digits.toList = some port.toNat :=
        Digits.natural?_eq_some_iff.mpr ⟨by simpa using nonempty, decimal, value⟩
      have whole : Digits.unsigned? (sign ++ digits).toList = some port.toNat := by
        refine Digits.unsigned?_eq_some_iff.mpr ⟨digits.toList, ?_, number⟩
        rcases signed with rfl | rfl
        · exact .inl (by simp)
        · exact .inr (by simp)
      have read : port? (sign ++ digits).toList = some port :=
        port?_eq_some_iff.mpr ⟨whole, positive⟩
      rw [ofText?_of_colon plain, if_neg named, read]
      rfl

theorem parse_eq_ok_iff {text : String} {a : Address} : parse text = .ok a ↔ Spells text a := by
  rw [← ofText?_eq_some_iff, parse]
  cases ofText? text <;> simp

theorem parse_eq_error {text : String} (h : ∀ a, ¬ Spells text a) :
    parse text = .error (.invalidArgument ("invalid server address: " ++ text)) := by
  have unread : ofText? text = none := by
    rw [Option.eq_none_iff_forall_ne_some]
    intro a read
    exact h a (ofText?_eq_some_iff.mp read)
  rw [parse, unread]

/-! ## Printing -/

theorem toList_text (a : Address) :
    a.text.toList = a.host.toList ++ ':' :: Nat.toDigits 10 a.effectivePort.toNat := by
  simp [text]

theorem Spells.host_eq {text : String} {a : Address} (h : Spells text a) :
    a.host ≠ "" ∧ ':' ∉ a.host.toList := by
  cases h with
  | host named plain | port named plain => exact ⟨named, plain⟩

theorem Spells.one_le_effectivePort {text : String} {a : Address} (h : Spells text a) :
    1 ≤ a.effectivePort.toNat := by
  cases h with
  | host =>
    change 1 ≤ defaultPort.toNat
    decide
  | port _ _ _ _ _ _ positive => exact positive

/-- The text of an address that was read spells it again, with the port that is connected to. -/
theorem Spells.text {text : String} {a : Address} (h : Spells text a) :
    Spells a.text ⟨a.host, some a.effectivePort⟩ := by
  have digits : (toString a.effectivePort.toNat).toList =
      Nat.toDigits 10 a.effectivePort.toNat := by
    rw [Nat.toString_eq_repr, Nat.toList_repr]
  have printed : Spells (a.host ++ ":" ++ ("" ++ toString a.effectivePort.toNat))
      ⟨a.host, some a.effectivePort⟩ :=
    .port h.host_eq.1 h.host_eq.2 (.inl rfl) (by simp)
      (digits ▸ Digits.isDigit_of_mem_toDigits) (digits ▸ Nat.ofDigitChars_ten_toDigits)
      h.one_le_effectivePort
  rwa [String.empty_append] at printed

/-- Where an item occurs for the last time is told by what stands behind it. -/
theorem append_cons_inj {α : Type} {c : α} {before before' after after' : List α} (h : c ∉ after)
    (h' : c ∉ after') (eq : before ++ c :: after = before' ++ c :: after') :
    before = before' ∧ after = after' := by
  induction before generalizing before' with
  | nil => cases before' <;> grind
  | cons x before ih => cases before' <;> grind

/-- Host and port can be told from the text, whatever the host holds. -/
theorem text_eq_iff {a b : Address} :
    a.text = b.text ↔ a.host = b.host ∧ a.effectivePort = b.effectivePort := by
  constructor
  · intro h
    have chars := congrArg String.toList h
    rw [toList_text, toList_text] at chars
    -- The port has no colon, so the last colon of the text stands in front of it.
    obtain ⟨host, digits⟩ := append_cons_inj (Digits.colon_notMem_toDigits _)
      (Digits.colon_notMem_toDigits _) chars
    have port := congrArg (Nat.ofDigitChars 10 · 0) digits
    simp only [Nat.ofDigitChars_ten_toDigits] at port
    exact ⟨String.toList_inj.mp host, UInt16.toNat_inj.mp port⟩
  · rintro ⟨host, port⟩
    rw [Address.text, Address.text, host, port]

/-! ## Comparing, hashing and logging -/

theorem sameAs_iff {a b : Address} :
    a.sameAs b = true ↔ a.host = b.host ∧ a.effectivePort = b.effectivePort := by
  simp [sameAs]

theorem hashInput_eq_iff {a b : Address} :
    a.hashInput = b.hashInput ↔ a.host = b.host ∧ a.effectivePort = b.effectivePort := by
  simp [hashInput]

theorem serverFields_eq_iff {a b : Address} :
    Event.serverFields a = Event.serverFields b ↔
      a.host = b.host ∧ a.effectivePort = b.effectivePort := by
  simp only [Event.serverFields, List.cons.injEq, Prod.mk.injEq, FieldValue.text.injEq,
    FieldValue.number.injEq, Int.ofNat_inj, UInt16.toNat_inj, true_and, and_true]

theorem equivalence_sameAs : Equivalence fun a b : Address => a.sameAs b = true where
  refl _ := sameAs_iff.mpr ⟨rfl, rfl⟩
  symm h := by
    obtain ⟨host, port⟩ := sameAs_iff.mp h
    exact sameAs_iff.mpr ⟨host.symm, port.symm⟩
  trans h h' := by
    obtain ⟨host, port⟩ := sameAs_iff.mp h
    obtain ⟨host', port'⟩ := sameAs_iff.mp h'
    exact sameAs_iff.mpr ⟨host.trans host', port.trans port'⟩

end Address

/-- A text is read as an address just if it spells it, and is an invalid argument if it spells none.
The text that a read address is printed as is read again, as an address that is the same, hashes to
the same and is printed as the same text. -/
theorem addresses_read_as_spelled :
    (∀ (text : String) (a : Address), Address.parse text = .ok a ↔ Address.Spells text a) ∧
    (∀ text : String, (∀ a, ¬ Address.Spells text a) →
      Address.parse text = .error (.invalidArgument ("invalid server address: " ++ text))) ∧
    ∀ (text : String) (a : Address), Address.parse text = .ok a →
      ∃ b, Address.parse a.text = .ok b ∧ a.sameAs b = true ∧ b.hashInput = a.hashInput ∧
        b.text = a.text := by
  refine ⟨fun text a => Address.parse_eq_ok_iff, fun text => Address.parse_eq_error, ?_⟩
  intro text a read
  have spells := (Address.parse_eq_ok_iff.mp read).text
  exact ⟨⟨a.host, some a.effectivePort⟩, Address.parse_eq_ok_iff.mpr spells,
    Address.sameAs_iff.mpr ⟨rfl, rfl⟩, rfl, rfl⟩

theorem addresses_read_as_spelled_past_leading_zeros :
    Address.parse "db:+0065535" = .ok ⟨"db", some 65535⟩ ∧
      (∃ b, Address.parse "db:65535" = .ok b ∧ b.text = "db:65535") ∧
      (∀ a, ¬ Address.Spells "db:65536" a) ∧
      Address.parse "db:65536" = .error (.invalidArgument "invalid server address: db:65536") := by
  obtain ⟨reads, refuses, prints⟩ := addresses_read_as_spelled
  have text : "db:+0065535" = "db" ++ ":" ++ ("+" ++ "0065535") := by decide
  have spells : Address.Spells "db:+0065535" ⟨"db", some 65535⟩ := by
    rw [text]
    refine .port (by decide) (by decide) (.inr rfl) (by decide) ?_ (by decide) (by decide)
    exact List.all_eq_true.mp (by decide)
  have read : Address.parse "db:+0065535" = .ok ⟨"db", some 65535⟩ := (reads _ _).mpr spells
  obtain ⟨b, again, -, -, same⟩ := prints _ _ read
  have unread : ∀ a, ¬ Address.Spells "db:65536" a := by
    intro a spells
    cases (reads _ _).mpr spells
  exact ⟨read, ⟨b, again, same⟩, unread, refuses _ unread⟩

/-- Two addresses are the same just if they are printed as the same text, just if hashes of them are
made of the same, and just if they are logged as the same. So to be the same is an equivalence that
hashes respect, though an address without a port is not the one with the default port. -/
theorem addresses_compare_alike :
    (∀ a b : Address,
      [a.sameAs b = true,
        a.text = b.text,
        a.hashInput = b.hashInput,
        Event.serverFields a = Event.serverFields b,
        ∀ command, Event.tripFields ⟨command, a⟩ = Event.tripFields ⟨command, b⟩,
        ∀ strategy version database, (Event.strategySelected strategy version database a).fields =
          (Event.strategySelected strategy version database b).fields].TFAE) ∧
    (Equivalence fun a b : Address => a.sameAs b = true) ∧
    ∀ host : String, (⟨host, none⟩ : Address) ≠ ⟨host, some 27017⟩ ∧
      Address.sameAs ⟨host, none⟩ ⟨host, some 27017⟩ = true := by
  refine ⟨fun a b => ?_, Address.equivalence_sameAs, fun host => ?_⟩
  · tfae_have 1 ↔ 2 := Address.sameAs_iff.trans Address.text_eq_iff.symm
    tfae_have 1 ↔ 3 := Address.sameAs_iff.trans Address.hashInput_eq_iff.symm
    tfae_have 1 ↔ 4 := Address.sameAs_iff.trans Address.serverFields_eq_iff.symm
    tfae_have 4 ↔ 5 := by simp [Event.tripFields]
    tfae_have 4 ↔ 6 := by simp [Event.fields]
    tfae_finish
  · exact ⟨by simp, Address.sameAs_iff.mpr ⟨rfl, rfl⟩⟩

end UserProvision
