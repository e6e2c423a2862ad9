import UserProvision.Proofs.Document.Field
import UserProvision.Proofs.Document.ReadBack
import UserProvision.User.WriteConcern

/-!
# Write concerns as they are sent

A write concern is sent as a document of at most three fields, each there just if it is set. What
was set can be read from that document, but for the parts of a timeout below a millisecond; and a
name that is the word for the majority is read as the majority. A timeout of 2^63 milliseconds or
more does not fit the largest form of an integer, and is sent as another number.

## Main definitions

* `WriteConcern.Spells` — what each field of the document says.
* `WriteConcern.ofDocument?` — reads a write concern from its document.
* `WriteConcern.coarse` — what is left of a write concern once it was sent and read.

## Main results

* `WriteConcern.ofDocument?_toDocument` — reading what was sent.
* `write_concern_reads_back` — this with all that the document says.
-/

namespace UserProvision

/-! ## Integers in two sizes -/

namespace Value

/-- The integer that a value is, in 32 bits if it fits them and otherwise in 64. -/
inductive IsShortest : Value → Int → Prop
  | int32 (n : Int32) : IsShortest (.int32 n) n.toInt
  | int64 {n : Int64} (large : fitsInt32 n.toInt = false) : IsShortest (.int64 n) n.toInt

theorem IsShortest.integer? {v : Value} {n : Int} (h : v.IsShortest n) : v.integer? = some n := by
  cases h <;> rfl

/-- An integer is written modulo 2^64. -/
theorem integer?_ofInt (n : Int) : (ofInt n).integer? = some (n.bmod (2 ^ 64)) := by
  unfold ofInt
  split
  · rename_i fits
    obtain ⟨k, rfl⟩ := fitsInt32_iff.mp fits
    have low := k.le_toInt
    have high := k.toInt_lt
    rw [Int32.ofInt_toInt, Int.bmod_eq_of_le (by omega) (by omega)]
    rfl
  · exact congrArg some Int64.toInt_ofInt

theorem isShortest_ofInt {n : Int} (low : -2 ^ 63 ≤ n) (high : n < 2 ^ 63) :
    (ofInt n).IsShortest n := by
  unfold ofInt
  split
  · rename_i fits
    obtain ⟨k, rfl⟩ := fitsInt32_iff.mp fits
    rw [Int32.ofInt_toInt]
    exact .int32 k
  · rename_i large
    have same : (Int64.ofInt n).toInt = n := Int64.toInt_ofInt_of_le low high
    have shortest : IsShortest (.int64 (Int64.ofInt n)) (Int64.ofInt n).toInt :=
      .int64 (by rw [same]; simpa using large)
    rwa [same] at shortest

end Value

/-! ## Timeouts -/

namespace Span

theorem toValue_eq (s : Span) : s.toValue = Value.ofInt s.wholeMillis := by
  have small : Value.fitsInt32 s.wholeMillis = true ↔ s.wholeMillis < 2 ^ 31 := by
    simp only [Value.fitsInt32, Bool.and_eq_true, decide_eq_true_eq]
    omega
  rw [toValue, Value.ofInt]
  by_cases fits : s.wholeMillis < 2 ^ 31
  · rw [if_pos fits, if_pos (small.mpr fits), Int32.ofInt_eq_ofNat]
  · rw [if_neg fits, if_neg (small.not.mpr fits), Int64.ofInt_eq_ofNat]

theorem isShortest_toValue {s : Span} (h : s.wholeMillis < 2 ^ 63) :
    s.toValue.IsShortest s.wholeMillis := by
  rw [toValue_eq]
  exact Value.isShortest_ofInt (by omega) (by omega)

/-- A longer span has no fewer milliseconds. -/
theorem wholeMillis_mono {s s' : Span} (h : s.totalNanos ≤ s'.totalNanos) :
    s.wholeMillis ≤ s'.wholeMillis :=
  Nat.div_le_div_right h

/-- A span without the part below a millisecond. -/
def truncated (s : Span) : Span :=
  ⟨s.seconds, s.nanos / 10 ^ 6 * 10 ^ 6, (Nat.div_mul_le_self ..).trans_lt s.nanos_lt⟩

/-- The span of some milliseconds. -/
def ofMillis (n : Nat) : Span := ofParts (n / 1000) (n % 1000 * 10 ^ 6)

theorem ofMillis_wholeMillis (s : Span) : ofMillis s.wholeMillis = s.truncated := by
  have nanos := s.nanos_lt
  have millis : s.wholeMillis = s.seconds.toNat * 1000 + s.nanos / 10 ^ 6 := by
    rw [wholeMillis, totalNanos]
    omega
  have seconds : s.wholeMillis / 1000 + s.wholeMillis % 1000 * 10 ^ 6 / 10 ^ 9 =
      s.seconds.toNat := by
    omega
  have part : s.wholeMillis % 1000 * 10 ^ 6 % 10 ^ 9 = s.nanos / 10 ^ 6 * 10 ^ 6 := by
    omega
  simp only [ofMillis, ofParts, truncated, seconds, part, UInt64.ofNat_toNat]

/-- Reads a timeout. -/
def ofValue? (v : Value) : Option Span :=
  (v.integer?.filter (0 ≤ ·)).map fun n => ofMillis n.toNat

theorem ofValue?_toValue {s : Span} (h : s.wholeMillis < 2 ^ 63) :
    ofValue? s.toValue = some s.truncated := by
  have positive : (0 : Int) ≤ s.wholeMillis := by omega
  rw [ofValue?, (isShortest_toValue h).integer?, Option.filter_some,
    if_pos (decide_eq_true positive), Option.map_some, Int.toNat_natCast, ofMillis_wholeMillis]

end Span

/-! ## Acknowledgers -/

namespace Acknowledgers

/-- The value that acknowledgers are sent as. -/
inductive Spells : Acknowledgers → Value → Prop
  | nodes {count : UInt32} {v : Value} (h : v.IsShortest count.toNat) : Spells (.nodes count) v
  | majority : Spells .majority (.string "majority")
  | tagged (name : String) : Spells (.tagged name) (.string name)

theorem spells_toValue (a : Acknowledgers) : a.Spells a.toValue := by
  cases a with
  | nodes count =>
    have := count.toNat_lt
    exact .nodes (Value.isShortest_ofInt (by omega) (by omega))
  | majority => exact .majority
  | tagged name => exact .tagged name

/-- Nobody but no server at all is sent as the number zero. -/
theorem Spells.integer?_ne_zero {a : Acknowledgers} {v : Value} (h : a.Spells v)
    (asks : a ≠ .nodes 0) : v.integer? ≠ some 0 := by
  cases h with
  | @nodes count v h =>
    rw [h.integer?]
    intro zero
    have nobody : count.toNat = (0 : UInt32).toNat := by simpa using zero
    exact asks (congrArg Acknowledgers.nodes (UInt32.toNat_inj.mp nobody))
  | majority | tagged => nofun

/-- Tags that go by the word for the majority are taken for it. -/
def coarse : Acknowledgers → Acknowledgers
  | .tagged name => ofName name
  | a => a

/-- Reads acknowledgers. -/
def ofValue? : Value → Option Acknowledgers
  | .string name => some (ofName name)
  | v => (v.integer?.filter fun n => 0 ≤ n && n < 2 ^ 32).map fun n => nodes (.ofNat n.toNat)

theorem ofValue?_of_spells {a : Acknowledgers} {v : Value} (h : a.Spells v) :
    ofValue? v = some a.coarse := by
  cases h with
  | majority | tagged => rfl
  | @nodes count v h =>
    have small := count.toNat_lt
    have number : ofValue? v =
        (v.integer?.filter fun n => 0 ≤ n && n < 2 ^ 32).map fun n => nodes (.ofNat n.toNat) := by
      generalize (count.toNat : Int) = n at h
      cases h <;> rfl
    have inRange : (0 : Int) ≤ count.toNat ∧ (count.toNat : Int) < 2 ^ 32 := by omega
    rw [number, h.integer?, Option.filter_some, if_pos (by simpa using inRange), Option.map_some,
      Int.toNat_natCast, UInt32.ofNat_toNat]
    rfl

end Acknowledgers

/-! ## Whole write concerns -/

theorem Document.values_append (d d' : Document) (key : String) :
    Document.values (d ++ d') key = d.values key ++ d'.values key := by
  simp [values]

namespace WriteConcern

/-- What a document says of a write concern: in this order, a field for each part that is set. -/
structure Spells (w : WriteConcern) (d : Document) : Prop where
  keys : d.keys.Sublist ["w", "wtimeout", "j"]
  acknowledgers : List.Forall₂ Acknowledgers.Spells w.acknowledgers.toList (d.values "w")
  timeout : List.Forall₂ (fun s v => s.wholeMillis < 2 ^ 63 → v.IsShortest s.wholeMillis)
    w.timeout.toList (d.values "wtimeout")
  journal : d.values "j" = w.journal.toList.map .boolean

theorem values_field {α : Type} (key key' : String) (toValue : α → Value) (part : Option α) :
    Document.values (field key toValue part) key' =
      if key = key' then part.toList.map toValue else [] := by
  cases part with
  | none => simp [field, Document.values]
  | some a => by_cases own : key = key' <;> simp [field, Document.values, own]

theorem values_w (w : WriteConcern) :
    w.toDocument.values "w" = w.acknowledgers.toList.map Acknowledgers.toValue := by
  simp [toDocument, Document.values_append, values_field]

theorem values_wtimeout (w : WriteConcern) :
    w.toDocument.values "wtimeout" = w.timeout.toList.map Span.toValue := by
  simp [toDocument, Document.values_append, values_field]

theorem values_j (w : WriteConcern) :
    w.toDocument.values "j" = w.journal.toList.map .boolean := by
  simp [toDocument, Document.values_append, values_field]

theorem spells_toDocument (w : WriteConcern) : w.Spells w.toDocument where
  keys := by
    rcases w with ⟨_ | a, _ | s, _ | b⟩ <;> simp [toDocument, field, Document.keys]
  acknowledgers := by
    rw [values_w, List.forall₂_map_right_iff, List.forall₂_same]
    exact fun a _ => a.spells_toValue
  timeout := by
    rw [values_wtimeout, List.forall₂_map_right_iff, List.forall₂_same]
    exact fun s _ => Span.isShortest_toValue
  journal := values_j w

/-- A document that says nothing comes from a write concern without any part. -/
theorem toDocument_eq_nil_iff {w : WriteConcern} : w.toDocument = [] ↔ w = {} := by
  rcases w with ⟨_ | a, _ | s, _ | b⟩ <;> simp [toDocument, field]

theorem isLegible_toDocument (w : WriteConcern) : w.toDocument.IsLegible := by
  have clean : ∀ k ∈ ["w", "wtimeout", "j"], 0 ∉ Bytes.ofText k := by decide
  have scalars : ∀ f ∈ w.toDocument, f.2.IsLegible := by
    have integer (n : Int) : (Value.ofInt n).IsLegible := by
      unfold Value.ofInt
      split <;> exact .scalar trivial
    have acknowledgers (a : Acknowledgers) : a.toValue.IsLegible := by
      cases a with
      | nodes count => exact integer _
      | majority | tagged => exact .scalar trivial
    have timeout (s : Span) : s.toValue.IsLegible := s.toValue_eq ▸ integer _
    have journal (b : Bool) : (Value.boolean b).IsLegible := .scalar trivial
    simp only [toDocument, field, List.mem_append, List.mem_map]
    rintro _ ((⟨a, -, rfl⟩ | ⟨s, -, rfl⟩) | ⟨b, -, rfl⟩)
    exacts [acknowledgers a, timeout s, journal b]
  intro f hf
  exact ⟨clean _ (w.spells_toDocument.keys.subset (List.mem_map_of_mem hf)), scalars f hf⟩

/-- A write concern that is nested in a document. -/
theorem isLegible_document (w : WriteConcern) : (Value.document w.toDocument).IsLegible :=
  .document (fun f hf => (w.isLegible_toDocument f hf).1) fun f hf => (w.isLegible_toDocument f hf).2

/-! ### Reading -/

/-- Whether the timeout, if there is one, fits the larger form of an integer. -/
def IsTimely (w : WriteConcern) : Prop := ∀ s ∈ w.timeout, s.wholeMillis < 2 ^ 63

/-- What is left of a write concern once it was sent and read. -/
def coarse (w : WriteConcern) : WriteConcern :=
  ⟨w.acknowledgers.map .coarse, w.timeout.map .truncated, w.journal⟩

/-- Reads a part that may be missing. -/
def part? {α : Type} (read : Value → Option α) : List Value → Option (Option α) :=
  Field.withDefault none fun v => (read v).map some

/-- Reads a write concern from its document. -/
def ofDocument? (d : Document) : Option WriteConcern := do
  return {
    acknowledgers := ← part? Acknowledgers.ofValue? (d.values "w")
    timeout := ← part? Span.ofValue? (d.values "wtimeout")
    journal := ← part? Field.boolean? (d.values "j") }

theorem part?_toList {α β : Type} {read : Value → Option β} {toValue : α → Value} {coarse : α → β}
    (part : Option α) (reads : ∀ a ∈ part, read (toValue a) = some (coarse a)) :
    part? read (part.toList.map toValue) = some (part.map coarse) := by
  cases part with
  | none => rfl
  | some a =>
    have read := reads a rfl
    simp [part?, Field.withDefault, read]

theorem ofDocument?_toDocument {w : WriteConcern} (timely : w.IsTimely) :
    ofDocument? w.toDocument = some w.coarse := by
  have acknowledgers := part?_toList w.acknowledgers fun a _ =>
    Acknowledgers.ofValue?_of_spells a.spells_toValue
  have timeout := part?_toList w.timeout fun s hs => Span.ofValue?_toValue (timely s hs)
  have journal : part? Field.boolean? (w.journal.toList.map .boolean) = some (w.journal.map id) :=
    part?_toList w.journal fun b _ => rfl
  rw [ofDocument?, values_w, values_wtimeout, values_j, acknowledgers, timeout, journal,
    Option.map_id]
  rfl

end WriteConcern

/-- Every write concern can be sent, as a document that says of each part that is set just what it
is, and that reads back from its bytes if it fits the format. As long as timeouts stay below 2^63
milliseconds, what was set can be read from the document, so that write concerns that are sent alike
are alike but for what is left out, and a longer timeout is never sent as a smaller number. Any
timeout is sent as the signed number of 64 bits that its milliseconds are modulo 2^64. -/
theorem write_concern_reads_back (w : WriteConcern) :
    RawDocument.ofDocument? w.toDocument = some (.ofDocument w.toDocument) ∧
      w.Spells w.toDocument ∧
      ((RawDocument.ofDocument w.toDocument).size < 2 ^ 31 →
        (RawDocument.ofDocument w.toDocument).read? = some w.toDocument) ∧
      (w.IsTimely → WriteConcern.ofDocument? w.toDocument = some w.coarse ∧
        ∀ w' : WriteConcern, w'.IsTimely → w'.toDocument = w.toDocument → w'.coarse = w.coarse) ∧
      (∀ s s' : Span, s.totalNanos ≤ s'.totalNanos → s'.wholeMillis < 2 ^ 63 →
        ∃ n n' : Int, s.toValue.integer? = some n ∧ s'.toValue.integer? = some n' ∧
          0 ≤ n ∧ n ≤ n') ∧
      ∀ s : Span, s.toValue.integer? = some ((s.wholeMillis : Int).bmod (2 ^ 64)) := by
  refine ⟨if_pos w.isLegible_toDocument.isWritable, w.spells_toDocument, fun fits => ?_,
    fun timely => ⟨?_, ?_⟩, ?_, fun s => ?_⟩
  · exact RawDocument.read?_ofDocument w.isLegible_toDocument (fits.le.trans (by decide))
  · exact WriteConcern.ofDocument?_toDocument timely
  · intro w' timely' alike
    have read := WriteConcern.ofDocument?_toDocument timely
    have read' := WriteConcern.ofDocument?_toDocument timely'
    rw [alike, read] at read'
    exact (Option.some.inj read').symm
  · intro s s' longer timely
    have more := Span.wholeMillis_mono longer
    exact ⟨s.wholeMillis, s'.wholeMillis,
      (Span.isShortest_toValue (more.trans_lt timely)).integer?,
      (Span.isShortest_toValue timely).integer?, by omega, by omega⟩
  · rw [Span.toValue_eq, Value.integer?_ofInt]

theorem write_concern_reads_back_up_to_limit :
    let longest : Span := ⟨9223372036854775, 807999999, by decide⟩
    let w : WriteConcern := ⟨some (.nodes 4294967295), some longest, some false⟩
    w.IsTimely ∧ (RawDocument.ofDocument w.toDocument).size < 2 ^ 31 ∧
      (RawDocument.ofDocument w.toDocument).read? = some w.toDocument ∧
      WriteConcern.ofDocument? w.toDocument = some ⟨some (.nodes 4294967295),
        some ⟨9223372036854775, 807000000, by decide⟩, some false⟩ := by
  intro longest w
  have timely : w.IsTimely := by
    rintro _ ⟨⟩
    decide
  have fits : (RawDocument.ofDocument w.toDocument).size < 2 ^ 31 := by decide +kernel
  obtain ⟨-, -, opens, reads, -⟩ := write_concern_reads_back w
  exact ⟨timely, fits, opens fits, (reads timely).1.trans (by decide)⟩

/-- One millisecond more, and the timeout is sent as a negative number. -/
theorem longer_timeout_turns_negative :
    let longest : Span := ⟨9223372036854775, 807999999, by decide⟩
    let longer : Span := ⟨9223372036854775, 808000000, by decide⟩
    let w : WriteConcern := { timeout := some longer }
    longer.wholeMillis = 2 ^ 63 ∧ w.toDocument = [("wtimeout", .int64 (-9223372036854775808))] ∧
      ¬ longer.toValue.IsShortest longer.wholeMillis ∧ longest.totalNanos ≤ longer.totalNanos ∧
      longest.toValue.integer? = some 9223372036854775807 ∧
      longer.toValue.integer? = some (-9223372036854775808) := by
  intro longest longer w
  have sent : longer.toValue = .int64 (-9223372036854775808) := by
    have bits : Int64.ofNat longer.wholeMillis = -9223372036854775808 := by decide
    rw [Span.toValue, if_neg (by decide), bits]
  have document : w.toDocument = [("wtimeout", longer.toValue)] := rfl
  have value : longer.toValue.integer? = some (-9223372036854775808) := by decide
  refine ⟨by decide, sent ▸ document, fun shortest => ?_, by decide, by decide, value⟩
  rw [shortest.integer?] at value
  cases value

end UserProvision
