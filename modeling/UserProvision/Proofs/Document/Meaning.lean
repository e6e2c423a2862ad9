import UserProvision.Document.RawMeaning
import UserProvision.Proofs.Document.Opening

/-!
# The meaning of a document that opens

A value can be given its meaning as it is read, or after it was opened. The first gives more values
a meaning, since it stops at the end of a spelled value; but a value that opens and then has a
meaning has the same meaning either way.

## Main results

* `Spelled.reader?_of_read?` — the same scalar is spelled in the bytes and once they are opened.
* `RawValue.meaning?_of_meaning` — the same meaning, whichever way a value is read.
* `Document.exists_meaning_of_mem` — all fields of a document with a meaning have one themselves.
-/

namespace UserProvision

/-! ## What a reader needs of a value -/

theorem Element.find?_of_get? {items : List Element} {fields : Document}
    (opens : List.Forall₂ Element.Opens items fields) {key : String} {w : Value}
    (h : fields.get? key = some w) :
    ∃ v, (items.find? (·.key == key)).map (·.value) = some v ∧ v.read? = some w := by
  induction opens with
  | nil => simp [Document.get?] at h
  | @cons e f items fields first _ ih =>
    obtain ⟨read⟩ := first
    rename_i k v' w'
    by_cases own : k = key
    · simp only [Document.get?, own, BEq.rfl, List.find?_cons_of_pos, Option.map_some,
        Option.some.injEq] at h
      exact ⟨v', by simp [own], h ▸ read⟩
    · rw [Document.get?, List.find?_cons_of_neg (by simpa using own)] at h
      rw [List.find?_cons_of_neg (by simpa using own)]
      exact ih h

theorem Element.mapM_find?_of_get? {items : List Element} {fields : Document}
    (opens : List.Forall₂ Element.Opens items fields) {keys : List String} {ws : List Value}
    (h : keys.mapM fields.get? = some ws) :
    ∃ vs, (keys.mapM fun key => (items.find? (·.key == key)).map (·.value)) = some vs ∧
      List.Forall₂ (fun v w => RawValue.read? v = some w) vs ws := by
  simp only [mapM_eq_some_iff] at h ⊢
  induction h with
  | nil => exact ⟨[], .nil, .nil⟩
  | cons first _ ih =>
    obtain ⟨v, found, read⟩ := Element.find?_of_get? opens first
    obtain ⟨vs, others, reads⟩ := ih
    exact ⟨v :: vs, .cons found others, .cons read reads⟩

namespace RawValue

variable {v : RawValue} {w : Value}

theorem scalar?_of_read? (h : v.read? = some w) : Readable.scalar? v = Readable.scalar? w := by
  cases v with
  | scalar s =>
    cases h
    rfl
  | document d | array d | scopedCode source d =>
    obtain ⟨fields, -, rfl⟩ := Option.map_eq_some_iff.mp h
    rfl

theorem group?_of_read? (h : v.read? = some w) {keys : List String} {ws : List Value}
    (group : Readable.group? keys w = some ws) :
    ∃ vs, Readable.group? keys v = some vs ∧
      List.Forall₂ (fun v w => read? v = some w) vs ws := by
  cases v with
  | scalar s =>
    cases h
    cases group
  | scopedCode source d =>
    obtain ⟨fields, -, rfl⟩ := Option.map_eq_some_iff.mp h
    cases group
  | document d =>
    obtain ⟨fields, read, rfl⟩ := Option.map_eq_some_iff.mp h
    obtain ⟨complete, opens⟩ := RawDocument.read?_eq_some_iff.mp read
    obtain ⟨length, found⟩ := Option.ite_none_right_eq_some.mp group
    obtain ⟨vs, found, reads⟩ := Element.mapM_find?_of_get? opens found
    exact ⟨vs, Option.ite_none_right_eq_some.mpr
      ⟨⟨complete, opens.length_eq.trans length⟩, found⟩, reads⟩
  | array d =>
    obtain ⟨fields, read, rfl⟩ := Option.map_eq_some_iff.mp h
    obtain ⟨complete, opens⟩ := RawDocument.read?_eq_some_iff.mp read
    obtain ⟨length, same⟩ := Option.ite_none_right_eq_some.mp group
    rw [List.length_map, ← opens.length_eq] at length
    cases same
    refine ⟨(d.elements.items.take keys.length).map (·.value), if_pos length.ge, ?_⟩
    rw [← length, List.take_length, List.forall₂_map_left_iff, List.forall₂_map_right_iff]
    exact opens.imp fun e f ⟨read⟩ => read

theorem value?_of_read? (h : v.read? = some w) : Readable.value? v = Readable.value? w := h

end RawValue

namespace Field

variable {v : RawValue} {w : Value} (h : v.read? = some w)

include h

theorem text?_of_read? : text? v = text? w := by
  rw [text?, text?, RawValue.scalar?_of_read? h]

theorem storedInt?_of_read? : storedInt? v = storedInt? w := by
  rw [storedInt?, storedInt?, RawValue.scalar?_of_read? h]

theorem boolean?_of_read? : boolean? v = boolean? w := by
  rw [boolean?, boolean?, RawValue.scalar?_of_read? h]

theorem int32?_of_read? : int32? v = int32? w := by
  rw [int32?, int32?, storedInt?_of_read? h]

theorem int64?_of_read? : int64? v = int64? w := by
  rw [int64?, int64?, storedInt?_of_read? h]

end Field

namespace Spelled

open UserProvision.Field

variable {v : RawValue} {w : Value} {s : Scalar}

theorem group?_bind_of_read? (h : v.read? = some w) {keys : List String} {β : Type} {b : β}
    {next : List RawValue → Option β} {next' : List Value → Option β}
    (parts : ∀ vs ws, List.Forall₂ (fun v w => RawValue.read? v = some w) vs ws →
      next' ws = some b → next vs = some b)
    (spelled : (Readable.group? keys w).bind next' = some b) :
    (Readable.group? keys v).bind next = some b := by
  obtain ⟨ws, group, spelled⟩ := Option.bind_eq_some_iff.mp spelled
  obtain ⟨vs, group', reads⟩ := RawValue.group?_of_read? h group
  exact Option.bind_eq_some_iff.mpr ⟨vs, group', parts vs ws reads spelled⟩

theorem binary?_of_read? (h : v.read? = some w) (spelled : binary? w = some s) :
    binary? v = some s := by
  refine group?_bind_of_read? h (fun vs ws reads spelled => ?_) spelled
  rcases reads with _ | ⟨data, _ | ⟨subtype, _ | _⟩⟩
  case cons.cons.nil => simpa only [text?_of_read? data, text?_of_read? subtype] using spelled
  all_goals cases spelled

theorem timestamp?_of_read? (h : v.read? = some w) (spelled : timestamp? w = some s) :
    timestamp? v = some s := by
  refine group?_bind_of_read? h (fun vs ws reads spelled => ?_) spelled
  rcases reads with _ | ⟨time, _ | ⟨increment, _ | _⟩⟩
  case cons.cons.nil =>
    simpa only [unsigned32?, storedInt?_of_read? time, storedInt?_of_read? increment] using spelled
  all_goals cases spelled

theorem regex?_of_read? (h : v.read? = some w) (spelled : regex? w = some s) :
    regex? v = some s := by
  refine group?_bind_of_read? h (fun vs ws reads spelled => ?_) spelled
  rcases reads with _ | ⟨pattern, _ | ⟨options, _ | _⟩⟩
  case cons.cons.nil => simpa only [text?_of_read? pattern, text?_of_read? options] using spelled
  all_goals cases spelled

theorem pointerId?_of_read? {id : ObjectId} (h : v.read? = some w)
    (spelled : pointerId? w = some id) : pointerId? v = some id := by
  unfold pointerId? at spelled ⊢
  rw [RawValue.scalar?_of_read? h]
  split at spelled
  · exact spelled
  · refine group?_bind_of_read? h (fun vs ws reads spelled => ?_) spelled
    rcases reads with _ | ⟨digits, _ | _⟩
    case cons.nil => simpa only [text?_of_read? digits] using spelled
    all_goals cases spelled

theorem pointer?_of_read? (h : v.read? = some w) (spelled : pointer? w = some s) :
    pointer? v = some s := by
  refine group?_bind_of_read? h (fun vs ws reads spelled => ?_) spelled
  rcases reads with _ | ⟨collection, _ | ⟨id, _ | _⟩⟩
  case cons.cons.nil =>
    obtain ⟨name, text, spelled⟩ := Option.bind_eq_some_iff.mp spelled
    obtain ⟨oid, inner, spelled⟩ := Option.bind_eq_some_iff.mp spelled
    cases spelled
    simp [text?_of_read? collection, text, pointerId?_of_read? id inner]
  all_goals cases spelled

/-- A value in the bytes spells whatever it spells once it is opened. -/
theorem reader?_of_read? (h : v.read? = some w) (key : String) :
    Option.Rel (fun read read' => ∀ s, read w = some s → read' v = some s) (reader? key)
      (reader? key) := by
  have scalar := RawValue.scalar?_of_read? h
  have text := text?_of_read? h
  have int := storedInt?_of_read? h
  have boolean := boolean?_of_read? h
  have value := RawValue.value?_of_read? h
  unfold reader?
  split
  case h_17 => exact .none
  all_goals refine .some fun s spelled => ?_
  case h_6 => exact binary?_of_read? h spelled
  case h_8 => exact timestamp?_of_read? h spelled
  case h_9 => exact regex?_of_read? h spelled
  case h_10 => exact pointer?_of_read? h spelled
  case h_1 => simpa only [objectId?, scalar] using spelled
  case h_2 => simpa only [text] using spelled
  case h_3 | h_4 | h_5 | h_7 | h_15 =>
    simpa only [int32?, int64?, double?, uuid?, decimal?, text] using spelled
  case h_11 | h_16 =>
    simpa only [date?, decimalBytes?, value] using spelled
  case h_12 | h_13 => simpa only [constant?, int] using spelled
  case h_14 => simpa only [boolean] using spelled

theorem scopedCode?_of_text? {α β : Type} [Readable α] [Readable β] {source : α} {source' : β}
    (text : text? source = text? source') {scope scope' : Option Value} {m : Value}
    (means : ∀ m, scope' = some m → scope = some m)
    (spelled : scopedCode? source' scope' = some m) : scopedCode? source scope = some m := by
  unfold scopedCode? at spelled
  split at spelled
  · rw [means _ rfl, scopedCode?, text, spelled]
  · cases spelled

end Spelled

/-! ## The meaning of a value that opens -/

namespace RawDocument

/-- Elements mean what the fields that they open as mean, if that goes for the values nested in
them. -/
theorem meaningOnto_of_opens {nested : RawValue → Option Value} {items : List Element}
    {fields : Document} (opens : List.Forall₂ Element.Opens items fields)
    (means : ∀ e ∈ items, ∀ w m, e.value.read? = some w → w.meaning = some m →
      nested e.value = some m)
    {seen : Document} {m : Value} (h : Document.meaningOnto seen fields = some m) :
    meaningOnto nested true seen items = some m := by
  induction opens generalizing seen with
  | nil =>
    rw [Document.meaningOnto] at h
    rw [meaningOnto, if_pos rfl, h]
  | @cons e f items fields first others ih =>
    obtain ⟨read⟩ := first
    rename_i k v w
    have value : ∀ m, w.meaning = some m → nested v = some m :=
      fun m => means _ List.mem_cons_self w m read
    have inner : ∀ e ∈ items, ∀ w m, e.value.read? = some w → w.meaning = some m →
        nested e.value = some m := fun e he => means e (List.mem_cons_of_mem _ he)
    rw [Document.meaningOnto.eq_def] at h
    rw [meaningOnto.eq_def]
    dsimp only at h ⊢
    by_cases isCode : k = "$code"
    · rw [if_pos isCode] at h ⊢
      rcases others with _ | ⟨⟨read'⟩, _ | _⟩
      · simpa only [↓reduceIte, Field.text?_of_read? read] using h
      · obtain ⟨isScope, h⟩ := Option.ite_none_right_eq_some.mp h
        dsimp only at isScope ⊢
        rw [if_pos isScope]
        exact Spelled.scopedCode?_of_text? (Field.text?_of_read? read)
          (fun m => inner _ List.mem_cons_self _ m read') h
      · cases h
    · rw [if_neg isCode] at h ⊢
      by_cases isScope : k = "$scope"
      · rw [if_pos isScope] at h ⊢
        rcases others with _ | ⟨⟨read'⟩, _ | _⟩
        · cases h
        · obtain ⟨isCode, h⟩ := Option.ite_none_right_eq_some.mp h
          dsimp only at isCode ⊢
          rw [if_pos isCode]
          exact Spelled.scopedCode?_of_text? (Field.text?_of_read? read') value h
        · cases h
      · rw [if_neg isScope] at h ⊢
        -- The key alone tells which scalar is spelled, so both readings use the same reader.
        have spelled := Spelled.reader?_of_read? read k
        revert spelled h
        generalize (Spelled.reader? k : Option (Value → Option Scalar)) = marked,
          (Spelled.reader? k : Option (RawValue → Option Scalar)) = marked'
        intro h spelled
        cases spelled with
        | none =>
          obtain ⟨m', means', h⟩ := Option.bind_eq_some_iff.mp h
          exact Option.bind_eq_some_iff.mpr ⟨m', value m' means', ih inner h⟩
        | some respects =>
          obtain ⟨-, h⟩ := Option.ite_none_right_eq_some.mp h
          obtain ⟨s, spelled, rfl⟩ := Option.map_eq_some_iff.mp h
          exact Option.map_eq_some_iff.mpr ⟨s, respects s spelled, rfl⟩

theorem meanings_of_opens {nested : RawValue → Option Value} {items : List Element}
    {fields : Document} (opens : List.Forall₂ Element.Opens items fields)
    (means : ∀ e ∈ items, ∀ w m, e.value.read? = some w → w.meaning = some m →
      nested e.value = some m)
    {ms : List Value} (h : Value.meanings (fields.map (·.2)) = some ms) :
    (items.mapM fun e => nested e.value) = some ms := by
  induction opens generalizing ms with
  | nil =>
    rw [List.map_nil, Value.meanings] at h
    exact h
  | cons first _ ih =>
    obtain ⟨read⟩ := first
    rw [List.map_cons, Value.meanings] at h
    obtain ⟨m, value, h⟩ := Option.bind_eq_some_iff.mp h
    obtain ⟨others, values, h⟩ := Option.bind_eq_some_iff.mp h
    cases h
    rw [List.mapM_cons, means _ List.mem_cons_self _ _ read value,
      ih (fun e he => means e (List.mem_cons_of_mem _ he)) values]
    rfl

end RawDocument

namespace RawValue

theorem meaningWithin_of_meaning {depth : Nat} {v : RawValue} {w m : Value}
    (deep : v.innerSize < depth) (read : v.read? = some w) (h : w.meaning = some m) :
    meaningWithin depth v = some m := by
  induction depth generalizing v w m with
  | zero => omega
  | succ depth ih =>
    -- The hypothesis for nested values, whose own depth is bounded by that of their document.
    have inner : ∀ d : RawDocument, v.innerSize = d.size → ∀ e ∈ d.elements.items, ∀ w m,
        e.value.read? = some w → w.meaning = some m → meaningWithin depth e.value = some m := by
      intro d size e he w m read h
      have := RawDocument.innerSize_le he
      rw [RawDocument.size] at size
      exact ih (by omega) read h
    cases v with
    | scalar s =>
      cases read
      simpa only [Value.meaning, meaningWithin] using h
    | document d =>
      obtain ⟨fields, opened, rfl⟩ := Option.map_eq_some_iff.mp read
      obtain ⟨complete, opens⟩ := RawDocument.read?_eq_some_iff.mp opened
      rw [Value.meaning] at h
      rw [meaningWithin, complete]
      exact RawDocument.meaningOnto_of_opens opens (inner d rfl) h
    | array d =>
      obtain ⟨fields, opened, rfl⟩ := Option.map_eq_some_iff.mp read
      obtain ⟨complete, opens⟩ := RawDocument.read?_eq_some_iff.mp opened
      rw [Value.meaning] at h
      obtain ⟨ms, values, rfl⟩ := Option.map_eq_some_iff.mp h
      rw [meaningWithin, if_pos complete,
        RawDocument.meanings_of_opens opens (inner d rfl) values, Option.map_some]
    | scopedCode source d =>
      obtain ⟨fields, opened, rfl⟩ := Option.map_eq_some_iff.mp read
      obtain ⟨complete, opens⟩ := RawDocument.read?_eq_some_iff.mp opened
      rw [Value.meaning] at h
      rw [meaningWithin, complete]
      exact Spelled.scopedCode?_of_text? rfl
        (fun m => RawDocument.meaningOnto_of_opens opens (inner d rfl)) h

/-- A value that opens and then has a meaning has the same meaning as it is read. -/
theorem meaning?_of_meaning {v : RawValue} {w m : Value} (read : v.read? = some w)
    (h : w.meaning = some m) : v.meaning? = some m :=
  meaningWithin_of_meaning (Nat.lt_succ_of_le v.innerSize_le_payload) read h

end RawValue

/-! ## The meaning of the parts -/

/-- An array has a meaning only if all its items have one. -/
theorem Value.exists_meaning_of_mem {items ms : List Value} (h : Value.meanings items = some ms)
    {v : Value} (mem : v ∈ items) : ∃ m, v.meaning = some m := by
  induction items generalizing ms with
  | nil => cases mem
  | cons w items ih =>
    rw [Value.meanings] at h
    obtain ⟨m, value, h⟩ := Option.bind_eq_some_iff.mp h
    obtain ⟨others, values, h⟩ := Option.bind_eq_some_iff.mp h
    rcases List.mem_cons.mp mem with rfl | mem
    · exact ⟨m, value⟩
    · exact ih values mem

namespace Document

/-- A key that does not begin a spelled value. -/
def IsPlain (key : String) : Prop :=
  key ≠ "$code" ∧ key ≠ "$scope" ∧ (Spelled.reader? key : Option (Value → Option Scalar)) = none

/-- A document has a meaning only if all its plain fields have one. -/
theorem exists_meaning_of_mem {seen d : Document} {m : Value}
    (h : meaningOnto seen d = some m) {key : String} {v : Value} (mem : (key, v) ∈ d)
    (plain : IsPlain key) : ∃ m, v.meaning = some m := by
  obtain ⟨noCode, noScope, noMark⟩ := plain
  induction d generalizing seen with
  | nil => cases mem
  | cons f d ih =>
    obtain ⟨k, w⟩ := f
    rw [meaningOnto.eq_def] at h
    dsimp only at h
    split at h
    · grind
    · split at h
      · grind
      · rename_i isCode isScope
        generalize marked : (Spelled.reader? k : Option (Value → Option Scalar)) = reader at h
        rcases List.mem_cons.mp mem with own | mem
        · cases own
          rw [noMark] at marked
          subst marked
          obtain ⟨m', means, h⟩ := Option.bind_eq_some_iff.mp h
          exact ⟨m', means⟩
        · cases reader with
          | none =>
            obtain ⟨m', means, h⟩ := Option.bind_eq_some_iff.mp h
            exact ih h mem
          | some read =>
            obtain ⟨alone, -⟩ := Option.ite_none_right_eq_some.mp h
            simp_all

end Document

end UserProvision
