import Mathlib.Data.List.Forall2
import UserProvision.Document.Join
import UserProvision.Proofs.Document.Parts

/-!
# The elements of a document

A document that can be read in full is one part after the other for its elements, and it still is
with further elements behind them. What is written as a document splits into the elements that were
written, if it fits the format: no key and no pattern holds a zero byte, and every size fits its four
bytes.

## Main results

* `RawDocument.elements_eq_iff` — what documents that can be read in full are made of.
* `RawDocument.elements_foldl_appendElement` — further elements behind a document.
* `RawDocument.elements_ofElements`, `RawDocument.elements_ofDocument` — what was written.
* `RawDocument.join_ofElements` — joining documents whose keys are different.
-/

namespace UserProvision

/-! ## Splitting -/

theorem exists_mem_of_forall₂ {α β : Type} {R : α → β → Prop} {xs : List α} {ys : List β}
    (h : List.Forall₂ R xs ys) {x : α} (mem : x ∈ xs) : ∃ y ∈ ys, R x y := by
  induction h with
  | nil => cases mem
  | cons first _ ih =>
    rcases List.mem_cons.mp mem with rfl | mem
    · exact ⟨_, List.mem_cons_self, first⟩
    · obtain ⟨y, hy, related⟩ := ih mem
      exact ⟨y, List.mem_cons_of_mem _ hy, related⟩

namespace Elements

/-- What is split off stands at the front, part by part. -/
theorem exists_parts (rounds : Nat) (bytes : Bytes) : ∃ parts left,
    List.Forall₂ Element.Stands (scan rounds bytes).items parts ∧
      bytes = parts.flatten ++ left ∧
      ((scan rounds bytes).complete = true → left.length = 1) := by
  fun_induction scan rounds bytes with
  | case1 rounds last => exact ⟨[], [last], .nil, rfl, fun _ => rfl⟩
  | case2 | case3 => exact ⟨[], _, .nil, rfl, nofun⟩
  | case4 bytes _ rounds first rest taken others ih =>
    obtain ⟨part, stands, rfl⟩ := Element.take?_eq_some_iff.mp taken
    obtain ⟨parts, left, stand, eq, whole⟩ := ih
    exact ⟨part :: parts, left, .cons stands stand, by simp [eq], whole⟩

/-- As many rounds as there are elements are enough. -/
theorem scan_flatten {items : List Element} {parts : List Bytes}
    (stand : List.Forall₂ Element.Stands items parts) {rounds : Nat}
    (enough : items.length ≤ rounds) (last : UInt8) :
    scan rounds (parts.flatten ++ [last]) = ⟨items, true⟩ := by
  induction stand generalizing rounds with
  | nil => cases rounds <;> rfl
  | @cons e part items parts first _ ih =>
    obtain _ | rounds := rounds
    · simp at enough
    · have taken := first.take? (parts.flatten ++ [last])
      have others := ih (Nat.le_of_succ_le_succ enough)
      have long := first.two_le_length
      rw [List.flatten_cons, List.append_assoc, scan]
      · simp [taken, others]
      · intro b single
        have := congrArg List.length single
        rw [List.length_append, List.length_singleton] at this
        omega

end Elements

namespace RawDocument

variable {d : RawDocument} {items : List Element}

theorem length_le_length_flatten {parts : List Bytes}
    (stand : List.Forall₂ Element.Stands items parts) : items.length ≤ parts.flatten.length := by
  induction stand with
  | nil => exact le_rfl
  | cons first _ ih =>
    have long := first.two_le_length
    rw [List.flatten_cons, List.length_append, List.length_cons]
    omega

/-- A document can be read in full just if it is one part after the other for its elements. -/
theorem elements_eq_iff : d.elements = ⟨items, true⟩ ↔
    ∃ parts, List.Forall₂ Element.Stands items parts ∧ d.body = parts.flatten := by
  constructor
  · intro h
    obtain ⟨parts, left, stand, eq, whole⟩ := Elements.exists_parts d.body.length (d.body ++ [0])
    rw [← elements, h] at stand whole
    have body := (List.append_inj' eq (whole rfl).symm).1
    exact ⟨parts, stand, body⟩
  · rintro ⟨parts, stand, body⟩
    rw [elements, body]
    exact Elements.scan_flatten stand (length_le_length_flatten stand) 0

/-- An element that was read is read again once it is written. -/
theorem stands_of_mem_elements {e : Element} (h : e ∈ d.elements.items) : e.Stands e.bytes := by
  obtain ⟨parts, -, stand, -, -⟩ := Elements.exists_parts d.body.length (d.body ++ [0])
  obtain ⟨part, -, stands⟩ := exists_mem_of_forall₂ stand h
  exact stands.written

theorem body_foldl_appendElement (d : RawDocument) (items : List Element) :
    (items.foldl appendElement d).body = d.body ++ items.flatMap Element.bytes := by
  induction items generalizing d with
  | nil => simp
  | cons e items ih => simp [ih, appendElement]

/-- Further elements are read behind those of a document that can be read in full. -/
theorem elements_foldl_appendElement (complete : d.elements.complete = true)
    (stand : ∀ e ∈ items, e.Stands e.bytes) :
    (items.foldl appendElement d).elements = ⟨d.elements.items ++ items, true⟩ := by
  have whole : d.elements = ⟨d.elements.items, true⟩ := by rw [← complete]
  obtain ⟨parts, own, body⟩ := elements_eq_iff.mp whole
  have added : List.Forall₂ Element.Stands items (items.map Element.bytes) := by
    rw [List.forall₂_map_right_iff, List.forall₂_same]
    exact stand
  refine elements_eq_iff.mpr ⟨parts ++ items.map Element.bytes, List.rel_append own added, ?_⟩
  rw [body_foldl_appendElement, body, List.flatten_append, List.flatMap]

end RawDocument

/-! ## Documents of elements -/

/-- Whether an element reads back: its key can stand in the bytes, and its value fits. -/
structure Element.IsRegular (e : Element) : Prop where
  key : 0 ∉ Bytes.ofText e.key
  value : e.value.IsRegular
  fits : e.value.payload.length < 256 ^ 4

theorem RawValue.IsRegular.stands {v : RawValue} (regular : v.IsRegular) (fits : v.Fits) :
    v.Stands v.payload := by
  cases v with
  | scalar s => exact .scalar (.written regular fits)
  | document | array | scopedCode => exact .framed nofun fits

theorem Element.IsRegular.stands {e : Element} (h : e.IsRegular) : e.Stands e.bytes :=
  .keyed h.key (h.value.stands (RawValue.fits_of_length h.fits))

namespace RawDocument

/-- The document of some elements. -/
def ofElements (items : List Element) : RawDocument := ⟨items.flatMap Element.bytes⟩

theorem ofElements_eq (items : List Element) : ofElements items = items.foldl appendElement empty := by
  have body := body_foldl_appendElement empty items
  rw [ofElements, ← List.nil_append (items.flatMap Element.bytes)]
  exact congrArg RawDocument.mk body.symm

theorem ofElements_append (items items' : List Element) :
    items'.foldl appendElement (ofElements items) = ofElements (items ++ items') := by
  rw [ofElements_eq, ofElements_eq, List.foldl_append]

/-- A document splits into the elements it was made of. -/
theorem elements_ofElements {items : List Element} (regular : ∀ e ∈ items, e.IsRegular) :
    (ofElements items).elements = ⟨items, true⟩ := by
  rw [ofElements_eq]
  exact elements_foldl_appendElement rfl fun e he => (regular e he).stands

/-- A document with fresh keys only is joined in full. -/
theorem join_of_fresh {d other : RawDocument} {items : List Element}
    (readable : d.elements.complete = true) (whole : other.elements = ⟨items, true⟩)
    (different : ∀ e ∈ items, e.key ∉ d.keys) :
    d.join other = ⟨items.foldl appendElement d, none⟩ := by
  have fresh : ∀ e ∈ items, (!d.keys.contains e.key) = true := by
    intro e he
    simpa using different e he
  have taken := List.takeWhile_eq_self_iff.mpr fresh
  have dropped := List.dropWhile_eq_nil_iff.mpr fresh
  simp only [join, RawDocument.fresh, joinFault, readable, whole, ↓reduceIte, taken, dropped]

/-- Documents with different keys are joined in full. -/
theorem join_ofElements {items items' : List Element} (regular : ∀ e ∈ items, e.IsRegular)
    (regular' : ∀ e ∈ items', e.IsRegular)
    (different : ∀ e ∈ items', e.key ∉ items.map (·.key)) :
    (ofElements items).join (ofElements items') = ⟨ofElements (items ++ items'), none⟩ := by
  have own := elements_ofElements regular
  rw [join_of_fresh (by rw [own]) (elements_ofElements regular') (by rwa [keys, own]),
    ofElements_append]

end RawDocument

/-! ## Documents that are written -/

/-- A value as it stands in bytes. -/
def Value.framed : Value → RawValue
  | .scalar s => .scalar s
  | .document fields => .document (.ofDocument fields)
  | .array items => .array ⟨Value.itemsBody 0 items⟩
  | .scopedCode source scope => .scopedCode source (.ofDocument scope)

@[simp] theorem Value.tag_framed (v : Value) : v.framed.tag = v.tag := by
  cases v <;> rfl

@[simp] theorem Value.payload_framed (v : Value) : v.framed.payload = v.payload := by
  cases v <;> simp [framed, RawValue.payload, payload, RawDocument.ofDocument]

namespace Document

/-- The elements that a document is written as. -/
def framed (d : Document) : List Element := d.map fun f => ⟨f.1, f.2.framed⟩

theorem body_eq_flatMap (d : Document) : Document.body d = d.framed.flatMap Element.bytes := by
  induction d with
  | nil => simp [framed, Document.body]
  | cons f d ih =>
    obtain ⟨k, v⟩ := f
    rw [framed] at ih
    simp [framed, Document.body, Element.bytes, ih]

/-- An element takes two bytes besides its key and its value: its type and the end of its key. -/
theorem length_body (d : Document) :
    (Document.body d).length = (d.map fun f => f.1.utf8ByteSize + f.2.payload.length + 2).sum := by
  induction d with
  | nil => rfl
  | cons f d ih =>
    simp only [Document.body, List.length_append, List.length_cons, Bytes.cstring,
      Bytes.length_ofText, List.length_nil, ih, List.map_cons, List.sum_cons]
    omega

/-- A value is shorter than its document. -/
theorem length_payload_lt {d : Document} {f : String × Value} (h : f ∈ d) :
    f.2.payload.length < (RawDocument.ofDocument d).size := by
  obtain ⟨before, after, rfl⟩ := List.append_of_mem h
  simp only [RawDocument.size, RawDocument.ofDocument, Document.body_append, Document.body,
    List.length_append, List.length_cons]
  omega

/-- Whether every key can stand in bytes and every value is one of those that are read. -/
def IsRegular (d : Document) : Prop := ∀ f ∈ d, 0 ∉ Bytes.ofText f.1 ∧ f.2.framed.IsRegular

@[simp] theorem isRegular_nil : IsRegular [] := by simp [IsRegular]

@[simp] theorem isRegular_cons (k : String) (v : Value) (d : Document) :
    IsRegular ((k, v) :: d) ↔ (0 ∉ Bytes.ofText k ∧ v.framed.IsRegular) ∧ d.IsRegular :=
  List.forall_mem_cons

@[simp] theorem isRegular_append (d d' : Document) :
    IsRegular (d ++ d') ↔ d.IsRegular ∧ d'.IsRegular :=
  List.forall_mem_append

theorem IsRegular.elements {d : Document} (regular : d.IsRegular)
    (fits : (RawDocument.ofDocument d).size ≤ 256 ^ 4) : ∀ e ∈ d.framed, e.IsRegular := by
  intro e he
  obtain ⟨f, hf, rfl⟩ := List.mem_map.mp he
  obtain ⟨key, value⟩ := regular f hf
  exact ⟨key, value, by simpa using (length_payload_lt hf).trans_le fits⟩

end Document

namespace RawDocument

theorem ofDocument_eq_ofElements (d : Document) : ofDocument d = ofElements d.framed := by
  rw [ofDocument, ofElements, Document.body_eq_flatMap]

theorem elements_ofDocument {d : Document} (regular : d.IsRegular)
    (fits : (ofDocument d).size ≤ 256 ^ 4) : (ofDocument d).elements = ⟨d.framed, true⟩ := by
  rw [ofDocument_eq_ofElements, elements_ofElements (regular.elements fits)]

/-- Two documents with different keys are joined in full, if that fits the format. -/
theorem join_ofDocument {d d' : Document} (regular : (d ++ d').IsRegular)
    (fits : (ofDocument (d ++ d')).size ≤ 256 ^ 4) (different : ∀ k ∈ d'.keys, k ∉ d.keys) :
    (ofDocument d).join (ofDocument d') = ⟨ofDocument (d ++ d'), none⟩ := by
  have elements := regular.elements fits
  have framed : (d ++ d').framed = d.framed ++ d'.framed := List.map_append
  have keys : d.framed.map (·.key) = d.keys := by simp [Document.framed, Document.keys]
  rw [framed] at elements
  rw [ofDocument_eq_ofElements, ofDocument_eq_ofElements, ofDocument_eq_ofElements, framed]
  refine join_ofElements (fun e he => elements e (List.mem_append_left _ he))
    (fun e he => elements e (List.mem_append_right _ he)) ?_
  intro e he
  obtain ⟨f, hf, rfl⟩ := List.mem_map.mp he
  rw [keys]
  exact different _ (List.mem_map.mpr ⟨f, hf, rfl⟩)

end RawDocument

end UserProvision
