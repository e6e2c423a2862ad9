import UserProvision.Failure.Wording
import UserProvision.Proofs.Creation.Commands
import UserProvision.Proofs.Document.Join

/-!
# How documents grow

Joining adds the longest front of the other document that can be read and has no key of the first,
behind bytes that stay as they were, and how it ends tells what stands behind that front. An element
that is added keeps its bytes, unless it is a pattern, which is written again with its options in
order.

## Main definitions

* `Element.TakenFrom` — the bytes that an added element is taken from.
* `RawDocument.LongestFresh` — which elements are added.
* `RawDocument.GrownBy`, `Joined.EndsAfter` — what is left behind, and how the joining ends.

## Main results

* `RawDocument.JoinsUpTo.longestFresh`, `RawDocument.JoinsUpTo.grownBy`,
  `RawDocument.JoinsUpTo.endsAfter` — the three parts.
* `RawDocument.join_single`, `CreationOptions.appendTo_eq` — a single element is added or not.
* `joining_adds_longest_fresh_front` — the parts together.
-/

namespace UserProvision

open Bytes

/-! ## What elements are taken from -/

/-- The bytes that an element is taken from: those it is written as, or a pattern with its options
in any order. -/
inductive Element.TakenFrom : Element → Bytes → Prop
  | written (e : Element) : TakenFrom e e.bytes
  | pattern (key pattern options : String) :
    TakenFrom ⟨key, .scalar (.ordered pattern options)⟩
      (0x0b :: cstring key ++ (cstring pattern ++ cstring options))

theorem Element.Stands.takenFrom {e : Element} {part : Bytes} (h : e.Stands part) :
    e.TakenFrom part := by
  cases h with
  | @keyed key value part hkey hvalue =>
    cases hvalue with
    | framed => exact .written _
    | scalar hscalar =>
      cases hscalar with
      | written => exact .written _
      | regex => exact .pattern ..

theorem Element.TakenFrom.length_eq {e : Element} {part : Bytes} (h : e.TakenFrom part) :
    part.length = e.bytes.length := by
  cases h with
  | written => rfl
  | pattern key pattern options =>
    have same := Scalar.length_sortedOptions options
    have settled := Scalar.sortedOptions_sortedOptions options
    simp only [Element.bytes, RawValue.tag, RawValue.payload, Scalar.tag, Scalar.payload,
      Scalar.ordered, cstring, List.length_append, List.length_cons, List.length_nil, settled, same]

/-! ## Growing -/

namespace RawDocument

variable {d other : RawDocument} {p : List Element}

/-- The longest front of the readable elements of `other` without a key that `d` has. -/
structure LongestFresh (d other : RawDocument) (p : List Element) : Prop where
  front : p <+: other.elements.items
  fresh : ∀ e ∈ p, e.key ∉ d.keys
  longest : ∀ q, q <+: other.elements.items → (∀ e ∈ q, e.key ∉ d.keys) → q <+: p

/-- How a document has grown by elements of another one: its own bytes stay in front, and the whole
is a document again whose length stands in its first bytes. -/
structure GrownBy (d other result : RawDocument) (p : List Element) : Prop where
  body : result.body = d.body ++ p.flatMap Element.bytes
  taken : ∃ parts, List.Forall₂ Element.TakenFrom p parts ∧ parts.flatten <+: other.bytes.drop 4
  elements : result.elements = ⟨d.elements.items ++ p, true⟩
  framed : ofBytes? result.bytes = some result
  size : d.bytes.length < 2 ^ 31 → other.bytes.length < 2 ^ 31 →
    number? 4 result.bytes = some (result.bytes.length, result.bytes.drop 4)

theorem drop_bytes (d : RawDocument) : d.bytes.drop 4 = d.body ++ [0] := by
  rw [bytes, List.append_assoc]
  exact List.drop_left' (length_littleEndian ..)

/-- The front of the elements stands in the front of the bytes. -/
theorem exists_takenFrom (front : p <+: d.elements.items) :
    ∃ parts, List.Forall₂ Element.TakenFrom p parts ∧ parts.flatten <+: d.bytes.drop 4 := by
  obtain ⟨parts, left, stand, whole, -⟩ := Elements.exists_parts d.body.length (d.body ++ [0])
  obtain ⟨others, split⟩ := front
  rw [← elements, ← split] at stand
  refine ⟨parts.take p.length, ?_, ?_⟩
  · have own := List.forall₂_take p.length stand
    rw [List.take_left] at own
    exact own.imp fun _ _ => Element.Stands.takenFrom
  · refine ⟨(parts.drop p.length).flatten ++ left, ?_⟩
    rw [drop_bytes, whole, ← List.append_assoc, ← List.flatten_append, List.take_append_drop]

/-- What is added is no longer than what it is taken from. -/
theorem length_flatMap_bytes {parts : List Bytes} (taken : List.Forall₂ Element.TakenFrom p parts) :
    (p.flatMap Element.bytes).length = parts.flatten.length := by
  induction taken with
  | nil => rfl
  | cons first _ ih =>
    rw [List.flatMap_cons, List.flatten_cons, List.length_append, List.length_append, ih,
      first.length_eq]

theorem JoinsUpTo.longestFresh {fault : Option JoinFault} (h : d.JoinsUpTo other p fault)
    (readable : d.elements.complete = true) : d.LongestFresh other p := by
  refine ⟨h.front, h.fresh, ?_⟩
  intro q front fresh
  cases h with
  | unread broken =>
    rw [readable] at broken
    cases broken
  | whole _ eq | broken _ eq =>
    rw [eq] at front
    exact front
  | repeated _ split _ taken =>
    rcases List.prefix_or_prefix_of_prefix front ⟨_, split.symm⟩ with shorter | ⟨more, rfl⟩
    · exact shorter
    · -- An element behind the front would have to be the one whose key is taken.
      cases more with
      | nil => simp
      | cons e' more =>
        obtain ⟨rest, whole⟩ := front
        rw [split, List.append_assoc, List.append_cancel_left_eq] at whole
        cases whole
        exact absurd taken (fresh _ (by simp))

theorem JoinsUpTo.grownBy {fault : Option JoinFault} (h : d.JoinsUpTo other p fault)
    (readable : d.elements.complete = true) :
    d.GrownBy other (p.foldl appendElement d) p := by
  obtain ⟨parts, taken, front⟩ := exists_takenFrom h.front
  have body := body_foldl_appendElement d p
  refine ⟨body, ⟨parts, taken, front⟩, readable ▸ h.elements, ofBytes?_bytes _, ?_⟩
  intro small small'
  have added := front.length_le
  rw [List.length_drop, ← length_flatMap_bytes taken] at added
  rw [length_bytes] at small small' added
  have fits : (p.foldl appendElement d).size < 256 ^ 4 := by
    rw [size, body, List.length_append]
    rw [size] at small small' added
    omega
  have number := number?_littleEndian_of_lt fits ((p.foldl appendElement d).body ++ [0])
  rw [drop_bytes, length_bytes]
  rw [← List.append_assoc] at number
  exact number

/-- What stops the joining is what stands behind the elements that are added. -/
theorem JoinsUpTo.stops {fault : Option JoinFault} (h : d.JoinsUpTo other p fault)
    (readable : d.elements.complete = true) :
    (fault = none ∧ other.elements = ⟨p, true⟩) ∨
    (fault = some .unreadable ∧ other.elements = ⟨p, false⟩) ∨
    ∃ e rest, fault = some (.repeatedKey e.key) ∧ other.elements.items = p ++ e :: rest ∧
      e.key ∈ d.keys := by
  cases h with
  | unread broken =>
    rw [readable] at broken
    cases broken
  | whole _ eq => exact .inl ⟨rfl, eq⟩
  | broken _ eq => exact .inr (.inl ⟨rfl, eq⟩)
  | repeated _ split _ taken => exact .inr (.inr ⟨_, _, rfl, split, taken⟩)

end RawDocument

/-! ## Endings -/

/-- The error that a joining ends with. -/
def Joined.error? (j : Joined) : Option Error := j.fault.map JoinFault.toError

/-- How a joining ends that has added `p`. -/
structure Joined.EndsAfter (d other : RawDocument) (p : List Element) (j : Joined) : Prop where
  whole : j.error? = none ↔ other.elements = ⟨p, true⟩
  broken : j.error? = some .unreadableReply ↔ other.elements = ⟨p, false⟩
  taken : (∃ message, j.error? = some (.internal message)) ↔
    ∃ e rest, other.elements.items = p ++ e :: rest ∧ e.key ∈ d.keys
  named : ∀ e rest, other.elements.items = p ++ e :: rest →
    j.error? = some (.internal ("duplicate raw document key " ++ Quoted.quote e.key))

theorem RawDocument.JoinsUpTo.endsAfter {d other : RawDocument} {p : List Element} {j : Joined}
    (h : d.JoinsUpTo other p j.fault) (readable : d.elements.complete = true) :
    j.EndsAfter d other p := by
  have differ (message : String) : Error.internal message ≠ .unreadableReply := by
    simp [Error.internal, Error.unreadableReply, Error.ofKind]
  rcases h.stops readable with ⟨fault, eq⟩ | ⟨fault, eq⟩ | ⟨e, rest, fault, split, taken⟩
  · have error : j.error? = none := by
      rw [Joined.error?, fault]
      rfl
    constructor <;> simp [error, eq]
  · have error : j.error? = some .unreadableReply := by
      rw [Joined.error?, fault]
      rfl
    constructor <;> simp [error, eq, (differ _).symm]
  · have error :
        j.error? = some (.internal ("duplicate raw document key " ++ Quoted.quote e.key)) := by
      rw [Joined.error?, fault]
      rfl
    have more (b : Bool) : other.elements ≠ ⟨p, b⟩ := by
      intro eq
      simp [eq] at split
    constructor
    · simp [error, more]
    · simp [error, more, differ]
    · exact iff_of_true ⟨_, error⟩ ⟨e, rest, split, taken⟩
    · intro e' rest' split'
      obtain ⟨rfl, -⟩ := List.cons.inj (List.append_cancel_left (split.symm.trans split'))
      exact error

/-! ## Single elements -/

/-- A single element is added, or its key is taken. -/
theorem RawDocument.join_single {d other : RawDocument} (readable : d.elements.complete = true)
    {e : Element} (single : other.elements = ⟨[e], true⟩) :
    d.join other = if e.key ∈ d.keys then ⟨d, some (.repeatedKey e.key)⟩
      else ⟨d.appendElement e, none⟩ := by
  by_cases taken : e.key ∈ d.keys
  · simp [join, fresh, joinFault, readable, single, taken]
  · rw [join_of_fresh readable single (List.forall_mem_singleton.mpr taken), if_neg taken]
    rfl

/-- Options are a single field at most, which is added or is not. -/
theorem CreationOptions.appendTo_eq {d : RawDocument} (readable : d.elements.complete = true)
    {o : CreationOptions} (fits : (RawDocument.ofDocument o.toDocument).size < 2 ^ 31) :
    appendTo d (some o) =
      if o.writeConcern.isSome ∧ "writeConcern" ∈ d.keys then
        ⟨d, some (.repeatedKey "writeConcern")⟩
      else ⟨⟨d.body ++ Document.body o.toDocument⟩, none⟩ := by
  have regular : o.toDocument.IsRegular := fun f hf =>
    ⟨(o.isLegible_toDocument f hf).1, (o.isLegible_toDocument f hf).2.framed⟩
  have elements := RawDocument.elements_ofDocument regular (fits.le.trans (by decide))
  rcases o with ⟨_ | w⟩
  · have nothing : (RawDocument.ofDocument []).elements = ⟨[], true⟩ := elements
    have body : d.body ++ Document.body (toDocument ⟨none⟩) = d.body := List.append_nil _
    rw [if_neg (by simp), body]
    exact RawDocument.join_of_fresh readable nothing nofun
  · have single : (RawDocument.ofDocument (toDocument ⟨some w⟩)).elements =
        ⟨[⟨"writeConcern", (Value.document w.toDocument).framed⟩], true⟩ := elements
    have bytes : Document.body (toDocument ⟨some w⟩) =
        Element.bytes ⟨"writeConcern", (Value.document w.toDocument).framed⟩ := by
      simp [Document.body_eq_flatMap, Document.framed, toDocument, WriteConcern.field]
    rw [appendTo, RawDocument.join_single readable single, bytes]
    simp [RawDocument.appendElement]

/-- Nothing is added to a document that cannot be read. To any other, joining adds the longest front
of the other document that can be read and has no key of the first. The elements are read as key and
value, so the options of a pattern are put in order; all the rest keeps its bytes. The joining
succeeds just if that is all, and else tells whether it stopped at a taken key, which is named, or
at an element that cannot be read. A single element, such as the options that are appended to a
command, is added whole or not at all. -/
theorem joining_adds_longest_fresh_front (d other : RawDocument) :
    (d.elements.complete = false →
      (d.join other).document = d ∧ (d.join other).error? = some .unreadableReply) ∧
    (d.elements.complete = true →
      (∃ p, d.LongestFresh other p ∧ d.GrownBy other (d.join other).document p ∧
        (d.join other).EndsAfter d other p) ∧
      (∀ e, other.elements = ⟨[e], true⟩ →
        d.join other = ⟨d, some (.repeatedKey e.key)⟩ ∨ d.join other = ⟨d.appendElement e, none⟩) ∧
      ∀ o : CreationOptions, (RawDocument.ofDocument o.toDocument).size < 2 ^ 31 →
        CreationOptions.appendTo d (some o) = ⟨d, some (.repeatedKey "writeConcern")⟩ ∨
        CreationOptions.appendTo d (some o) = ⟨⟨d.body ++ Document.body o.toDocument⟩, none⟩) := by
  refine ⟨fun broken => ?_, fun readable => ⟨?_, fun e single => ?_, fun o fits => ?_⟩⟩
  · have unjoined : d.join other = ⟨d, some .unreadable⟩ := if_neg (by simp [broken])
    rw [unjoined]
    exact ⟨rfl, rfl⟩
  · obtain ⟨p, upTo, document⟩ := d.join_joinsUpTo other
    exact ⟨p, upTo.longestFresh readable, document ▸ upTo.grownBy readable,
      upTo.endsAfter readable⟩
  · rw [RawDocument.join_single readable single]
    exact ite_eq_or_eq ..
  · rw [CreationOptions.appendTo_eq readable fits]
    exact ite_eq_or_eq ..

theorem joining_adds_longest_fresh_front_before_taken_key :
    let d := RawDocument.ofDocument [("a", .int32 1)]
    let other := RawDocument.ofDocument [("b", .int32 2), ("a", .int32 3), ("c", .int32 4)]
    let o : CreationOptions := ⟨some .ofMajority⟩
    d.elements.complete = true ∧
      (∃ p, d.LongestFresh other p ∧ p.map (·.key) = ["b"] ∧
        d.GrownBy other (d.join other).document p ∧ (d.join other).EndsAfter d other p) ∧
      (RawDocument.ofDocument o.toDocument).size < 2 ^ 31 ∧
      CreationOptions.appendTo d (some o) = ⟨⟨d.body ++ Document.body o.toDocument⟩, none⟩ := by
  intro d other o
  have readable : d.elements.complete = true := by decide +kernel
  have fits : (RawDocument.ofDocument o.toDocument).size < 2 ^ 31 := by decide +kernel
  obtain ⟨-, joins⟩ := joining_adds_longest_fresh_front d other
  obtain ⟨⟨p, longest, grown, ends⟩, -, options⟩ := joins readable
  have keys : (d.join other).document.keys = d.keys ++ p.map (·.key) := by
    rw [RawDocument.keys, grown.elements, List.map_append]
    rfl
  have added : ["a"] ++ ["b"] = ["a"] ++ p.map (·.key) := by
    have before : d.keys = ["a"] := by decide +kernel
    have after : (d.join other).document.keys = ["a", "b"] := by decide +kernel
    rw [← before, ← keys, after, before]
    rfl
  refine ⟨readable, ⟨p, longest, (List.append_cancel_left added).symm, grown, ends⟩, fits, ?_⟩
  rcases options o fits with taken | joined
  · have unstopped : (CreationOptions.appendTo d (some o)).fault = none := by decide +kernel
    rw [taken] at unstopped
    cases unstopped
  · exact joined

/-- A pattern that is added does not keep the bytes it stood in: its options are put in order. -/
theorem joined_pattern_put_in_order :
    let d := RawDocument.ofDocument [("a", .int32 1)]
    let pattern (options : String) : Bytes :=
      0x0b :: (cstring "r" ++ (cstring "p" ++ cstring options))
    let bad := Element.bytes ⟨"bad", .document ⟨[0x20, 0x78, 0x00]⟩⟩
    let other : RawDocument := ⟨pattern "xsi" ++ bad⟩
    d.elements.complete = true ∧ other.elements.complete = true ∧ d.keys = ["a"] ∧
      other.keys = ["r", "bad"] ∧ (d.join other).fault = none ∧
      (d.join other).document.body = d.body ++ (pattern "isx" ++ bad) ∧
      (d.join other).document.body ≠ d.body ++ other.body := by
  intro d pattern bad other
  have readable : d.elements.complete = true := by decide +kernel
  have keys : d.keys = ["a"] := by decide +kernel
  have elements : other.elements = ⟨[⟨"r", .scalar (.ordered "p" "xsi")⟩,
      ⟨"bad", .document ⟨[0x20, 0x78, 0x00]⟩⟩], true⟩ := by
    refine RawDocument.elements_eq_iff.mpr ⟨[pattern "xsi", bad], ?_, by simp [other]⟩
    refine .cons (.keyed (by decide) ?_) (.cons (.keyed (by decide) ?_) .nil)
    · exact .scalar (.regex (by decide) (by decide))
    · exact .framed nofun (RawValue.fits_of_length (by decide))
  have written : Element.bytes ⟨"r", .scalar (.ordered "p" "xsi")⟩ = pattern "isx" := by
    have sorted : Scalar.sortedOptions "xsi" = "isx" :=
      Scalar.sortedOptions_eq (by decide) (by decide)
    have settled : Scalar.sortedOptions "isx" = "isx" :=
      Scalar.sortedOptions_eq (.refl _) (by decide)
    simp only [Element.bytes, RawValue.tag, RawValue.payload, Scalar.tag, Scalar.payload,
      Scalar.ordered, sorted, settled]
    rfl
  have joined : d.join other = ⟨⟨d.body ++ (pattern "isx" ++ bad)⟩, none⟩ := by
    rw [RawDocument.join_of_fresh readable elements (by simp [keys])]
    simp only [List.foldl_cons, List.foldl_nil, RawDocument.appendElement, written,
      List.append_assoc]
    rfl
  rw [joined]
  refine ⟨readable, by rw [elements], keys, by rw [RawDocument.keys, elements]; rfl, rfl, rfl, ?_⟩
  decide +kernel

end UserProvision
