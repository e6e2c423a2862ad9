import Mathlib.Data.List.Forall2
import UserProvision.Pool.Basic

/-!
# Lines of the log

An event becomes a line of the log when it is told. An error does not say in which order its labels
are told, so that one event may be told in several ways, and each telling has an order of its own.
Lines of one event differ in nothing else (`Event.alike_line`), and do not differ at all unless its
error tells of several labels at a time (`Error.text_eq_of_few`).

## Main definitions

* `LogLine` — an event as it is told.
* `LogLine.Alike` — lines that differ at most in the order of the labels in an error text.
* `Trace.Logs` — the lines that a trace may be told in.

## Main results

* `Event.alike_line` — two tellings of one event are alike.
* `Trace.LoggedAlike.of_events` — what did the same is logged alike.
-/

namespace UserProvision

/-- An event as it is told. -/
structure LogLine where
  target : String
  level : String
  message : String
  fields : List (String × FieldValue)

/-- How an event is told in a wording. -/
def Event.line (e : Event) (words : Wording) : LogLine :=
  ⟨e.target, e.level, e.message, e.fields words⟩

/-! ## What the order of labels decides -/

mutual

/-- The sets of labels that are told within the text of a kind of failure. -/
def Kind.toldLabels : Kind → List Labels
  | .connectionUnavailable message | .invalidResponse message => message.toldLabels
  | _ => []

/-- The sets of labels that are told within a message. -/
def Message.toldLabels : Message → List Labels
  | .quoting _ kind labels => labels :: kind.toldLabels
  | _ => []

end

/-- The sets of labels that are told in the text of an error. -/
def Error.toldLabels (e : Error) : List Labels := e.labels :: e.kind.toldLabels

section Few

variable {words words' : Wording} (unreadable : words.unreadable = words'.unreadable)

include unreadable

mutual

theorem Kind.detail_congr (kind : Kind)
    (same : ∀ labels ∈ kind.toldLabels, labels.text words = labels.text words') :
    kind.detail words = kind.detail words' := by
  cases kind with
  | connectionUnavailable message | invalidResponse message => exact message.text_congr same
  | unreadableDocument | unwritableDocument => exact unreadable
  | _ => rfl

theorem Message.text_congr (message : Message)
    (same : ∀ labels ∈ message.toldLabels, labels.text words = labels.text words') :
    message.text words = message.text words' := by
  cases message with
  | said => rfl
  | unreadable => exact unreadable
  | quoting opening kind labels =>
    obtain ⟨first, rest⟩ := List.forall_mem_cons.mp same
    rw [Message.text, Message.text, kind.detail_congr rest, first]

end

/-- An error that tells of at most one label at a time is told in one way. -/
theorem Error.text_eq_of_few {e : Error}
    (few : ∀ labels ∈ e.toldLabels, labels.toList.length ≤ 1) : e.text words = e.text words' := by
  have same : ∀ labels ∈ e.toldLabels, labels.text words = labels.text words' := by
    intro labels mem
    have order (words : Wording) : words.order labels = labels.toList := by
      have perm := words.perm labels
      match list : labels.toList, few labels mem with
      | [], _ => rwa [list, List.perm_nil] at perm
      | [l], _ => rwa [list, List.perm_singleton] at perm
    rw [Labels.text, Labels.text, order, order]
  obtain ⟨first, rest⟩ := List.forall_mem_cons.mp same
  rw [text, text, Kind.text, Kind.text, e.kind.detail_congr unreadable rest, first]

end Few

/-! ## Lines up to the order of labels -/

/-- The same value, or two texts of one error that tells of several labels at a time, which stand in
different orders in the two. -/
inductive FieldValue.Alike : FieldValue → FieldValue → Prop where
  | same (v : FieldValue) : Alike v v
  | told (e : Error) (several : ∃ labels ∈ e.toldLabels, 1 < labels.toList.length)
      {words words' : Wording} (unreadable : words.unreadable = words'.unreadable) :
      Alike (.text (e.text words)) (.text (e.text words'))

theorem FieldValue.alike_text (e : Error) {words words' : Wording}
    (unreadable : words.unreadable = words'.unreadable) :
    Alike (.text (e.text words)) (.text (e.text words')) := by
  by_cases several : ∃ labels ∈ e.toldLabels, 1 < labels.toList.length
  · exact .told e several unreadable
  · have few : ∀ labels ∈ e.toldLabels, labels.toList.length ≤ 1 := fun labels mem =>
      Nat.not_lt.mp fun many => several ⟨labels, mem, many⟩
    rw [Error.text_eq_of_few unreadable few]
    exact .same _

/-- Fields of one name with values that are alike. -/
def FieldValue.AlikeUnderName (f f' : String × FieldValue) : Prop := f.1 = f'.1 ∧ f.2.Alike f'.2

/-- Lines that differ at most in the order of the labels in an error text. -/
structure LogLine.Alike (l l' : LogLine) : Prop where
  target : l.target = l'.target
  level : l.level = l'.level
  message : l.message = l'.message
  fields : List.Forall₂ FieldValue.AlikeUnderName l.fields l'.fields

theorem FieldValue.alikeUnderName_refl (fields : List (String × FieldValue)) :
    List.Forall₂ AlikeUnderName fields fields :=
  List.forall₂_same.mpr fun f _ => ⟨rfl, .same f.2⟩

/-- Two tellings of one event are alike. -/
theorem Event.alike_line (e : Event) {words words' : Wording}
    (unreadable : words.unreadable = words'.unreadable) :
    (e.line words).Alike (e.line words') where
  target := rfl
  level := rfl
  message := rfl
  fields := by
    cases e with
    | checkOutFailed error | checkInFailedAfterSuccess error
    | checkInFailedWhileAbandoning error | commandFailed error =>
      exact .cons ⟨rfl, FieldValue.alike_text error unreadable⟩ (FieldValue.alikeUnderName_refl _)
    | _ => exact FieldValue.alikeUnderName_refl _

/-- A line in which an event may be told, given what is said of unreadable bytes. -/
def Event.Reads (unreadable : String) (e : Event) (l : LogLine) : Prop :=
  ∃ words : Wording, words.unreadable = unreadable ∧ l = e.line words

theorem Event.Reads.alike {unreadable : String} {e : Event} {l l' : LogLine}
    (told : e.Reads unreadable l) (told' : e.Reads unreadable l') : l.Alike l' := by
  obtain ⟨words, rfl, rfl⟩ := told
  obtain ⟨words', agree, rfl⟩ := told'
  exact e.alike_line agree.symm

/-! ## Traces -/

/-- The lines in which the events of a trace may be told, given what is said of unreadable bytes
with each event. -/
def Trace.Logs {κ : Type} (unreadable : Event → String) (t : Trace κ) (lines : List LogLine) :
    Prop :=
  List.Forall₂ (fun e l => e.Reads (unreadable e) l) t.events lines

/-- Whichever lines two traces are told in, they differ at most in the order of labels. -/
def Trace.LoggedAlike {κ κ' : Type} (t : Trace κ) (t' : Trace κ') : Prop :=
  ∀ (unreadable : Event → String) (lines lines' : List LogLine), t.Logs unreadable lines →
    t'.Logs unreadable lines' → List.Forall₂ LogLine.Alike lines lines'

namespace Trace

variable {κ κ' : Type}

/-- Every choice of wordings tells a trace. -/
theorem logs_map (t : Trace κ) (words : Event → Wording) :
    t.Logs (fun e => (words e).unreadable) (t.events.map fun e => e.line (words e)) := by
  rw [Logs, List.forall₂_map_right_iff]
  exact List.forall₂_same.mpr fun e _ => ⟨words e, rfl, rfl⟩

/-- What did the same is logged alike. -/
theorem LoggedAlike.of_events {t : Trace κ} {t' : Trace κ'} (same : t.events = t'.events) :
    t.LoggedAlike t' := by
  intro unreadable lines lines' told told'
  rw [Logs, ← same] at told'
  rw [Logs] at told
  generalize t.events = events at told told'
  induction told generalizing lines' with
  | nil =>
    cases told'
    exact .nil
  | cons first _ ih =>
    cases told' with
    | cons first' rest' => exact .cons (first.alike first') (ih _ rest')

end Trace

end UserProvision
