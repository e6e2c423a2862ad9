import Mathlib.Data.List.Basic
import UserProvision.Text.LowerCase

/-!
# Names in lower case

A character outside ASCII has no lower-case form in ASCII but for two, and of these one brings a
mark with it that is outside ASCII, the other becomes a `k`. So a text becomes a name in small
letters of ASCII, none of them a `k`, just if it is that name but for the case of its letters in
ASCII.

## Main definitions

* `LowerCase.SameLetters` — texts that differ in the case of letters in ASCII only.
* `LowerCase.Lowers` — the lower-case forms of a text, whichever small sigma is taken.

## Main results

* `LowerCase.exists_mem_ofChar` — what becomes of a character outside ASCII.
* `LowerCase.Lowers.eq_iff` — which texts become a name.
-/

namespace UserProvision.LowerCase

/-- Two texts are the same, except that letters in ASCII may be small in one and capital in the
other. -/
def SameLetters (text text' : String) : Prop :=
  text.toList.map Char.toLower = text'.toList.map Char.toLower

instance (text text' : String) : Decidable (SameLetters text text') :=
  inferInstanceAs (Decidable (_ = _))

/-- Lower-case forms of a text: each character becomes what it does by itself, except that a capital
sigma may also become the final sigma. -/
inductive Lowers : List Char → List Char → Prop
  | nil : Lowers [] []
  | char (c : Char) {cs ls : List Char} (rest : Lowers cs ls) : Lowers (c :: cs) (ofChar c ++ ls)
  | finalSigma {cs ls : List Char} (rest : Lowers cs ls) : Lowers ('Σ' :: cs) ('ς' :: ls)

theorem lowers_ofText (text : String) : Lowers text.toList (ofText text).toList := by
  rw [ofText, String.toList_ofList]
  induction text.toList with
  | nil => exact .nil
  | cons c cs ih => exact .char c ih

/-! ## Characters -/

/-- Lower case in ASCII is that of ASCII. -/
theorem ofChar_ascii {c : Char} (inside : c.toNat < 0x80) : ofChar c = [c.toLower] := if_pos inside

/-- A character outside ASCII has no other case in ASCII. -/
theorem toLower_of_le {c : Char} (outside : 0x80 ≤ c.toNat) : c.toLower = c := by
  refine dif_neg ?_
  rintro ⟨-, capital⟩
  have : c.toNat ≤ 90 := UInt32.le_iff_toNat_le.mp capital
  omega

/-- All small letters of the table are characters, and outside ASCII but for that of the sign for
kelvin. -/
theorem small_of_mem_capitals : ∀ r ∈ capitals,
    (r.small + (r.last - r.first) < 0xd800 ∨
      0xe000 ≤ r.small ∧ r.small + (r.last - r.first) < 0x110000) ∧
    (0x80 ≤ r.small ∨ r.first = 0x212a ∧ r.last = 0x212a) := by
  decide +kernel

theorem lower_of_holds {r : Capitals} (mem : r ∈ capitals) {n : Nat} (holds : r.holds n = true)
    (other : n ≠ 0x212a) : (r.lower n).isValidChar ∧ 0x80 ≤ r.lower n := by
  obtain ⟨characters, outside⟩ := small_of_mem_capitals r mem
  simp only [Capitals.holds, Bool.and_eq_true, decide_eq_true_eq] at holds
  rw [Capitals.lower, Nat.isValidChar]
  omega

/-- What becomes of a character outside ASCII is not all in ASCII, or is a `k`. -/
theorem exists_mem_ofChar {c : Char} (outside : 0x80 ≤ c.toNat) :
    ∃ x ∈ ofChar c, 0x80 ≤ x.toNat ∨ x = 'k' := by
  by_cases kelvin : c = '\u212a'
  · exact ⟨'k', by rw [kelvin]; decide +kernel, .inr rfl⟩
  have other : c.toNat ≠ 0x212a := fun same =>
    kelvin (by rw [← c.ofNat_toNat, same])
  rw [ofChar, if_neg (Nat.not_lt.mpr outside)]
  by_cases dotted : c = '\u0130'
  · rw [if_pos dotted]
    exact ⟨'\u0307', by simp, .inl (by decide)⟩
  rw [if_neg dotted]
  cases found : capitals.find? (·.holds c.toNat) with
  | none => exact ⟨c, List.mem_singleton_self c, .inl outside⟩
  | some r =>
    have holds : r.holds c.toNat = true := by simpa using List.find?_some found
    obtain ⟨valid, small⟩ := lower_of_holds (List.mem_of_find?_eq_some found) holds other
    refine ⟨_, List.mem_singleton_self _, .inl ?_⟩
    rw [Char.ofNat, dif_pos valid]
    exact small

/-! ## Names -/

/-- Where a character outside ASCII stands, neither its form nor the text goes on as a name does. -/
theorem append_eq_iff_of_outside {c : Char} (outside : 0x80 ≤ c.toNat) (cs front ls : List Char)
    (form : ∃ x ∈ front, 0x80 ≤ x.toNat ∨ x = 'k') {name : List Char}
    (plain : ∀ x ∈ name, x.toNat < 0x80 ∧ x ≠ 'k') :
    front ++ ls = name ↔ (c :: cs).map Char.toLower = name := by
  refine iff_of_false ?_ ?_
  · rintro rfl
    obtain ⟨x, mem, strange⟩ := form
    obtain ⟨inside, other⟩ := plain x (List.mem_append_left ls mem)
    rcases strange with outside | letter
    · omega
    · exact other letter
  · rintro rfl
    have inside := (plain _ List.mem_cons_self).1
    rw [toLower_of_le outside] at inside
    omega

/-- A text becomes a name just if it is the name but for the case of letters in ASCII, whichever
small sigma is taken. -/
theorem Lowers.eq_iff {cs ls : List Char} (h : Lowers cs ls) {name : List Char}
    (plain : ∀ x ∈ name, x.toNat < 0x80 ∧ x ≠ 'k') :
    ls = name ↔ cs.map Char.toLower = name := by
  induction h generalizing name with
  | nil => exact Iff.rfl
  | @char c cs ls rest ih =>
    by_cases inside : c.toNat < 0x80
    · rw [ofChar_ascii inside, List.singleton_append, List.map_cons]
      cases name with
      | nil => simp
      | cons x name =>
        have others := ih (List.forall_mem_cons.mp plain).2
        rw [List.cons.injEq, List.cons.injEq]
        exact and_congr_right fun _ => others
    · have outside : 0x80 ≤ c.toNat := Nat.not_lt.mp inside
      exact append_eq_iff_of_outside outside cs _ ls (exists_mem_ofChar outside) plain
  | @finalSigma cs ls rest ih =>
    exact append_eq_iff_of_outside (by decide) cs ['ς'] ls
      ⟨'ς', List.mem_singleton_self _, .inl (by decide)⟩ plain

end UserProvision.LowerCase
