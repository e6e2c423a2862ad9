import Mathlib.Tactic.Ring
import UserProvision.Document.Value

/-!
# The integers that doubles stand for

A double is taken for its integer part if the double nearest to that part is at most `2 ^ -52` away.
For an integer of 64 bits this is the double itself, since integers that are doubles are their own
nearest doubles (`IsInt.units_ofInt`). A fraction is a multiple of the unit in the last place, so
that only tiny doubles and the two next to one and minus one are ever near without being integers
(`Nears`).

## Main result

* `integer?_eq_some_iff` — the integers that doubles stand for, all bit patterns considered.
-/

namespace UserProvision.Double

variable {x : Double}

/-! ## Units -/

/-- The distance from one to the next double, in units. -/
def epsilon : Nat := 2 ^ 1022

/-- One is a power of two units. The exponent is held as a variable, for the power is too large to
be evaluated. -/
theorem exists_unitsPerOne_eq : ∃ e, e = 1074 ∧ unitsPerOne = 2 ^ e :=
  ⟨1074, rfl, by rw [unitsPerOne]⟩

theorem exists_epsilon_eq : ∃ e, e = 1022 ∧ epsilon = 2 ^ e := ⟨1022, rfl, by rw [epsilon]⟩

theorem two_pow_lt_unitsPerOne (n : Nat) (h : n < 1074) : 2 ^ n < unitsPerOne := by
  obtain ⟨e, he, one⟩ := exists_unitsPerOne_eq
  rw [one]
  exact Nat.pow_lt_pow_right Nat.one_lt_two (by omega)

theorem unitsPerOne_pos : 0 < unitsPerOne :=
  (Nat.two_pow_pos 0).trans (two_pow_lt_unitsPerOne 0 (by decide))

theorem epsilon_pos : 0 < epsilon := by
  obtain ⟨e, -, eps⟩ := exists_epsilon_eq
  rw [eps]
  exact Nat.two_pow_pos e

theorem epsilon_lt : epsilon < unitsPerOne := by
  obtain ⟨e, he, eps⟩ := exists_epsilon_eq
  rw [eps]
  exact two_pow_lt_unitsPerOne e (by omega)

theorem natAbs_units (x : Double) : x.units.natAbs = x.magnitude := by
  unfold units
  split <;> simp

theorem units_eq_or (x : Double) : x.units = x.magnitude ∨ x.units = -x.magnitude := by
  unfold units
  split
  · exact .inr rfl
  · exact .inl rfl

/-! ## Significand and scale -/

theorem significand_lt (x : Double) : x.significand < 2 ^ 53 := by
  have fraction : x.fractionField < 2 ^ 52 := Nat.mod_lt _ (by decide)
  unfold significand
  split <;> omega

theorem le_significand (h : 0 < x.scale) : 2 ^ 52 ≤ x.significand := by
  have normal : x.exponentField ≠ 0 := by
    unfold scale at h
    omega
  rw [significand, if_neg normal]
  exact Nat.le_add_right ..

theorem scale_le (finite : x.isFinite = true) : x.scale ≤ 2045 := by
  have field : x.exponentField < 2 ^ 11 := Nat.mod_lt _ (by decide)
  have small : x.exponentField ≠ 2047 := by simpa [isFinite] using finite
  unfold scale
  omega

theorem magnitude_lt (x : Double) : x.magnitude < 2 ^ (53 + x.scale) := by
  rw [magnitude, Nat.pow_add]
  exact Nat.mul_lt_mul_of_pos_right (significand_lt x) (Nat.two_pow_pos _)

/-- The scale can be told from the product. -/
theorem log2_scaled {s k : Nat} (low : 2 ^ 52 ≤ s) (high : s < 2 ^ 53) :
    (s * 2 ^ k).log2 = 52 + k := by
  have positive : 0 < 2 ^ k := Nat.two_pow_pos k
  rw [Nat.log2_eq_iff (Nat.mul_pos (by omega) positive).ne']
  constructor
  · rw [Nat.pow_add]
    exact Nat.mul_le_mul_right _ low
  · rw [show 52 + k + 1 = 53 + k by omega, Nat.pow_add]
    exact Nat.mul_lt_mul_of_pos_right high positive

/-! ## Nearest doubles of integers -/

/-- A number whose significand fits is not rounded. -/
theorem nearestBits_of_eq {a s k : Nat} (eq : a * unitsPerOne = s * 2 ^ k) (low : 2 ^ 52 ≤ s)
    (high : s < 2 ^ 53) (bound : k ≤ 2045) : nearestBits a 1 = k * 2 ^ 52 + s := by
  have positive : 0 < 2 ^ k := Nat.two_pow_pos k
  have rounded : Tie.even.round (s * 2 ^ k) (1 * 2 ^ k) = s := by
    simp [Tie.round, Nat.mul_div_cancel _ positive]
  rw [nearestBits, eq, Nat.div_one, log2_scaled low high, Nat.add_sub_cancel_left, rounded]
  omega

theorem ofRatio_fields (negative : Bool) {a s k : Nat} (eq : a * unitsPerOne = s * 2 ^ k)
    (low : 2 ^ 52 ≤ s) (high : s < 2 ^ 53) (bound : k ≤ 2045) :
    (ofRatio negative a 1).isNegative = negative ∧
      (ofRatio negative a 1).magnitude = s * 2 ^ k := by
  have bits : (ofRatio negative a 1).bits.toNat =
      k * 2 ^ 52 + s + if negative then 2 ^ 63 else 0 := by
    rw [ofRatio, nearestBits_of_eq eq low high bound, UInt64.toNat_ofNat']
    apply Nat.mod_eq_of_lt
    cases negative <;> simp <;> omega
  have exponent : (ofRatio negative a 1).exponentField = k + 1 := by
    rw [exponentField, bits]
    cases negative <;> simp <;> omega
  have fraction : (ofRatio negative a 1).fractionField = s - 2 ^ 52 := by
    rw [fractionField, bits]
    cases negative <;> simp <;> omega
  constructor
  · rw [isNegative, bits]
    cases negative <;> simp
    omega
  · rw [magnitude, significand, scale, exponent, fraction, if_neg (Nat.succ_ne_zero k),
      Nat.add_sub_cancel, Nat.add_sub_of_le low]

/-- An integer with at most 53 significant binary digits is its own nearest double. -/
theorem units_ofInt {n : Int} {s k : Nat} (eq : n.natAbs * unitsPerOne = s * 2 ^ k)
    (low : 2 ^ 52 ≤ s) (high : s < 2 ^ 53) (bound : k ≤ 2045) :
    (ofInt n).units = n * unitsPerOne := by
  obtain ⟨sign, magnitude⟩ := ofRatio_fields (decide (n < 0)) eq low high bound
  rw [units, ofInt, sign, magnitude, ← eq, Nat.cast_mul]
  by_cases negative : n < 0
  · rw [if_pos (decide_eq_true negative), Int.ofNat_natAbs_of_nonpos negative.le, Int.neg_mul,
      Int.neg_neg]
  · rw [if_neg (by simpa using negative), Int.natAbs_of_nonneg (not_lt.mp negative)]

theorem units_ofInt_of_lt {n : Int} (small : n.natAbs < 2 ^ 53) :
    (ofInt n).units = n * unitsPerOne := by
  rcases eq_or_ne n 0 with rfl | nonzero
  · decide +kernel
  · obtain ⟨e, he, one⟩ := exists_unitsPerOne_eq
    have positive : n.natAbs ≠ 0 := Int.natAbs_ne_zero.mpr nonzero
    have log : n.natAbs.log2 ≤ 52 := Nat.lt_succ_iff.mp ((Nat.log2_lt positive).mpr small)
    refine units_ofInt (s := n.natAbs * 2 ^ (52 - n.natAbs.log2)) (k := e - 52 + n.natAbs.log2)
      ?_ ?_ ?_ (by omega)
    · rw [Nat.mul_assoc, ← Nat.pow_add, one]
      exact congrArg (fun e => n.natAbs * 2 ^ e) (by omega)
    · calc 2 ^ 52 = 2 ^ (n.natAbs.log2 + (52 - n.natAbs.log2)) := congrArg (2 ^ ·) (by omega)
        _ = 2 ^ n.natAbs.log2 * 2 ^ (52 - n.natAbs.log2) := Nat.pow_add ..
        _ ≤ n.natAbs * 2 ^ (52 - n.natAbs.log2) :=
          Nat.mul_le_mul_right _ (Nat.log2_self_le positive)
    · calc n.natAbs * 2 ^ (52 - n.natAbs.log2)
          < 2 ^ (n.natAbs.log2 + 1) * 2 ^ (52 - n.natAbs.log2) :=
            Nat.mul_lt_mul_of_pos_right Nat.lt_log2_self (Nat.two_pow_pos _)
        _ = 2 ^ (n.natAbs.log2 + 1 + (52 - n.natAbs.log2)) := (Nat.pow_add ..).symm
        _ = 2 ^ 53 := congrArg (2 ^ ·) (by omega)

/-- The integers of 64 bits end just below a double. -/
theorem units_ofInt_limit : (ofInt (2 ^ 63 - 1)).units = 2 ^ 63 * unitsPerOne := by decide +kernel

theorem units_ofInt_lowest : (ofInt (-2 ^ 63)).units = -2 ^ 63 * unitsPerOne := by decide +kernel

/-! ## Taking a double for its integer part -/

theorem truncated_eq (finite : x.isFinite = true) :
    x.truncated = max (-2 ^ 63) (min (2 ^ 63 - 1) (x.units.tdiv unitsPerOne)) := by
  have number : x.isNaN = false := by
    have small : x.exponentField ≠ 2047 := by simpa [isFinite] using finite
    simp [isNaN, small]
  rw [truncated, number, finite, if_neg (by decide), if_pos rfl]

theorem integer?_eq (x : Double) : x.integer? =
    if x.isFinite && (x.units - (ofInt x.truncated).units).natAbs ≤ epsilon then some x.truncated
    else none := by rw [integer?, epsilon]

theorem integer?_eq_some_iff_near {k : Int} : x.integer? = some k ↔
    x.isFinite = true ∧ (x.units - (ofInt k).units).natAbs ≤ epsilon ∧ x.truncated = k := by
  rw [integer?_eq]
  constructor
  · intro h
    obtain ⟨near, h⟩ := Option.ite_none_right_eq_some.mp h
    cases h
    obtain ⟨finite, near⟩ := Bool.and_eq_true_iff.mp near
    exact ⟨finite, of_decide_eq_true near, rfl⟩
  · rintro ⟨finite, near, rfl⟩
    rw [finite, decide_eq_true near]
    rfl

/-! ## Doubles that are integers -/

/-- The integer is the exact value of the double. -/
def IsInt (x : Double) (n : Int) : Prop := x.isFinite = true ∧ x.units = n * unitsPerOne

namespace IsInt

variable {n k : Int}

theorem magnitude (h : x.IsInt n) : x.magnitude = n.natAbs * unitsPerOne := by
  rw [← natAbs_units, h.2, Int.natAbs_mul, Int.natAbs_natCast]

theorem dvd (h : x.IsInt n) : unitsPerOne ∣ x.magnitude := ⟨_, h.magnitude.trans (Nat.mul_comm ..)⟩

theorem unique (h : x.IsInt n) (h' : x.IsInt k) : n = k := by
  have positive : (unitsPerOne : Int) ≠ 0 := by exact_mod_cast unitsPerOne_pos.ne'
  exact mul_right_cancel₀ positive (h.2.symm.trans h'.2)

/-- A double that is an integer is the nearest double to that integer. -/
theorem units_ofInt (h : x.IsInt n) : (ofInt n).units = n * unitsPerOne := by
  rcases eq_or_ne n 0 with rfl | nonzero
  · exact units_ofInt_of_lt (by decide)
  · have scaled : 0 < x.scale := by
      by_contra unscaled
      have least : 1 * unitsPerOne ≤ n.natAbs * unitsPerOne :=
        Nat.mul_le_mul_right _ (Int.natAbs_pos.mpr nonzero)
      have greatest : 2 ^ 53 < unitsPerOne := two_pow_lt_unitsPerOne 53 (by decide)
      have unit := significand_lt x
      rw [← h.magnitude, Double.magnitude, Nat.eq_zero_of_not_pos unscaled] at least
      omega
    exact Double.units_ofInt h.magnitude.symm (le_significand scaled) (significand_lt x)
      (scale_le h.1)

/-- The integer part of an integer is itself, unless it exceeds 64 bits. -/
theorem truncated_eq (h : x.IsInt n) : x.truncated = max (-2 ^ 63) (min (2 ^ 63 - 1) n) := by
  have positive : (unitsPerOne : Int) ≠ 0 := by exact_mod_cast unitsPerOne_pos.ne'
  rw [Double.truncated_eq h.1, h.2, Int.mul_tdiv_cancel _ positive]

/-- Two integers that are less than one apart are the same. -/
theorem eq_of_near (near : (n * unitsPerOne - k * unitsPerOne : Int).natAbs ≤ epsilon) :
    n = k := by
  by_contra other
  have apart : 1 * unitsPerOne ≤ (n * unitsPerOne - k * unitsPerOne : Int).natAbs := by
    rw [← Int.sub_mul, Int.natAbs_mul, Int.natAbs_natCast]
    exact Nat.mul_le_mul_right _ (Int.natAbs_pos.mpr (sub_ne_zero.mpr other))
  have := epsilon_lt
  omega

/-- A double that is an integer stands for that integer if it has 64 bits, and the first one beyond
stands for the last one that has. -/
theorem integer?_eq_some_iff (h : x.IsInt n) :
    x.integer? = some k ↔ (n = k ∧ -2 ^ 63 ≤ k ∧ k < 2 ^ 63) ∨ (n = 2 ^ 63 ∧ k = 2 ^ 63 - 1) := by
  rw [integer?_eq_some_iff_near, h.truncated_eq, h.2]
  constructor
  · rintro ⟨-, near, held⟩
    rcases lt_or_ge n (2 ^ 63) with below | beyond
    · rcases lt_or_ge n (-2 ^ 63) with under | within
      · obtain rfl : k = -2 ^ 63 := by omega
        rw [units_ofInt_lowest] at near
        exact absurd (eq_of_near near) under.ne
      · exact .inl (by omega)
    · obtain rfl : k = 2 ^ 63 - 1 := by omega
      rw [units_ofInt_limit] at near
      exact .inr ⟨eq_of_near near, rfl⟩
  · rintro (⟨rfl, low, high⟩ | ⟨rfl, rfl⟩)
    · rw [h.units_ofInt, Int.sub_self]
      exact ⟨h.1, Nat.zero_le _, by omega⟩
    · rw [units_ofInt_limit, Int.sub_self]
      exact ⟨h.1, Nat.zero_le _, by decide⟩

end IsInt

/-- Without a fraction, a double is an integer. -/
theorem exists_isInt (finite : x.isFinite = true) (whole : unitsPerOne ∣ x.magnitude) :
    ∃ n, x.IsInt n := by
  obtain ⟨n, eq⟩ := whole
  rcases x.units_eq_or with units | units
  · exact ⟨n, finite, by rw [units, eq]; push_cast; ring⟩
  · exact ⟨-n, finite, by rw [units, eq]; push_cast; ring⟩

/-! ## Doubles with a fraction -/

section Fraction

variable (fraction : ¬ unitsPerOne ∣ x.magnitude)

include fraction

theorem scale_lt : x.scale < 1074 := by
  obtain ⟨e, he, one⟩ := exists_unitsPerOne_eq
  by_contra large
  refine fraction ?_
  rw [one, magnitude]
  exact (Nat.pow_dvd_pow 2 (by omega)).mul_left x.significand

/-- The integer part of a double with a fraction has at most 53 binary digits. -/
theorem whole_lt : x.magnitude / unitsPerOne < 2 ^ 53 := by
  obtain ⟨e, he, one⟩ := exists_unitsPerOne_eq
  have scale := scale_lt fraction
  rw [Nat.div_lt_iff_lt_mul unitsPerOne_pos]
  calc x.magnitude < 2 ^ (53 + x.scale) := magnitude_lt x
    _ ≤ 2 ^ (53 + e) := Nat.pow_le_pow_right Nat.two_pos (by omega)
    _ = 2 ^ 53 * unitsPerOne := by rw [Nat.pow_add, one]

/-- From one on, only doubles whose unit in the last place is `2 ^ -52` have so small a fraction. -/
theorem scale_eq_of_near (near : x.magnitude % unitsPerOne ≤ epsilon)
    (more : unitsPerOne ≤ x.magnitude) :
    x.scale = 1022 ∧ x.magnitude % unitsPerOne = epsilon := by
  obtain ⟨e, he, one⟩ := exists_unitsPerOne_eq
  obtain ⟨m, hm, eps⟩ := exists_epsilon_eq
  have low : m ≤ x.scale := by
    by_contra smaller
    have less : x.magnitude < unitsPerOne :=
      calc x.magnitude < 2 ^ (53 + x.scale) := magnitude_lt x
        _ ≤ 2 ^ e := Nat.pow_le_pow_right Nat.two_pos (by omega)
        _ = unitsPerOne := one.symm
    omega
  -- The unit in the last place divides the double and one, and so the fraction.
  have positive : 0 < x.magnitude % unitsPerOne :=
    Nat.pos_of_ne_zero fun none => fraction (Nat.dvd_of_mod_eq_zero none)
  have divides : 2 ^ x.scale ∣ unitsPerOne := by
    have scale := scale_lt fraction
    rw [one]
    exact Nat.pow_dvd_pow 2 (by omega)
  have unit : 2 ^ x.scale ≤ x.magnitude % unitsPerOne :=
    Nat.le_of_dvd positive ((Nat.dvd_mod_iff divides).mpr (Dvd.intro_left _ rfl))
  rw [eps] at near ⊢
  have high : x.scale ≤ m := (Nat.pow_le_pow_iff_right Nat.one_lt_two).mp (unit.trans near)
  obtain rfl : x.scale = m := le_antisymm high low
  exact ⟨hm, le_antisymm near unit⟩

/-- A fraction of at most `2 ^ -52` is that of a number as small, or of a double next to one. -/
theorem near_iff : x.magnitude % unitsPerOne ≤ epsilon ↔
    x.magnitude ≤ epsilon ∨ x.magnitude = unitsPerOne + epsilon := by
  constructor
  · intro near
    rcases lt_or_ge x.magnitude unitsPerOne with less | more
    · rw [Nat.mod_eq_of_lt less] at near
      exact .inl near
    · obtain ⟨scale, rest⟩ := scale_eq_of_near fraction near more
      obtain ⟨e, he, one⟩ := exists_unitsPerOne_eq
      have less : x.magnitude < 2 * unitsPerOne :=
        calc x.magnitude < 2 ^ (53 + x.scale) := magnitude_lt x
          _ = 2 ^ (e + 1) := congrArg (HPow.hPow 2) (by omega)
          _ = 2 * unitsPerOne := by rw [one, Nat.pow_succ']
      rw [Nat.mod_eq_sub_mod more, Nat.mod_eq_of_lt (by omega)] at rest
      exact .inr (by omega)
  · rintro (tiny | next)
    · exact (Nat.mod_le _ _).trans tiny
    · rw [next, Nat.add_mod_left, Nat.mod_eq_of_lt epsilon_lt]

theorem integer?_of_fraction (finite : x.isFinite = true) {k : Int} :
    x.integer? = some k ↔
      x.magnitude % unitsPerOne ≤ epsilon ∧ x.units.tdiv unitsPerOne = k := by
  have whole : (x.units.tdiv unitsPerOne).natAbs = x.magnitude / unitsPerOne := by
    rw [Int.natAbs_tdiv, natAbs_units, Int.natAbs_natCast]
    rfl
  have small := whole_lt fraction
  have truncated : x.truncated = x.units.tdiv unitsPerOne := by
    rw [truncated_eq finite]
    omega
  have rest : (x.units - (ofInt (x.units.tdiv unitsPerOne)).units).natAbs =
      x.magnitude % unitsPerOne := by
    rw [units_ofInt_of_lt (by omega), Int.mul_comm, ← Int.tmod_def, Int.natAbs_tmod, natAbs_units,
      Int.natAbs_natCast]
  rw [integer?_eq_some_iff_near, truncated]
  constructor
  · rintro ⟨-, near, rfl⟩
    rw [rest] at near
    exact ⟨near, rfl⟩
  · rintro ⟨near, rfl⟩
    rw [rest]
    exact ⟨finite, near, rfl⟩

end Fraction

/-- Doubles with a fraction that are so near to an integer that they stand for it. -/
inductive Nears (x : Double) : Int → Prop
  | zero (positive : 0 < x.magnitude) (tiny : x.magnitude ≤ epsilon) : Nears x 0
  | one (next : x.units = unitsPerOne + epsilon) : Nears x 1
  | minusOne (next : x.units = -(unitsPerOne + epsilon)) : Nears x (-1)

theorem not_dvd_of_lt {n : Nat} (positive : 0 < n) (small : n < unitsPerOne) :
    ¬ unitsPerOne ∣ n := fun divides => absurd (Nat.le_of_dvd positive divides) small.not_ge

theorem Nears.fraction {k : Int} (h : x.Nears k) : ¬ unitsPerOne ∣ x.magnitude := by
  cases h with
  | zero positive tiny => exact not_dvd_of_lt positive (tiny.trans_lt epsilon_lt)
  | one next | minusOne next =>
    have magnitude : x.magnitude = unitsPerOne + epsilon := by
      rw [← natAbs_units, next]
      omega
    rw [magnitude, Nat.dvd_add_right (Nat.dvd_refl _)]
    exact not_dvd_of_lt epsilon_pos epsilon_lt

theorem tdiv_next : ((unitsPerOne : Int) + epsilon).tdiv unitsPerOne = 1 := by
  rw [← Int.natCast_add, ← Int.ofNat_tdiv, Nat.add_div_left _ unitsPerOne_pos,
    Nat.div_eq_of_lt epsilon_lt]
  rfl

/-- What has a small fraction is near to its integer part, and to no other integer. -/
theorem nears_iff (fraction : ¬ unitsPerOne ∣ x.magnitude) {k : Int} :
    x.Nears k ↔ x.magnitude % unitsPerOne ≤ epsilon ∧ x.units.tdiv unitsPerOne = k := by
  have natAbs := natAbs_units x
  have small : x.magnitude ≤ epsilon → x.units.tdiv unitsPerOne = 0 := by
    intro tiny
    rw [← Int.natAbs_eq_zero, Int.natAbs_tdiv, natAbs, Int.natAbs_natCast]
    exact Nat.div_eq_of_lt (tiny.trans_lt epsilon_lt)
  rw [near_iff fraction]
  constructor
  · rintro (⟨-, tiny⟩ | next | next)
    · exact ⟨.inl tiny, small tiny⟩
    · rw [next]
      exact ⟨.inr (by omega), tdiv_next⟩
    · rw [next, Int.neg_tdiv, tdiv_next]
      exact ⟨.inr (by omega), rfl⟩
  · rintro ⟨tiny | next, rfl⟩
    · rw [small tiny]
      exact .zero (Nat.pos_of_ne_zero fun none => fraction (none ▸ Nat.dvd_zero _)) tiny
    · rcases x.units_eq_or with units | units
      · rw [units, next, Nat.cast_add, tdiv_next]
        exact .one (by rw [units, next, Nat.cast_add])
      · rw [units, next, Nat.cast_add, Int.neg_tdiv, tdiv_next]
        exact .minusOne (by rw [units, next, Nat.cast_add])

/-! ## All doubles -/

/-- The integers that doubles stand for: those of 64 bits that are their values, the last one of
64 bits for the double just beyond, and those that they are near to. -/
theorem integer?_eq_some_iff {k : Int} :
    x.integer? = some k ↔
      (x.IsInt k ∧ -2 ^ 63 ≤ k ∧ k < 2 ^ 63) ∨ (x.IsInt (2 ^ 63) ∧ k = 2 ^ 63 - 1) ∨
        (x.isFinite = true ∧ x.Nears k) := by
  by_cases finite : x.isFinite = true
  · by_cases whole : unitsPerOne ∣ x.magnitude
    · obtain ⟨n, int⟩ := exists_isInt finite whole
      have same (k : Int) : x.IsInt k ↔ n = k := ⟨int.unique, fun eq => eq ▸ int⟩
      have apart : ¬ x.Nears k := fun near => near.fraction whole
      rw [int.integer?_eq_some_iff, same, same]
      simp only [apart, and_false, or_false]
    · have broken (k : Int) : ¬ x.IsInt k := fun int => whole int.dvd
      rw [integer?_of_fraction whole finite, ← nears_iff whole]
      simp only [broken, finite, false_and, false_or, true_and]
  · have unread : ¬ x.integer? = some k := fun h => finite (integer?_eq_some_iff_near.mp h).1
    have infinite (k : Int) : ¬ x.IsInt k := fun int => finite int.1
    simp only [unread, infinite, finite, Bool.false_eq_true, false_and, or_false]

end UserProvision.Double
