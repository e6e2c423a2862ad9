import Mathlib.Algebra.Order.Field.Rat
import Mathlib.Algebra.Order.Field.Power
import Mathlib.Tactic.Linarith
import UserProvision.Proofs.Number.Double
import UserProvision.Reply.Command

/-!
# The integers that values count as

The exact value of a double is its significand times a power of two. Which integer a double counts as
depends on that value alone: integers of 64 bits count as themselves, `2 ^ 63` as the integer before
it, what is at most `2 ^ -52` from zero as zero, and the doubles next beyond one and minus one as
these. No other double counts as an integer, and of the other values only stored integers do.

## Main definitions

* `Double.value?` — the exact value of a bit pattern.
* `Double.CountsAs`, `Value.CountsAs` — the integers that numbers and values count as.

## Main results

* `Double.value?_eq` — the value is a number of units.
* `Double.integer?_eq_some_iff_value` — the integers that doubles count as.
* `integers_counted_exactly` — the integers that values count as, and the doubles that mean success.
-/

namespace UserProvision

namespace Double

variable {x : Double}

/-! ## Exact values -/

/-- The exact value of a bit pattern. With the least exponent the significand has no leading one; the
greatest one is left to the infinities and to what is not a number. -/
def value? (x : Double) : Option ℚ :=
  if x.exponentField = 2047 then none
  else
    let magnitude : ℚ :=
      if x.exponentField = 0 then x.fractionField / 2 ^ 52 * (2 : ℚ) ^ (-1022 : ℤ)
      else (1 + x.fractionField / 2 ^ 52) * (2 : ℚ) ^ (x.exponentField - 1023 : ℤ)
    some (if x.isNegative then -magnitude else magnitude)

theorem unitsPerOne_eq : unitsPerOne = 2 ^ 52 * epsilon := by
  obtain ⟨e, he, one⟩ := exists_unitsPerOne_eq
  obtain ⟨m, hm, eps⟩ := exists_epsilon_eq
  rw [one, eps, ← Nat.pow_add]
  exact congrArg (2 ^ ·) (by omega)

theorem cast_epsilon : (epsilon : ℚ) = 2 ^ (1022 : ℤ) := by
  obtain ⟨m, hm, eps⟩ := exists_epsilon_eq
  have exponent : (1022 : ℤ) = m := by omega
  rw [eps, exponent, zpow_natCast, Nat.cast_pow, Nat.cast_ofNat]

theorem cast_unitsPerOne_pos : (0 : ℚ) < unitsPerOne := Nat.cast_pos.mpr unitsPerOne_pos

/-- A significand of 52 places after the point, and its scale in units. -/
theorem scaled_div (s : ℚ) (k : ℤ) :
    s * 2 ^ k / unitsPerOne = s / 2 ^ 52 * 2 ^ (k - 1022) := by
  rw [zpow_sub₀ two_ne_zero, ← cast_epsilon, unitsPerOne_eq, div_mul_div_comm]
  push_cast
  rfl

theorem magnitude_div (x : Double) : (x.magnitude : ℚ) / unitsPerOne =
    if x.exponentField = 0 then x.fractionField / 2 ^ 52 * (2 : ℚ) ^ (-1022 : ℤ)
    else (1 + x.fractionField / 2 ^ 52) * (2 : ℚ) ^ (x.exponentField - 1023 : ℤ) := by
  have cast : (x.magnitude : ℚ) = x.significand * 2 ^ (x.scale : ℤ) := by
    rw [magnitude, zpow_natCast]
    push_cast
    rfl
  rw [cast, scaled_div, significand, scale]
  split
  · rename_i least
    rw [least]
    rfl
  · rename_i normal
    have exponent : ((x.exponentField - 1 : ℕ) : ℤ) - 1022 = x.exponentField - 1023 := by omega
    rw [exponent, Nat.cast_add, add_div]
    norm_num

/-- The exact value of a double is its number of units. -/
theorem value?_eq (x : Double) :
    x.value? = if x.isFinite then some ((x.units : ℚ) / unitsPerOne) else none := by
  unfold value? isFinite
  by_cases finite : x.exponentField = 2047
  · simp [finite]
  · have reads : (x.exponentField != 2047) = true := bne_iff_ne.mpr finite
    rw [if_neg finite, if_pos reads, ← magnitude_div, units]
    dsimp only
    by_cases negative : x.isNegative = true
    · rw [if_pos negative, if_pos negative, Int.cast_neg, Int.cast_natCast, neg_div]
    · rw [if_neg negative, if_neg negative, Int.cast_natCast]

theorem value?_eq_some_iff {q : ℚ} :
    x.value? = some q ↔ x.isFinite = true ∧ (x.units : ℚ) = q * unitsPerOne := by
  rw [value?_eq, Option.ite_none_right_eq_some, Option.some.injEq,
    div_eq_iff cast_unitsPerOne_pos.ne']

theorem isInt_iff {n : ℤ} : x.IsInt n ↔ x.value? = some (n : ℚ) := by
  rw [value?_eq_some_iff, IsInt]
  norm_cast

/-! ## Doubles -/

/-- The integer that a number counts as. -/
inductive CountsAs : ℚ → ℤ → Prop
  | exact {n : ℤ} (low : -2 ^ 63 ≤ n) (high : n < 2 ^ 63) : CountsAs n n
  | limit : CountsAs (2 ^ 63) (2 ^ 63 - 1)
  | tiny {q : ℚ} (small : |q| ≤ 1 / 2 ^ 52) : CountsAs q 0
  | one : CountsAs (1 + 1 / 2 ^ 52) 1
  | minusOne : CountsAs (-(1 + 1 / 2 ^ 52)) (-1)

/-- The number next beyond one, in units. -/
theorem next_mul : (1 + 1 / 2 ^ 52) * (unitsPerOne : ℚ) = unitsPerOne + epsilon := by
  rw [unitsPerOne_eq]
  push_cast
  ring

theorem value?_eq_next_iff :
    x.value? = some (1 + 1 / 2 ^ 52) ↔ x.isFinite = true ∧ x.units = unitsPerOne + epsilon := by
  rw [value?_eq_some_iff, next_mul]
  norm_cast

theorem value?_eq_neg_next_iff :
    x.value? = some (-(1 + 1 / 2 ^ 52)) ↔
      x.isFinite = true ∧ x.units = -(unitsPerOne + epsilon) := by
  rw [value?_eq_some_iff, neg_mul, next_mul]
  norm_cast

/-- A double is tiny if its magnitude is at most the distance from one to the next double. -/
theorem abs_value_le_iff {q : ℚ} (value : x.value? = some q) :
    |q| ≤ 1 / 2 ^ 52 ↔ x.magnitude ≤ epsilon := by
  have units := (value?_eq_some_iff.mp value).2
  have magnitude : (x.magnitude : ℚ) = |q| * unitsPerOne := by
    rw [← natAbs_units, Nat.cast_natAbs, Int.cast_abs, units, abs_mul,
      abs_of_pos cast_unitsPerOne_pos]
  have eps : (epsilon : ℚ) = 1 / 2 ^ 52 * unitsPerOne := by
    rw [unitsPerOne_eq]
    push_cast
    ring
  rw [← Nat.cast_le (α := ℚ), magnitude, eps]
  exact (mul_le_mul_iff_of_pos_right cast_unitsPerOne_pos).symm

/-- A double counts as an integer just if its exact value does. -/
theorem integer?_eq_some_iff_value {k : ℤ} :
    x.integer? = some k ↔ ∃ q, x.value? = some q ∧ CountsAs q k := by
  have beyond : ((2 ^ 63 : ℤ) : ℚ) = 2 ^ 63 := by norm_num
  rw [integer?_eq_some_iff, isInt_iff, isInt_iff, beyond]
  constructor
  · rintro (⟨value, low, high⟩ | ⟨value, rfl⟩ | ⟨finite, near⟩)
    · exact ⟨k, value, .exact low high⟩
    · exact ⟨2 ^ 63, value, .limit⟩
    · cases near with
      | zero positive tiny =>
        have value : x.value? = some ((x.units : ℚ) / unitsPerOne) := by rw [value?_eq, if_pos finite]
        exact ⟨_, value, .tiny ((abs_value_le_iff value).mpr tiny)⟩
      | one next => exact ⟨_, value?_eq_next_iff.mpr ⟨finite, next⟩, .one⟩
      | minusOne next => exact ⟨_, value?_eq_neg_next_iff.mpr ⟨finite, next⟩, .minusOne⟩
  · rintro ⟨q, value, counts⟩
    have finite := (value?_eq_some_iff.mp value).1
    cases counts with
    | exact low high => exact .inl ⟨value, low, high⟩
    | limit => exact .inr (.inl ⟨value, rfl⟩)
    | one => exact .inr (.inr ⟨finite, .one (value?_eq_next_iff.mp value).2⟩)
    | minusOne => exact .inr (.inr ⟨finite, .minusOne (value?_eq_neg_next_iff.mp value).2⟩)
    | tiny small =>
      have tiny := (abs_value_le_iff value).mp small
      rcases Nat.eq_zero_or_pos x.magnitude with zero | positive
      · have units : x.units = 0 := by rw [← Int.natAbs_eq_zero, natAbs_units, zero]
        exact .inl ⟨isInt_iff.mp ⟨finite, by rw [units, Int.zero_mul]⟩, by decide⟩
      · exact .inr (.inr ⟨finite, .zero positive tiny⟩)

/-! ## The doubles that count as one -/

/-- From one to two the bits run on with the value. -/
theorem bits_eq_of_units {d : Nat} (small : d < 2 ^ 52)
    (units : x.units = ((2 ^ 52 + d) * epsilon : ℕ)) : x.bits.toNat = 1023 * 2 ^ 52 + d := by
  obtain ⟨m, hm, eps⟩ := exists_epsilon_eq
  have positive : 0 < (2 ^ 52 + d) * epsilon := Nat.mul_pos (by omega) epsilon_pos
  have magnitude : x.significand * 2 ^ x.scale = (2 ^ 52 + d) * 2 ^ m := by
    rw [← Double.magnitude, ← natAbs_units, units, Int.natAbs_natCast, eps]
  have sign : x.isNegative = false := by
    by_contra negative
    rw [Double.units, if_pos (by simpa using negative)] at units
    omega
  have scaled : 0 < x.scale := by
    by_contra unscaled
    have least : 2 ^ 53 ≤ 2 ^ m := Nat.pow_le_pow_right Nat.two_pos (by omega)
    have more : 1 * 2 ^ m ≤ (2 ^ 52 + d) * 2 ^ m := Nat.mul_le_mul_right _ (by omega)
    have significand := significand_lt x
    rw [← magnitude, Nat.eq_zero_of_not_pos unscaled] at more
    omega
  have scale : x.scale = m := by
    have log := congrArg Nat.log2 magnitude
    rw [log2_scaled (le_significand scaled) (significand_lt x),
      log2_scaled (by omega) (by omega)] at log
    omega
  have significand : x.significand = 2 ^ 52 + d := by
    rw [scale] at magnitude
    exact Nat.eq_of_mul_eq_mul_right (Nat.two_pow_pos m) magnitude
  have fields : x.exponentField = 1023 ∧ x.fractionField = d := by
    unfold Double.scale at scale
    rw [Double.significand, if_neg (by omega)] at significand
    omega
  have below : ¬ 2 ^ 63 ≤ x.bits.toNat := by simpa [isNegative] using sign
  unfold exponentField fractionField at fields
  omega

/-- Of all doubles two count as one. -/
theorem integer?_eq_one_iff :
    x.integer? = some 1 ↔ x.bits = 0x3FF0000000000000 ∨ x.bits = 0x3FF0000000000001 := by
  constructor
  · intro h
    have one : (unitsPerOne : ℤ) = ((2 ^ 52 + 0) * epsilon : ℕ) := by rw [unitsPerOne_eq]
    have next : (unitsPerOne + epsilon : ℤ) = ((2 ^ 52 + 1) * epsilon : ℕ) := by
      rw [unitsPerOne_eq, Nat.add_mul, Nat.one_mul]
      rfl
    rcases integer?_eq_some_iff.mp h with ⟨int, -⟩ | ⟨-, limit⟩ | ⟨-, near⟩
    · have units := int.2
      rw [Int.one_mul, one] at units
      exact .inl (UInt64.toNat_inj.mp (bits_eq_of_units (by decide) units))
    · omega
    · cases near with
      | one units =>
        rw [next] at units
        exact .inr (UInt64.toNat_inj.mp (bits_eq_of_units (by decide) units))
  · obtain ⟨bits⟩ := x
    rintro (rfl | rfl) <;> decide +kernel

end Double

/-! ## All values -/

/-- The integer that a value counts as. -/
inductive Value.CountsAs : Value → ℤ → Prop
  | int32 (n : Int32) : CountsAs (.int32 n) n.toInt
  | int64 (n : Int64) : CountsAs (.int64 n) n.toInt
  | double {x : Double} {q : ℚ} {k : ℤ} (value : x.value? = some q) (counts : Double.CountsAs q k) :
    CountsAs (.double x) k

theorem Value.integer?_eq_some_iff_countsAs {v : Value} {k : ℤ} :
    v.integer? = some k ↔ v.CountsAs k := by
  constructor
  · intro h
    unfold integer? at h
    split at h
    · cases h
      exact .int32 _
    · cases h
      exact .int64 _
    · obtain ⟨q, value, counts⟩ := Double.integer?_eq_some_iff_value.mp h
      exact .double value counts
    · cases h
  · rintro (_ | _ | ⟨value, counts⟩)
    · rfl
    · rfl
    · exact Double.integer?_eq_some_iff_value.mpr ⟨_, value, counts⟩

/-- Stored integers count as themselves, doubles as what their exact values count as, and no other
value counts as an integer; what counts as none has none. So of the doubles under `ok` just two mean
success: one, and the double next beyond it. -/
theorem integers_counted_exactly (v : Value) :
    (∀ k, v.integer? = some k ↔ v.CountsAs k) ∧
      (v.integer? = none ↔ ∀ k, ¬ v.CountsAs k) ∧
      ∀ x : Double, CommandReply.isOk (.double x) = true ↔
        x.bits = 0x3FF0000000000000 ∨ x.bits = 0x3FF0000000000001 := by
  refine ⟨fun k => Value.integer?_eq_some_iff_countsAs, ?_, fun x => ?_⟩
  · rw [Option.eq_none_iff_forall_ne_some]
    exact forall_congr' fun k => Value.integer?_eq_some_iff_countsAs.not
  · rw [CommandReply.isOk_iff]
    exact Double.integer?_eq_one_iff

/-- Negative zero counts as zero. -/
example : (Value.double ⟨0x8000000000000000⟩).integer? = some 0 := by decide +kernel

end UserProvision
