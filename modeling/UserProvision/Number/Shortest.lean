import UserProvision.Number.Double
import UserProvision.Text.Digits

/-!
# The shortest decimal of a double

`Double.shortest` gives the decimal with the fewest significant digits among those that read back as
the double, and of several such the one nearest to it. Of two that are equally near the caller
chooses one by a `Tie`.
-/

namespace UserProvision

/-- The decimal `digits * 10 ^ exponent`. -/
structure Decimal where
  digits : Nat
  exponent : Int
  deriving DecidableEq, Repr

namespace Double

/-- The reals that round to a double, as numerators over `2 ^ 1076`. -/
structure Interval where
  low : Nat
  centre : Nat
  high : Nat
  closed : Bool

/-- Half the way to either neighbour. The neighbour below a power of two is only half as far away.
The ends round to the double itself when its significand is even. -/
def interval (x : Double) : Interval :=
  let centre := 4 * x.magnitude
  let step := 2 * 2 ^ x.scale
  let below := if x.significand = 2 ^ 52 ∧ 0 < x.scale then step / 2 else step
  ⟨centre - below, centre, centre + step, x.significand % 2 == 0⟩

/-- The number of units that an `Interval` counts in one. -/
def intervalUnit : Nat := 2 ^ 1076

/-- The exponent of the leading decimal digit of `a / b`. -/
def leadingExponent (a b : Nat) : Int :=
  if b ≤ a then ((Digits.ofNat (a / b)).length : Int) - 1
  else -(((List.range 400).find? fun k => b ≤ a * 10 ^ k).getD 400 : Nat)

/-- `a / b` as a ratio that counts the steps of the grid `10 ^ exponent`. -/
def gridRatio (a b : Nat) (exponent : Int) : Nat × Nat :=
  if 0 ≤ exponent then (a, b * 10 ^ exponent.toNat) else (a * 10 ^ (-exponent).toNat, b)

/-- The point of the grid `10 ^ exponent` nearest to the double among those that round to it. -/
def gridPoint? (tie : Tie) (i : Interval) (exponent : Int) : Option Nat :=
  let (centre, unit) := gridRatio i.centre intervalUnit exponent
  let low := (gridRatio i.low intervalUnit exponent).1
  let high := (gridRatio i.high intervalUnit exponent).1
  let inside (n : Nat) : Bool :=
    if i.closed then low ≤ n * unit && n * unit ≤ high else low < n * unit && n * unit < high
  let n := centre / unit
  match inside n, inside (n + 1) with
  | true, true => some (tie.round centre unit)
  | true, false => some n
  | false, true => some (n + 1)
  | false, false => none

/-- Drops the zeros at the end of the digits. -/
def normalised (fuel : Nat) (d : Decimal) : Decimal :=
  match fuel with
  | 0 => d
  | fuel + 1 =>
    if d.digits % 10 = 0 ∧ d.digits ≠ 0 then normalised fuel ⟨d.digits / 10, d.exponent + 1⟩ else d

/-- The shortest decimal of the absolute value of a finite double. Seventeen digits always read
back. -/
def shortest (tie : Tie) (x : Double) : Decimal :=
  if x.magnitude = 0 then ⟨0, 0⟩
  else
    let i := x.interval
    let lead := leadingExponent i.centre intervalUnit
    let found := (List.range 18).findSome? fun (k : Nat) =>
      (gridPoint? tie i (lead - k)).map fun n => (⟨n, lead - k⟩ : Decimal)
    normalised 20 (found.getD ⟨0, 0⟩)

end Double

end UserProvision
