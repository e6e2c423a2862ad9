/-!
# Doubles as bit patterns

A double is its 64 bits. Every finite double is a whole number of units of `2 ^ -1074`, so its exact
value is the integer `Double.units`, and questions about doubles become questions about integers.
`Double.ofRatio` rounds a ratio to the nearest double, a tie to the one with the even significand.
-/

namespace UserProvision

/-- Where a quotient goes that lies half-way between two integers. -/
inductive Tie where
  | even
  | up
  deriving DecidableEq, Repr

/-- The quotient rounded to the nearest integer. -/
def Tie.round (tie : Tie) (a b : Nat) : Nat :=
  let q := a / b
  let r := a % b
  if 2 * r < b then q
  else if b < 2 * r then q + 1
  else match tie with
    | .even => q + q % 2
    | .up => q + 1

/-- A binary floating-point number of 64 bits, held as its bit pattern. -/
structure Double where
  bits : UInt64
  deriving DecidableEq, Repr

namespace Double

/-- The number of units of `2 ^ -1074` in one. -/
def unitsPerOne : Nat := 2 ^ 1074

/-- Whether the sign bit is set. -/
def isNegative (x : Double) : Bool := 2 ^ 63 ≤ x.bits.toNat

/-- The eleven bits below the sign. -/
def exponentField (x : Double) : Nat := x.bits.toNat / 2 ^ 52 % 2 ^ 11

/-- The lowest 52 bits. -/
def fractionField (x : Double) : Nat := x.bits.toNat % 2 ^ 52

def isFinite (x : Double) : Bool := x.exponentField != 2047

def isNaN (x : Double) : Bool := x.exponentField == 2047 && x.fractionField != 0

/-- The integer that is scaled by a power of two; its top bit is implied unless the exponent field
is zero. -/
def significand (x : Double) : Nat :=
  if x.exponentField = 0 then x.fractionField else 2 ^ 52 + x.fractionField

/-- The power of two, counted from `2 ^ -1074`, that the significand is scaled by. -/
def scale (x : Double) : Nat := x.exponentField - 1

/-- The exact absolute value of a finite double in units of `2 ^ -1074`. -/
def magnitude (x : Double) : Nat := x.significand * 2 ^ x.scale

/-- The exact value of a finite double in units of `2 ^ -1074`. -/
def units (x : Double) : Int := if x.isNegative then -(x.magnitude : Int) else x.magnitude

/-- The bits, without the sign, of the double nearest to `a / b`. A rounding that carries runs into
the next exponent by itself, and what exceeds the largest finite double is infinite. -/
def nearestBits (a b : Nat) : Nat :=
  let scale := (a * unitsPerOne / b).log2 - 52
  min (2047 * 2 ^ 52) (scale * 2 ^ 52 + Tie.even.round (a * unitsPerOne) (b * 2 ^ scale))

/-- The double nearest to `± a / b`. -/
def ofRatio (negative : Bool) (a b : Nat) : Double :=
  ⟨UInt64.ofNat (nearestBits a b + if negative then 2 ^ 63 else 0)⟩

/-- The double nearest to an integer. -/
def ofInt (n : Int) : Double := ofRatio (n < 0) n.natAbs 1

def infinity (negative : Bool) : Double := ofRatio negative (2 ^ 1024) 1

def nan (negative : Bool) : Double :=
  ⟨UInt64.ofNat (2047 * 2 ^ 52 + 2 ^ 51 + if negative then 2 ^ 63 else 0)⟩

/-- The integer part, toward zero, held within the signed 64-bit range. Not-a-number has the integer
part zero. -/
def truncated (x : Double) : Int :=
  if x.isNaN then 0
  else if x.isFinite then max (-2 ^ 63) (min (2 ^ 63 - 1) (x.units.tdiv unitsPerOne))
  else if x.isNegative then -2 ^ 63 else 2 ^ 63 - 1

/-- The integer a double stands for: its integer part, provided that the double nearest to that
part is at most `2 ^ -52` away from the double itself. -/
def integer? (x : Double) : Option Int :=
  if x.isFinite && (x.units - (ofInt x.truncated).units).natAbs ≤ 2 ^ 1022 then some x.truncated
  else none

end Double

end UserProvision
