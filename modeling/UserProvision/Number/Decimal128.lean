import UserProvision.Bytes
import UserProvision.Text.Digits

/-!
# Decimal numbers of 128 bits

A decimal of at most 34 digits with an exponent between -6176 and 6111, an infinity or not-a-number,
held as its sixteen stored bytes, least significant first.
-/

namespace UserProvision

/-- A decimal floating-point number, held as the stored bytes. -/
structure Decimal128 where
  bytes : Bytes
  deriving DecidableEq, Repr

namespace Decimal128

/-- What the bits of a decimal stand for. -/
inductive Meaning where
  | finite (negative : Bool) (coefficient : Nat) (exponent : Int)
  | infinite (negative : Bool)
  | nan
  deriving DecidableEq, Repr

def bias : Int := 6176

def maxCoefficient : Nat := 10 ^ 34 - 1

/-- Decodes the bits. A coefficient that exceeds 34 digits, as every one in the short form does,
stands for zero. -/
def meaning (d : Decimal128) : Meaning :=
  let n := Bytes.ofLittleEndian d.bytes
  let negative := n / 2 ^ 127 % 2 == 1
  let combination := n / 2 ^ 122 % 32
  if combination = 31 then .nan
  else if combination = 30 then .infinite negative
  else if 24 ≤ combination then .finite negative 0 ((n / 2 ^ 111 % 2 ^ 14 : Nat) - bias)
  else
    let coefficient := n % 2 ^ 113
    .finite negative (if coefficient ≤ maxCoefficient then coefficient else 0)
      ((n / 2 ^ 113 % 2 ^ 14 : Nat) - bias)

/-- Stores a finite decimal. -/
def ofFinite (negative : Bool) (coefficient : Nat) (exponent : Int) : Decimal128 :=
  ⟨Bytes.littleEndian 16
    ((if negative then 2 ^ 127 else 0) + (exponent + bias).toNat * 2 ^ 113 + coefficient)⟩

def ofInfinite (negative : Bool) : Decimal128 :=
  ⟨Bytes.littleEndian 16 ((if negative then 2 ^ 127 else 0) + 30 * 2 ^ 122)⟩

/-- Stores not-a-number, which may signal. -/
def ofNan (negative signals : Bool) : Decimal128 :=
  ⟨Bytes.littleEndian 16
    ((if negative then 2 ^ 127 else 0) + 31 * 2 ^ 122 + if signals then 2 ^ 121 else 0)⟩

/-- Writes a finite decimal: positional if its exponent is not positive and its first digit stands
at most six places after the point, else with an exponent that always has a sign. -/
def writeFinite (coefficient : Nat) (exponent : Int) : String :=
  let digits := Digits.ofNat coefficient
  let lead := exponent + digits.length - 1
  if exponent ≤ 0 ∧ -6 ≤ lead then
    let places := (-exponent).toNat
    if places = 0 then String.ofList digits
    else
      let filled := digits.leftpad (places + 1) '0'
      String.ofList (filled.take (filled.length - places) ++ '.' ::
        filled.drop (filled.length - places))
  else
    let tail := digits.drop 1
    String.ofList (digits.take 1 ++ if tail.isEmpty then [] else '.' :: tail) ++ "E" ++
      (if lead < 0 then "-" else "+") ++ toString lead.natAbs

def text (d : Decimal128) : String :=
  match d.meaning with
  | .nan => "NaN"
  | .infinite negative => (if negative then "-" else "") ++ "Infinity"
  | .finite negative coefficient exponent =>
    (if negative then "-" else "") ++ writeFinite coefficient exponent

/-- Cuts digits down to `count`, provided that only zeros are lost. -/
def cutDigits? (count : Nat) (digits : List Char) : Option (List Char) :=
  if (digits.drop count).all (· == '0') then some (digits.take count) else none

/-- Fits the digits and the exponent of a written decimal into the format, without rounding. -/
def fit? (negative : Bool) (digits : List Char) (exponent : Int) : Option Decimal128 := do
  let significant := digits.dropWhile (· == '0')
  let digits := if significant.isEmpty then ['0'] else significant
  let excess := digits.length - 34
  let digits ← cutDigits? (digits.length - excess) digits
  let exponent := exponent + excess
  let zero := digits == ['0']
  let (digits, exponent) ←
    if exponent < -bias then
      let lost := (-bias - exponent).toNat
      if zero then some (digits, -bias)
      else if digits.length < lost then none
      else (cutDigits? (digits.length - lost) digits).map (·, -bias)
    else if 6111 < exponent then
      let added := (exponent - 6111).toNat
      if zero then some (digits, 6111)
      else if 34 < digits.length + added then none
      else some (digits ++ List.replicate added '0', 6111)
    else some (digits, exponent)
  let coefficient ← Digits.unsigned? digits
  return ofFinite negative coefficient exponent

/-- Reads a written exponent, which has to fit a signed number of sixteen bits. -/
def exponent? (chars : List Char) : Option Int :=
  (Digits.signed? chars).filter fun n => -32768 ≤ n && n ≤ 32767

/-- Reads a written decimal: an optional sign, digits with at most one point among them, an optional
exponent; or an infinity or not-a-number. -/
def ofText? (text : String) : Option Decimal128 :=
  let (negative, chars) := match text.toList with
    | '-' :: rest => (true, rest)
    | '+' :: rest => (false, rest)
    | rest => (false, rest)
  let chars := chars.map Char.toLower
  let word := String.ofList chars
  if word = "nan" then some (ofNan negative false)
  else if word = "snan" then some (ofNan negative true)
  else if word = "inf" ∨ word = "infinity" then some (ofInfinite negative)
  else do
    let mantissa := chars.takeWhile (· != 'e')
    let exponent ← match chars.dropWhile (· != 'e') with
      | [] => some 0
      | _ :: rest => exponent? rest
    let whole := mantissa.takeWhile (· != '.')
    let fraction := (mantissa.dropWhile (· != '.')).drop 1
    let exponent := exponent - fraction.length
    if fraction.length ≤ 32767 ∧ -32768 ≤ exponent then fit? negative (whole ++ fraction) exponent
    else none

end Decimal128

end UserProvision
