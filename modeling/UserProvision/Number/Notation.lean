import UserProvision.Number.Shortest

/-!
# Written doubles

Two ways of writing a finite double by its shortest digits. They differ in how small a number may be
before an exponent is used, in the sign of a positive exponent, and in the choice between two
equally near decimals.
-/

namespace UserProvision

/-- A way of writing doubles. A number whose point stands `k` places after its first digit is
written without an exponent if `smallest < k ≤ largest`; `plus` stands before a positive
exponent. -/
structure DoubleStyle where
  smallest : Int
  largest : Int
  plus : String
  tie : Tie
  deriving DecidableEq, Repr

namespace DoubleStyle

/-- Numbers of a JSON text. -/
def json : DoubleStyle := ⟨-5, 16, "+", .even⟩

/-- Numbers of an inspected value. -/
def inspected : DoubleStyle := ⟨-4, 16, "", .up⟩

/-- Writes a decimal. A whole number keeps one zero after the point, and an exponent has no leading
zeros. -/
def write (style : DoubleStyle) (d : Decimal) : String :=
  let digits := Digits.ofNat d.digits
  let count : Int := digits.length
  let point := count + d.exponent
  if style.smallest < point ∧ point ≤ style.largest ∨ d.digits = 0 then
    if point ≤ 0 then
      "0." ++ String.ofList (List.replicate (-point).toNat '0' ++ digits)
    else if count ≤ point then
      String.ofList (digits ++ List.replicate (point - count).toNat '0') ++ ".0"
    else
      String.ofList (digits.take point.toNat ++ '.' :: digits.drop point.toNat)
  else
    let tail := digits.drop 1
    let mantissa := digits.take 1 ++ if tail.isEmpty then [] else '.' :: tail
    String.ofList mantissa ++ "e" ++ (if 1 < point then style.plus else "") ++ toString (point - 1)

/-- Writes a finite double, a minus sign before the digits if its sign bit is set. -/
def text (style : DoubleStyle) (x : Double) : String :=
  (if x.isNegative then "-" else "") ++ style.write (x.shortest style.tie)

end DoubleStyle

namespace Double

/-- The text of a double in an inspected value. -/
def inspect (x : Double) : String :=
  if x.isNaN then "NaN"
  else if x.isFinite then DoubleStyle.inspected.text x
  else if x.isNegative then "-inf" else "inf"

/-- Reads the part of a written double that follows the sign: digits with at most one point among
them, then perhaps an exponent. -/
def ofDecimalText? (negative : Bool) (chars : List Char) : Option Double :=
  let whole := chars.takeWhile Digits.isDigit
  let afterWhole := chars.dropWhile Digits.isDigit
  let (fraction, tail) := match afterWhole with
    | '.' :: rest => (rest.takeWhile Digits.isDigit, rest.dropWhile Digits.isDigit)
    | rest => ([], rest)
  let exponent? : Option Int := match tail with
    | [] => some 0
    | 'e' :: rest | 'E' :: rest => Digits.signed? rest
    | _ => none
  match exponent? with
  | none => none
  | some exponent =>
    if whole.isEmpty && fraction.isEmpty then none
    else
      let digits := Digits.value (whole ++ fraction)
      let scale := exponent - fraction.length
      let lead := scale + (Digits.ofNat digits).length
      if digits = 0 ∨ lead < -400 then some (ofRatio negative 0 1)
      else if 400 < lead then some (infinity negative)
      else if 0 ≤ scale then some (ofRatio negative (digits * 10 ^ scale.toNat) 1)
      else some (ofRatio negative digits (10 ^ (-scale).toNat))

/-- Reads a written double: an optional sign, then a decimal, an infinity or not-a-number. -/
def ofText? (text : String) : Option Double :=
  let (negative, chars) := match text.toList with
    | '-' :: rest => (true, rest)
    | '+' :: rest => (false, rest)
    | rest => (false, rest)
  let word := String.ofList (chars.map Char.toLower)
  if word = "inf" ∨ word = "infinity" then some (infinity negative)
  else if word = "nan" then some (nan negative)
  else ofDecimalText? negative chars

end Double

end UserProvision
