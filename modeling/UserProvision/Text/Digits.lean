/-!
# Decimal digits

Reading and writing of whole numbers in base ten. Only the ten ASCII digits count as digits.
-/

namespace UserProvision.Digits

def isDigit (c : Char) : Bool := '0' ≤ c && c ≤ '9'

/-- The number that a list of digits stands for. -/
def value (digits : List Char) : Nat :=
  digits.foldl (fun n c => 10 * n + (c.toNat - '0'.toNat)) 0

/-- Reads one or more digits. -/
def natural? (chars : List Char) : Option Nat :=
  if !chars.isEmpty && chars.all isDigit then some (value chars) else none

/-- Reads one or more digits with at most one plus sign before them. -/
def unsigned? : List Char → Option Nat
  | '+' :: rest => natural? rest
  | chars => natural? chars

/-- Reads one or more digits with at most one sign before them. -/
def signed? : List Char → Option Int
  | '-' :: rest => (natural? rest).map fun n => -(n : Int)
  | chars => (unsigned? chars).map fun n => (n : Int)

/-- The digits of a number, without leading zeros. -/
def ofNat (n : Nat) : List Char := Nat.toDigits 10 n

/-- The digits of a number, filled up with zeros on the left. -/
def padded (width n : Nat) : String := String.ofList ((ofNat n).leftpad width '0')

/-- A list of digits without the zeros at its end. -/
def trimZeros (digits : List Char) : List Char := (digits.reverse.dropWhile (· == '0')).reverse

end UserProvision.Digits
