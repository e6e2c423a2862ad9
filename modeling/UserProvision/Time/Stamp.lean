import UserProvision.Time.Calendar
import UserProvision.Text.Digits

/-!
# Time stamps

Milliseconds since the start of 1970 (UTC), written as `2024-06-11T00:00:00.123Z`. The fraction has
at most three digits, none of them a zero at its end, and is left out when it is zero. Stamps are
read in a wider form: with any number of places, and with a distance to UTC.
-/

namespace UserProvision.Stamp

/-- The number of milliseconds in a day. -/
def dayLength : Int := 86400000

/-- The first millisecond after the year 9999. -/
def end9999 : Int := 253402300800000

/-- The time of day of a number of milliseconds below `dayLength`, as hour, minute and second. -/
def clock (millis : Nat) : Nat × Nat × Nat :=
  (millis / 3600000, millis / 60000 % 60, millis / 1000 % 60)

/-- The fraction of a second, with its point, from a number of milliseconds. -/
def fraction (millis : Nat) : String :=
  if millis % 1000 = 0 then ""
  else "." ++ String.ofList (Digits.trimZeros (Digits.padded 3 (millis % 1000)).toList)

/-- The text of a stamp between 1970 and 9999. -/
def text (millis : Int) : String :=
  let date := CivilDate.ofDays (millis.fdiv dayLength)
  let rest := (millis.fmod dayLength).toNat
  let (hour, minute, second) := clock rest
  Digits.padded 4 date.year.toNat ++ "-" ++ Digits.padded 2 date.month ++ "-" ++
    Digits.padded 2 date.day ++ "T" ++ Digits.padded 2 hour ++ ":" ++ Digits.padded 2 minute ++
    ":" ++ Digits.padded 2 second ++ fraction rest ++ "Z"

/-- Splits exactly `count` digits off the front. -/
def digits? (count : Nat) (chars : List Char) : Option (Nat × List Char) :=
  if (chars.take count).length = count ∧ (chars.take count).all Digits.isDigit then
    some (Digits.value (chars.take count), chars.drop count)
  else none

/-- Drops a character from the front. -/
def mark? (mark : Char) : List Char → Option (List Char)
  | c :: rest => if c = mark then some rest else none
  | [] => none

/-- Reads the distance to UTC at the end of a stamp, in minutes. -/
def offset? (chars : List Char) : Option Int := do
  match chars with
  | ['Z'] | ['z'] => some 0
  | sign :: rest =>
    let negative ← if sign = '+' then some false else if sign = '-' then some true else none
    let (hours, rest) ← digits? 2 rest
    let rest ← mark? ':' rest
    let (minutes, rest) ← digits? 2 rest
    if rest.isEmpty ∧ hours ≤ 23 ∧ minutes ≤ 59 then
      let distance : Int := (60 * hours + minutes : Nat)
      some (if negative then -distance else distance)
    else none
  | [] => none

/-- Reads the fraction of a second in nanoseconds. Digits beyond the ninth are dropped. -/
def nanos? : List Char → Option (Nat × List Char)
  | '.' :: rest =>
    let digits := rest.takeWhile Digits.isDigit
    if digits.isEmpty then none
    else
      some (Digits.value ((digits ++ List.replicate 9 '0').take 9), rest.dropWhile Digits.isDigit)
  | rest => some (0, rest)

/-- Whether a second, counted from 1970, is the last one of a month. -/
def endsMonth (seconds : Int) : Bool :=
  let date := CivilDate.ofDays (seconds.fdiv 86400)
  seconds.fmod 86400 == 86399 && date.day == CivilDate.daysInMonth date.year date.month

/-- Reads a stamp. One ASCII character of any kind stands between day and time. A second numbered 60
may end a month (UTC) and counts as the last nanosecond of the one before it. What is beyond
milliseconds is cut off toward 1970. -/
def ofText? (text : String) : Option Int := do
  let (year, rest) ← digits? 4 text.toList
  let rest ← mark? '-' rest
  let (month, rest) ← digits? 2 rest
  let rest ← mark? '-' rest
  let (day, rest) ← digits? 2 rest
  let rest ← match rest with
    | c :: rest => if c.toNat < 128 then some rest else none
    | [] => none
  let (hour, rest) ← digits? 2 rest
  let rest ← mark? ':' rest
  let (minute, rest) ← digits? 2 rest
  let rest ← mark? ':' rest
  let (second, rest) ← digits? 2 rest
  let (nanos, rest) ← nanos? rest
  let offset ← offset? rest
  let date : CivilDate := ⟨year, month, day⟩
  if date.isValid ∧ hour ≤ 23 ∧ minute ≤ 59 ∧ second ≤ 60 then
    let leap := second == 60
    let time := (hour * 60 + minute) * 60 + min second 59
    let seconds := date.toDays * 86400 + time - offset * 60
    let nanos := if leap then 999999999 else nanos
    if leap && !endsMonth seconds then none
    else some ((seconds * 10 ^ 9 + nanos).tdiv (10 ^ 6))
  else none

end UserProvision.Stamp
