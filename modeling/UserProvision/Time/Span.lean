import UserProvision.Text.Digits

/-!
# Spans of time

A span is a number of seconds and nanoseconds below a second.
-/

namespace UserProvision

/-- A span of time. -/
structure Span where
  seconds : UInt64
  nanos : Nat
  nanos_lt : nanos < 10 ^ 9
  deriving DecidableEq, Repr

namespace Span

/-- The span of some seconds and any number of nanoseconds; whole seconds among these are
carried. -/
def ofParts (seconds nanos : Nat) : Span :=
  ⟨UInt64.ofNat (seconds + nanos / 10 ^ 9), nanos % 10 ^ 9, Nat.mod_lt _ (by decide)⟩

/-- The whole span in nanoseconds. -/
def totalNanos (s : Span) : Nat := s.seconds.toNat * 10 ^ 9 + s.nanos

/-- The number of whole milliseconds. -/
def wholeMillis (s : Span) : Nat := s.totalNanos / 10 ^ 6

/-- A number of units and the thousandths, millionths, … of a unit below it. -/
def decimal (whole part places : Nat) : String :=
  let digits := Digits.trimZeros ((Digits.ofNat part).leftpad places '0')
  toString whole ++ if part = 0 then "" else "." ++ String.ofList digits

/-- A span in the largest unit of which it holds at least one. -/
def inspect (s : Span) : String :=
  if 0 < s.seconds then decimal s.seconds.toNat s.nanos 9 ++ "s"
  else if 10 ^ 6 ≤ s.nanos then decimal (s.nanos / 10 ^ 6) (s.nanos % 10 ^ 6) 6 ++ "ms"
  else if 10 ^ 3 ≤ s.nanos then decimal (s.nanos / 10 ^ 3) (s.nanos % 10 ^ 3) 3 ++ "µs"
  else toString s.nanos ++ "ns"

end Span

end UserProvision
