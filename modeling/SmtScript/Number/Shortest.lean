/-!
# The shortest number of a range

Numbers that end in many zeros are short. Of a range around a value this picks a multiple
of the highest power of ten that has one there, and of the two next to the value the
nearer. Two equally near ones give the upper.
-/

namespace SmtScript.Decimal

/-- The numbers from `low` to `high`, with both ends or with none. -/
structure Range where
  low : Nat
  high : Nat
  closed : Bool
deriving DecidableEq

namespace Range

def contains (r : Range) (n : Nat) : Bool :=
  if r.closed then r.low ≤ n && n ≤ r.high else r.low < n && n < r.high

/-- Of the multiples of `step` next to the value, the nearer that is in the range. -/
def multiple? (r : Range) (value step : Nat) : Option Nat :=
  let down := value / step * step
  let up := down + step
  if r.contains down then
    if r.contains up && down + up ≤ 2 * value then some up else some down
  else if r.contains up then some up
  else none

/-- Tries the powers of ten from `10 ^ zeros` down. The value itself is the last resort. -/
def shortestFrom (r : Range) (value : Nat) : Nat → Nat
  | 0 => value
  | zeros + 1 =>
      match r.multiple? value (Nat.pow 10 (zeros + 1)) with
      | some n => n
      | none => r.shortestFrom value zeros

/-- No power of ten with more digits than the high end has a multiple in the range but 0. -/
def shortest (r : Range) (value : Nat) : Nat :=
  r.shortestFrom value (Nat.toDigits 10 r.high).length

end Range

end SmtScript.Decimal
