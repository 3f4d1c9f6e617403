import SmtScript.Number.Decimal

/-!
# Durations

A duration is a count of nanoseconds. Its seconds fit into 64 bits. It is written exactly, in the
greatest of the units s, ms, µs and ns of which it has at least one.
-/

namespace SmtScript

/-- The nanoseconds of a second. -/
def Duration.perSecond : Nat := 1000000000

/-- One more than the greatest number of 64 bits. -/
def Duration.secondsLimit : Nat := 18446744073709551616

structure Duration where
  nanoseconds : Nat
  lt_limit : nanoseconds < Duration.secondsLimit * Duration.perSecond
deriving DecidableEq

namespace Duration

/-- Nanoseconds past a second are carried over, unless that is too much. -/
def ofParts? (seconds nanos : Nat) : Option Duration :=
  if h : seconds * perSecond + nanos < secondsLimit * perSecond then
    some ⟨seconds * perSecond + nanos, h⟩
  else none

def seconds (d : Duration) : Nat :=
  d.nanoseconds / perSecond

/-- The nanoseconds past the last full second. -/
def subsecond (d : Duration) : Nat :=
  d.nanoseconds % perSecond

inductive Unit where
  | second
  | millisecond
  | microsecond
  | nanosecond
deriving DecidableEq

namespace Unit

/-- One of the unit is `10 ^ places` nanoseconds. -/
def places : Unit → Nat
  | .second => 9
  | .millisecond => 6
  | .microsecond => 3
  | .nanosecond => 0

def symbol : Unit → List Char
  | .second => ['s']
  | .millisecond => ['m', 's']
  | .microsecond => ['µ', 's']
  | .nanosecond => ['n', 's']

end Unit

def unit (d : Duration) : Unit :=
  if 1000000000 ≤ d.nanoseconds then .second
  else if 1000000 ≤ d.nanoseconds then .millisecond
  else if 1000 ≤ d.nanoseconds then .microsecond
  else .nanosecond

def text (d : Duration) : List Char :=
  Decimal.text d.unit.places d.nanoseconds ++ d.unit.symbol

end Duration

end SmtScript
