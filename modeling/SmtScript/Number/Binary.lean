import SmtScript.Number.Decimal
import SmtScript.Number.Shortest

/-!
# Binary floating-point numbers

A format has a sign bit, exponent bits and fraction bits. Every finite value is a whole
number of units `2⁻ᵖ` for one `p` of the format, and so a whole number of units `10⁻ᵖ` as
well, since `2⁻ᵖ = 5ᵖ · 10⁻ᵖ`. Hence the numbers that round to a value are found in exact
arithmetic: they reach half way to the neighbours, ends included when the significand
is even. A value is written as the shortest of them.
-/

namespace SmtScript.Binary

structure Format where
  fractionBits : Nat
  exponentBits : Nat
deriving DecidableEq

namespace Format

def binary32 : Format :=
  ⟨23, 8⟩

def binary64 : Format :=
  ⟨52, 11⟩

/-- The least positive value is `2 ^ -places`. -/
def places (f : Format) : Nat :=
  Nat.pow 2 (f.exponentBits - 1) - 2 + f.fractionBits

end Format

/-- What the bits of a number stand for. -/
inductive Datum where
  | nan
  | infinite (negative : Bool)
  /-- The value `significand * 2 ^ shift` in units of the least positive value. -/
  | finite (negative : Bool) (significand shift : Nat)
deriving DecidableEq

namespace Format

def decode (f : Format) (bits : Nat) : Datum :=
  let fraction := bits % Nat.pow 2 f.fractionBits
  let exponent := bits / Nat.pow 2 f.fractionBits % Nat.pow 2 f.exponentBits
  let negative := bits / Nat.pow 2 (f.fractionBits + f.exponentBits) % 2 == 1
  if exponent = Nat.pow 2 f.exponentBits - 1 then
    if fraction = 0 then .infinite negative else .nan
  else if exponent = 0 then .finite negative fraction 0
  else .finite negative (Nat.pow 2 f.fractionBits + fraction) (exponent - 1)

/-! ## The shortest decimal

All lengths below are in units of `10 ^ -(places + 2)`; the two places more make room for the
quarters at which a range may end. -/

/-- The distance to the next greater value. -/
def gap (f : Format) (shift : Nat) : Nat :=
  100 * (Nat.pow 2 shift * Nat.pow 5 f.places)

def scaled (f : Format) (significand shift : Nat) : Nat :=
  significand * f.gap shift

/-- Values are half as far apart below the least significand of full length. -/
def gapBelow (f : Format) (significand shift : Nat) : Nat :=
  if significand = Nat.pow 2 f.fractionBits ∧ 0 < shift then f.gap shift / 2 else f.gap shift

/-- The numbers that are rounded to the value. -/
def rounding (f : Format) (significand shift : Nat) : Decimal.Range where
  low := f.scaled significand shift - f.gapBelow significand shift / 2
  high := f.scaled significand shift + f.gap shift / 2
  closed := significand % 2 == 0

def magnitude (f : Format) (significand shift : Nat) : List Char :=
  if significand = 0 then ['0']
  else
    Decimal.text (f.places + 2)
      ((f.rounding significand shift).shortest (f.scaled significand shift))

/-- The text of a number. A number that is none has no sign. -/
def text (f : Format) (bits : Nat) : List Char :=
  match f.decode bits with
  | .nan => "NaN".toList
  | .infinite negative => (if negative then ['-'] else []) ++ "inf".toList
  | .finite negative significand shift =>
      (if negative then ['-'] else []) ++ f.magnitude significand shift

end Format

end SmtScript.Binary
