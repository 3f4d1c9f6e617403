/-!
# Exact decimals

A count of units of `10⁻ᵖ` is written exactly: the whole part, then, where anything is left, a
point and the fraction without the zeros at its end. There is never an exponent.
-/

namespace SmtScript.Decimal

/-- The digits of a number, in exactly `places` places. -/
def padded (places n : Nat) : List Char :=
  let digits := Nat.toDigits 10 n
  List.replicate (places - digits.length) '0' ++ digits

/-- Drops the zeros at the end. -/
def dropZeros (digits : List Char) : List Char :=
  (digits.reverse.dropWhile (· == '0')).reverse

/-- The decimal `n / 10 ^ places`. -/
def text (places n : Nat) : List Char :=
  let whole := Nat.toDigits 10 (n / Nat.pow 10 places)
  let rest := n % Nat.pow 10 places
  if rest = 0 then whole else whole ++ '.' :: dropZeros (padded places rest)

/-- A numeral with its sign. -/
def signed (n : Int) : List Char :=
  match n with
  | .ofNat m => Nat.toDigits 10 m
  | .negSucc m => '-' :: Nat.toDigits 10 (m + 1)

end SmtScript.Decimal
