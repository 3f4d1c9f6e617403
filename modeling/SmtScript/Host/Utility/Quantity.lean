import SmtScript.Host.Shell.Integer

/-!
# Quantities in text

A quantity is a number with a fraction and an exponent, in decimal or, after `0x`, in hexadecimal.
It is read exactly. Where it is written, it is first rounded to a binary number with 53 digits,
as those who calculate with such numbers have it.
-/

namespace SmtScript.Host.Utility

/-- What kind of size a quantity has. -/
inductive SizeKind where
  | finite
  | infinite
  | undefined
  deriving DecidableEq

/-- The size of a quantity is a quotient, if it is finite. -/
structure Quantity where
  negative : Bool
  kind : SizeKind
  top : Nat
  bottom : Nat

namespace Quantity

def infinite (q : Quantity) : Bool :=
  q.kind = .infinite

def undefined (q : Quantity) : Bool :=
  q.kind = .undefined

open Shell (Integer.digits Integer.isDigitOf Integer.isBlank)

/-- Exponents beyond this make no difference. -/
def exponentLimit : Int := 20000

/-- The exponent after a mark, if one is there, and what follows. -/
def exponent (marks : Raw) (cs : Raw) : Int × Raw :=
  let number (negative : Bool) (digits rest : Raw) : Int × Raw :=
    if rest.head?.any Char.isDigit then
      let (n, rest) := Integer.digits 10 rest
      (if negative then max (-exponentLimit) (-n) else min exponentLimit n, rest)
    else (0, digits)
  match cs with
  | c :: '-' :: rest => if marks.contains c then number true cs rest else (0, cs)
  | c :: '+' :: rest => if marks.contains c then number false cs rest else (0, cs)
  | c :: rest => if marks.contains c then number false cs rest else (0, cs)
  | [] => (0, [])

/-- Digits with a point among them, and an exponent. -/
def unsigned? (base step : Nat) (marks : Raw) (cs : Raw) : Option (Quantity × Raw) :=
  let whole := cs.takeWhile (Integer.isDigitOf base)
  let after := cs.drop whole.length
  let (fraction, rest) := match after with
    | '.' :: more =>
        let fraction := more.takeWhile (Integer.isDigitOf base)
        (fraction, more.drop fraction.length)
    | _ => ([], after)
  if whole.isEmpty && fraction.isEmpty then none
  else
    let (n, _) := Integer.digits base (whole ++ fraction)
    let (e, rest) := exponent marks rest
    let scale := Nat.pow base fraction.length
    if 0 ≤ e then some (⟨false, .finite, n * Nat.pow step e.toNat, scale⟩, rest)
    else some (⟨false, .finite, n, scale * Nat.pow step (-e).toNat⟩, rest)

def isWord (word : String) (cs : Raw) : Bool :=
  (cs.take word.length).map Char.toLower == word.toList

/-- What follows a tag in brackets. Without a whole tag, everything does. -/
def afterTag (cs : Raw) : Raw :=
  match cs with
  | '(' :: rest =>
      let tag := rest.takeWhile fun c => c.isAlphanum || c == '_'
      if rest[tag.length]? == some ')' then rest.drop (tag.length + 1) else cs
  | _ => cs

/-- The quantity at the front, after blanks and a sign, and what follows it. -/
def front? (cs : Raw) : Option (Quantity × Raw) :=
  let size? (cs : Raw) : Option (Quantity × Raw) :=
    if isWord "infinity" cs then some (⟨false, .infinite, 1, 1⟩, cs.drop 8)
    else if isWord "inf" cs then some (⟨false, .infinite, 1, 1⟩, cs.drop 3)
    else if isWord "nan" cs then some (⟨false, .undefined, 1, 1⟩, afterTag (cs.drop 3))
    else
      let hexadecimal := match cs with
        | '0' :: x :: rest => if x.toLower == 'x' then unsigned? 16 2 ['p', 'P'] rest else none
        | _ => none
      hexadecimal.orElse fun _ => unsigned? 10 10 ['e', 'E'] cs
  match cs.dropWhile Integer.isBlank with
  | '-' :: rest => (size? rest).map fun (q, rest) => ({ q with negative := true }, rest)
  | '+' :: rest => size? rest
  | rest => size? rest

/-! ## Writing -/

/-- The whole number nearest to a quotient. Of two, the even one. -/
def nearest (top bottom : Nat) : Nat :=
  let n := top / bottom
  let twice := 2 * (top % bottom)
  if bottom < twice || twice == bottom && n % 2 == 1 then n + 1 else n

/-- The exponent and the digits of the nearest binary number with so many digits, where no
exponent is less than the least. -/
def binary (count : Nat) (least : Int) (q : Quantity) : Int × Nat :=
  let guess := Int.ofNat q.top.log2 - Int.ofNat q.bottom.log2 - count
  let scaled (e : Int) : Nat :=
    if 0 ≤ e then nearest q.top (q.bottom * Nat.pow 2 e.toNat)
    else nearest (q.top * Nat.pow 2 (-e).toNat) q.bottom
  let e := max least (if scaled guess < Nat.pow 2 count then guess else guess + 1)
  (e, scaled e)

/-- How the digits of a size are kept: how many binary digits there are, the least exponent, and
how many of them stand before the point. -/
structure Precision where
  count : Nat
  least : Int
  front : Nat

/-- One binary digit stands before the point. -/
def Precision.double : Precision :=
  ⟨53, -1074, 1⟩

/-- Four binary digits stand before the point. -/
def Precision.extended : Precision :=
  ⟨64, -16445, 4⟩

/-- All finite sizes are less than this. -/
def Precision.limit (p : Precision) : Nat :=
  Nat.pow 2 ((-p.least).toNat + 3 - p.count)

/-- The nearest binary number with the digits that are kept. -/
def rounded (p : Precision) (q : Quantity) : Quantity :=
  if q.top = 0 || q.kind ≠ .finite then q
  else
    let (e, n) := q.binary p.count p.least
    if 0 ≤ e then
      let size := n * Nat.pow 2 e.toNat
      if p.limit ≤ size then { q with kind := .infinite } else { q with top := size, bottom := 1 }
    else { q with top := n, bottom := Nat.pow 2 (-e).toNat }

/-- Whether rounding makes a finite size infinite, or loses digits of a size that is too small. -/
def isOutOfRange (p : Precision) (q : Quantity) : Bool :=
  let near := q.rounded p
  let isSmall := near.top * Nat.pow 2 ((-p.least).toNat + 1 - p.count) < near.bottom
  q.kind = .finite && q.top ≠ 0
    && (near.infinite || isSmall && near.top * q.bottom ≠ q.top * near.bottom)

/-- Digits with a point before the last ones. -/
def pointed (places : Nat) (keepsPoint : Bool) (n : Nat) : Raw :=
  let digits := Nat.toDigits 10 n
  let digits := List.replicate (places + 1 - digits.length) '0' ++ digits
  let whole := digits.take (digits.length - places)
  whole ++ (if 0 < places || keepsPoint then ['.'] else []) ++ digits.drop whole.length

/-- The size with so many places after the point. -/
def positional (places : Nat) (keepsPoint : Bool) (q : Quantity) : Raw :=
  pointed places keepsPoint (nearest (q.top * Nat.pow 10 places) q.bottom)

/-- The exponent of the first digit, and so many digits after rounding. -/
def leading (count : Nat) (q : Quantity) : Int × Nat :=
  if q.top = 0 then (0, 0)
  else
    let scaled (e : Int) : Nat :=
      let shift := Int.ofNat (count - 1) - e
      if 0 ≤ shift then nearest (q.top * Nat.pow 10 shift.toNat) q.bottom
      else nearest q.top (q.bottom * Nat.pow 10 (-shift).toNat)
    let guess := Int.ofNat (Nat.toDigits 10 q.top).length
      - Int.ofNat (Nat.toDigits 10 q.bottom).length
    let e := if q.top * Nat.pow 10 (-guess).toNat < q.bottom * Nat.pow 10 guess.toNat then guess - 1
      else guess
    if scaled e < Nat.pow 10 count then (e, scaled e) else (e + 1, scaled (e + 1))

/-- The size with one digit before the point, and an exponent. -/
def scientific (places : Nat) (keepsPoint : Bool) (q : Quantity) : Raw :=
  let (e, n) := leading (places + 1) q
  let digits := Nat.toDigits 10 e.natAbs
  pointed places keepsPoint n ++ ['e', if e < 0 then '-' else '+']
    ++ List.replicate (2 - digits.length) '0' ++ digits

/-- The size in base 16, with an exponent of two. Without a number of places, all digits up to the
last that is not zero. -/
def hexadecimal (p : Precision) (places? : Option Nat) (keepsPoint : Bool) (q : Quantity) : Raw :=
  let (e, n) := if q.top = 0 then (0, 0) else q.binary p.count p.least
  let all := (p.count - p.front) / 4
  let digits := (Nat.toDigits 16 (n % Nat.pow 16 all))
  let fraction := List.replicate (all - digits.length) '0' ++ digits
  let shown := (fraction.reverse.dropWhile (· == '0')).length
  let places := places?.getD shown
  let kept := nearest n (Nat.pow 16 (all - places))
  let whole := kept / Nat.pow 16 (min places all)
  let digits := Nat.toDigits 16 (kept % Nat.pow 16 (min places all))
  let fraction := if places = 0 then []
    else List.replicate (min places all - digits.length) '0' ++ digits
      ++ List.replicate (places - all) '0'
  let exponent := if q.top = 0 then 0 else e + 4 * all
  Nat.toDigits 16 whole ++ (if 0 < places || keepsPoint then ['.'] else []) ++ fraction
    ++ ['p', if exponent < 0 then '-' else '+'] ++ Nat.toDigits 10 exponent.natAbs

/-- Drops zeros at the end of a fraction. -/
def withoutZeros (digits : Raw) : Raw :=
  if digits.contains '.' then
    let short := digits.reverse.dropWhile (· == '0')
    (if short.head? == some '.' then short.drop 1 else short).reverse
  else digits

/-- The size with so many digits, with an exponent where it would have too many places. -/
def general (count : Nat) (keepsZeros : Bool) (q : Quantity) : Raw :=
  let count := max 1 count
  let (e, _) := leading count q
  if -4 ≤ e && e < count then
    let text := positional (Int.ofNat count - 1 - e).toNat keepsZeros q
    if keepsZeros then text else withoutZeros text
  else
    let text := scientific (count - 1) keepsZeros q
    let mantissa := text.takeWhile (· ≠ 'e')
    if keepsZeros then text else withoutZeros mantissa ++ text.drop mantissa.length

end Quantity

end SmtScript.Host.Utility
