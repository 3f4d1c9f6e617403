import SmtScript.Host.Raw

/-!
# Integers in text

A number is written in decimal, in octal after a zero or in hexadecimal after `0x`, with blanks and
a sign before it. Numbers are words of 64 bits with a sign; one that is too great stands for the
greatest.
-/

namespace SmtScript.Host.Shell.Integer

def greatest : Int := 9223372036854775807

def least : Int := -9223372036854775808

def isBlank (c : Char) : Bool :=
  " \t\n\x0b\x0c\r".toList.contains c

/-- The number as a word of 64 bits. -/
def wrap (n : Int) : Int :=
  n.bmod (Nat.pow 2 64)

def clamp (n : Int) : Int :=
  max least (min greatest n)

def digit? (c : Char) : Option Nat :=
  if c.isDigit then some (c.toNat - '0'.toNat)
  else if c.isAlpha then some (c.toLower.toNat - 'a'.toNat + 10)
  else none

def isDigitOf (base : Nat) (c : Char) : Bool :=
  (digit? c).any (· < base)

/-- The digits at the front as a number, and what follows them. -/
def digits (base : Nat) (cs : Raw) : Nat × Raw :=
  let here := cs.takeWhile (isDigitOf base)
  (here.foldl (fun n c => n * base + (digit? c).getD 0) 0, cs.drop here.length)

/-- The number at the front, without a sign, and what follows it. The form of the number tells
its base. -/
def unsigned (cs : Raw) : Option (Nat × Raw) :=
  match cs with
  | '0' :: 'x' :: rest | '0' :: 'X' :: rest =>
      if rest.head?.any (isDigitOf 16) then some (digits 16 rest) else some (digits 8 cs)
  | '0' :: _ => some (digits 8 cs)
  | c :: _ => if c.isDigit then some (digits 10 cs) else none
  | [] => none

/-- The number at the front, after blanks and a sign, and what follows it. None where there
is none. With `decimal`, a zero in front says nothing. -/
def front? (decimal : Bool) (cs : Raw) : Option (Int × Raw) :=
  let number (cs : Raw) : Option (Nat × Raw) :=
    if decimal then
      if cs.head?.any Char.isDigit then some (digits 10 cs) else none
    else unsigned cs
  match cs.dropWhile isBlank with
  | '-' :: rest => (number rest).map fun (n, rest) => (- Int.ofNat n, rest)
  | '+' :: rest => (number rest).map fun (n, rest) => (Int.ofNat n, rest)
  | rest => (number rest).map fun (n, rest) => (Int.ofNat n, rest)

/-- The number that is all of a text, with blanks after it. None where it is none, or too great. -/
def whole? (decimal : Bool) (cs : Raw) : Option Int :=
  match front? decimal cs with
  | some (n, rest) =>
      if rest.all isBlank && least ≤ n && n ≤ greatest then some n else none
  | none => none

/-- A count of plain digits. -/
def count? (cs : Raw) : Option Nat :=
  if !cs.isEmpty && cs.all Char.isDigit then some (Nat.ofDigitChars 10 cs 0) else none

end SmtScript.Host.Shell.Integer
