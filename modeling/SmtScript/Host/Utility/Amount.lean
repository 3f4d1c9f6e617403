import SmtScript.Host.Citation
import SmtScript.Host.Shell.Integer

/-!
# Amounts

An amount is a number with a unit behind it, which stands for a block of bytes, or for a power of
1000 or of 1024. A unit alone counts once.
-/

namespace SmtScript.Host.Utility

/-- The greatest amount. -/
def amountLimit : Nat :=
  Nat.pow 2 64 - 1

/-- Why a text is no amount. -/
inductive AmountFault where
  /-- It does not begin with a number. -/
  | invalid
  /-- What follows the number is no unit. -/
  | unit
  | tooGreat
deriving DecidableEq

namespace Amount

/-- The power of a unit, by its letter. -/
def power? (letter : Char) : Option Nat :=
  if letter = 'k' then some 1
  else if letter = 'm' then some 2
  else if letter = 'g' then some 3
  else if letter = 't' then some 4
  else ("KMGTPEZY".toList.idxOf? letter).map (· + 1)

/-- What a unit stands for, if its letter is among some. -/
def unit? (letters : String) (text : Raw) : Option Nat :=
  match text with
  | [] => some 1
  | letter :: rest =>
      if !letters.toList.contains letter then none
      else if letter = 'b' then if rest.isEmpty then some 512 else none
      else
        match power? letter, String.ofList rest with
        | some power, "" | some power, "iB" => some (Nat.pow 1024 power)
        | some power, "B" | some power, "D" => some (Nat.pow 1000 power)
        | _, _ => none

/-- The number at the front of a text, without a sign, and what follows it. With `octal`, zeros at
its front say in which base it is. -/
def front? (octal : Bool) (text : Raw) : Option (Nat × Raw) :=
  if octal then Shell.Integer.unsigned text
  else if text.head?.any Char.isDigit then some (Shell.Integer.digits 10 text)
  else none

/-- Reads an amount, with units whose letters are among some. -/
def read (octal : Bool) (letters : String) (text : Raw) : Except AmountFault Nat :=
  let text := text.dropWhile Shell.Integer.isBlank
  let text := if text.head? = some '+' then text.drop 1 else text
  let isUnit := text.head?.any letters.toList.contains
  match front? octal text, unit? letters text with
  | none, some unit => if isUnit then .ok unit else .error .invalid
  | none, none => .error (if isUnit then .unit else .invalid)
  | some (n, rest), _ =>
      match unit? letters rest with
      | none => .error .unit
      | some unit => if n * unit ≤ amountLimit then .ok (n * unit) else .error .tooGreat

end Amount

/-- What is said of a wrong amount behind an option. -/
def AmountFault.ofOption (fault : AmountFault) (option text : Raw) : Raw :=
  match fault with
  | .invalid => "invalid ".toList ++ option ++ " argument ".toList ++ Citation.escaped text
  | .unit => "invalid suffix in ".toList ++ option ++ " argument ".toList ++ Citation.escaped text
  | .tooGreat => option ++ " argument ".toList ++ Citation.escaped text ++ " too large".toList

/-- What is said of an amount that should be something else. -/
def AmountFault.message (fault : AmountFault) (what : String) (text : Raw) : Raw :=
  let line := ("invalid " ++ what ++ ": ").toList ++ Citation.escaped text
  if fault = .tooGreat then line ++ ": Value too large for defined data type".toList else line

end SmtScript.Host.Utility
