import SmtScript.Host.Raw

/-!
# Permissions

The permissions of a file are nine bits: to read, to write and to run, for the owner, for the
group and for others. Three more bits before them say whose rights a program gets and who may remove
what is in a directory. A change of them is a number in octal, or clauses with commas between them
that say who gets or loses what.
-/

namespace SmtScript.Host.Mode

/-- Who the permissions are for, from the left. -/
inductive Class where
  | owner
  | group
  | others
deriving DecidableEq

def Class.all : List Class := [.owner, .group, .others]

def Class.unit : Class → Nat
  | .owner => 64
  | .group => 8
  | .others => 1

/-- The bit among the first three that goes with a class. -/
def Class.special : Class → Nat
  | .owner => 0o4000
  | .group => 0o2000
  | .others => 0o1000

def Class.letter : Class → Char
  | .owner => 'u'
  | .group => 'g'
  | .others => 'o'

/-- The three bits of a class. -/
def bits (mode : Nat) (c : Class) : Nat :=
  mode / c.unit % 8

/-- The permissions with other bits for a class. -/
def withBits (mode : Nat) (c : Class) (value : Nat) : Nat :=
  mode - bits mode c * c.unit + value * c.unit

/-- Those of the first three bits that the second ones do not have. -/
def without (a b : Nat) : Nat :=
  a &&& (7 - b % 8)

/-- The bits of a letter, which may stand for those of a class. None for another letter. -/
def letter? (directory : Bool) (mode : Nat) (l : Char) : Option Nat :=
  match l with
  | 'r' => some 4
  | 'w' => some 2
  | 'x' => some 1
  | 'X' => some (if directory || Class.all.any fun c => bits mode c % 2 = 1 then 1 else 0)
  | 's' | 't' => some 0
  | _ => (Class.all.find? fun c => c.letter == l).map (bits mode)

/-- Is the letter one of the first three bits, as it is given to a class? -/
def isSpecial (l : Char) (c : Class) : Bool :=
  if c = .others then l == 't' else l == 's'

/-- Adds, takes away or sets the first bits of some classes. A directory keeps them unless they are
taken away. -/
def actFirst (directory : Bool) (named : List Class) (sign : Char) (what : Raw) (mode : Nat) : Nat :=
  Class.all.foldl
    (fun mode c =>
      if !named.isEmpty && !named.contains c then mode
      else
        let isGiven := what.any (isSpecial · c)
        let without := mode - (mode &&& c.special)
        if isGiven then if sign == '-' then without else mode ||| c.special
        else if sign == '=' && !(directory && c ≠ .others) then without
        else mode)
    mode

/-- Adds, takes away or sets bits of some classes. Where none are named the bits of a mask do not
change. -/
def act (mask : Nat) (named : List Class) (sign : Char) (value mode : Nat) : Nat :=
  Class.all.foldl
    (fun mode c =>
      if !named.isEmpty && !named.contains c then mode
      else
        let value := if named.isEmpty then without value (bits mask c) else value
        let before := bits mode c
        withBits mode c (if sign == '+' then before ||| value
          else if sign == '-' then without before value else value))
    mode

/-- The changes of a clause after its classes. -/
def actions? (fuel mask : Nat) (directory : Bool) (named : List Class) (mode : Nat) (text : Raw) :
    Option Nat :=
  match fuel, text with
  | _, [] => some mode
  | 0, _ => none
  | fuel + 1, sign :: rest =>
      if !"+-=".toList.contains sign then none
      else
        let what := rest.takeWhile fun l => !"+-=".toList.contains l
        match what.mapM (letter? directory mode) with
        | none => none
        | some values =>
            let value := values.foldl (· ||| ·) 0
            let mode := actFirst directory named sign what (act mask named sign value mode)
            actions? fuel mask directory named mode
              (rest.drop what.length)

/-- The permissions after a clause. -/
def clause? (mask : Nat) (directory : Bool) (mode : Nat) (text : Raw) : Option Nat :=
  let who := text.takeWhile fun l => "ugoa".toList.contains l
  let named := if who.contains 'a' then Class.all
    else Class.all.filter fun c => who.contains c.letter
  match text.drop who.length with
  | [] => none
  | actions => actions? (text.length + 1) mask directory named mode actions

def isOctal (text : Raw) : Bool :=
  !text.isEmpty && text.all fun d => '0' ≤ d && d ≤ '7'

/-- A number in octal. -/
def octal (text : Raw) : Nat :=
  text.foldl (fun n d => 8 * n + (d.toNat - '0'.toNat)) 0

/-- The permissions after a clause that may be a number in octal behind a sign. -/
def clauseOrNumber? (mask : Nat) (directory : Bool) (mode : Nat) (text : Raw) : Option Nat :=
  match text with
  | sign :: digits =>
      if !"+-=".toList.contains sign || !isOctal digits then clause? mask directory mode text
      else if 0o7777 < octal digits then none
      else
        let value := octal digits
        some (if sign = '+' then mode ||| value else if sign = '-' then mode - (mode &&& value)
          else value)
  | [] => none

/-- The permissions after a change. None if it is not understood. -/
def change? (mask : Nat) (directory : Bool) (mode : Nat) (text : Raw) : Option Nat :=
  if isOctal text then
    let kept := if directory && text.length < 5 then mode &&& 0o6000 else 0
    if octal text ≤ 0o7777 then some (octal text ||| kept) else none
  else (Raw.split ',' text).foldlM (clauseOrNumber? mask directory) mode

/-- The letters of three bits. -/
def letters (value : Nat) : Raw :=
  ([(value / 4, 'r'), (value / 2, 'w'), (value, 'x')].filter fun bit => bit.1 % 2 = 1).map Prod.snd

/-- The nine letters, or dashes, of permissions. The first bits change those for running. -/
def text (mode : Nat) : Raw :=
  Class.all.flatMap fun c =>
    let value := bits mode c
    let special := mode &&& c.special ≠ 0
    let runs := value % 2 = 1
    let mark := if c = .others then 't' else 's'
    [if value / 4 % 2 = 1 then 'r' else '-', if value / 2 % 2 = 1 then 'w' else '-',
      if special then (if runs then mark else mark.toUpper) else if runs then 'x' else '-']

/-- Four octal digits. -/
def digits (mode : Nat) : Raw :=
  let digits := Nat.toDigits 8 mode
  List.replicate (4 - digits.length) '0' ++ digits

/-- The permissions without those of a mask. -/
def masked (mask mode : Nat) : Nat :=
  Class.all.foldl (fun mode c => withBits mode c (without (bits mode c) (bits mask c))) mode

end SmtScript.Host.Mode
