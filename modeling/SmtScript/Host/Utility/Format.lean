import SmtScript.Host.Utility.Effect
import SmtScript.Host.Utility.Quantity

/-!
# Formats and escapes

`echo` writes its arguments, and `printf` puts them into a format. An escape is a backslash with
a letter or with octal digits. A directive is a percent sign with flags, a width, a precision and
a letter.
-/

namespace SmtScript.Host.Utility

open Shell (Integer.front? Integer.least Integer.greatest Integer.isDigitOf Integer.digits)

/-! ## Escapes -/

def isOctal (c : Char) : Bool :=
  '0' ≤ c && c ≤ '7'

/-- Up to three octal digits as a byte, and what follows. -/
def octal (cs : Raw) : Char × Raw :=
  let digits := (cs.take 3).takeWhile isOctal
  (Char.ofNat (Nat.ofDigitChars 8 digits 0 % 256), cs.drop digits.length)

def letterEscape? (c : Char) : Option Char :=
  match c with
  | 'a' => some '\x07'
  | 'b' => some '\x08'
  | 'e' => some '\x1b'
  | 'f' => some '\x0c'
  | 'n' => some '\n'
  | 'r' => some '\r'
  | 't' => some '\t'
  | 'v' => some '\x0b'
  | '\\' => some '\\'
  | _ => none

/-- What stands for the text after a backslash, and what follows. -/
def escape (cs : Raw) : Char × Raw :=
  match cs with
  | c :: rest =>
      if isOctal c then octal cs
      else
        match letterEscape? c with
        | some e => (e, rest)
        | none => ('\\', cs)
  | [] => ('\\', [])

/-- Up to two digits of base 16 as a byte, and what follows. None if there is no digit. -/
def hexadecimal? (cs : Raw) : Option (Char × Raw) :=
  let digits := (cs.take 2).takeWhile (Integer.isDigitOf 16)
  let value := (Integer.digits 16 digits).1
  if digits.isEmpty then none else some (Char.ofNat value, cs.drop digits.length)

/-- An argument with its escapes. Says whether all output ends here. With `wide`, digits of base 16
may follow an `x`. -/
def unescape (wide : Bool) (fuel : Nat) (cs : Raw) : Raw × Bool :=
  match fuel, cs with
  | 0, _ | _, [] => ([], false)
  | _ + 1, '\\' :: 'c' :: _ => ([], true)
  | fuel + 1, '\\' :: rest =>
      let (c, rest) := match rest with
        | '0' :: d :: more => escape (if isOctal d then d :: more else rest)
        | 'x' :: more => if wide then (hexadecimal? more).getD (escape rest) else escape rest
        | _ => escape rest
      let (text, stop) := unescape wide fuel rest
      (c :: text, stop)
  | fuel + 1, c :: rest =>
      let (text, stop) := unescape wide fuel rest
      (c :: text, stop)

/-! ## Directives -/

structure Directive where
  flags : Raw
  width : Nat
  precision? : Option Nat

namespace Directive

def left (d : Directive) : Bool :=
  d.flags.contains '-'

/-- Puts a sign and digits, or a text without a sign, into the width. -/
def fill (d : Directive) (zeros : Bool) (sign digits : Raw) : Raw :=
  if zeros && !d.left then
    sign ++ List.replicate (d.width - sign.length - digits.length) '0' ++ digits
  else pad d.left d.width (sign ++ digits)

def sign (d : Directive) (negative : Bool) : Raw :=
  if negative then ['-']
  else if d.flags.contains '+' then ['+']
  else if d.flags.contains ' ' then [' ']
  else []

def text (d : Directive) (text : Raw) : Raw :=
  pad d.left d.width (match d.precision? with
    | some n => text.take n
    | none => text)

/-- The digits of a number, at least as many as the precision asks for. -/
def digits (d : Directive) (base n : Nat) : Raw :=
  let digits := if n = 0 && d.precision? == some 0 then [] else Nat.toDigits base n
  List.replicate (d.precision?.getD 0 - digits.length) '0' ++ digits

def zeros (d : Directive) : Bool :=
  d.flags.contains '0' && d.precision?.isNone

def signed (d : Directive) (n : Int) : Raw :=
  d.fill d.zeros (d.sign (n < 0)) (d.digits 10 n.natAbs)

def unsigned (d : Directive) (letter : Char) (n : Nat) : Raw :=
  match letter with
  | 'o' =>
      let digits := d.digits 8 n
      let marked := d.flags.contains '#' && digits.head? ≠ some '0'
      d.fill d.zeros [] (if marked then '0' :: digits else digits)
  | 'x' => d.fill d.zeros (if d.flags.contains '#' && n ≠ 0 then ['0', 'x'] else []) (d.digits 16 n)
  | 'X' =>
      d.fill d.zeros (if d.flags.contains '#' && n ≠ 0 then ['0', 'X'] else [])
        ((d.digits 16 n).map Char.toUpper)
  | _ => d.fill d.zeros [] (d.digits 10 n)

def quantity (d : Directive) (p : Quantity.Precision) (letter : Char) (q : Quantity) : Raw :=
  let places := d.precision?.getD 6
  let keeps := d.flags.contains '#'
  let near := q.rounded p
  let mark := if letter.toLower == 'a' && near.kind = .finite then ['0', 'x'] else []
  let size := match near.kind with
    | .infinite => "inf".toList
    | .undefined => "nan".toList
    | .finite =>
        match letter.toLower with
        | 'a' => near.hexadecimal p d.precision? keeps
        | 'e' => near.scientific places keeps
        | 'g' => near.general places keeps
        | _ => near.positional places keeps
  let upper (text : Raw) : Raw := if letter.isUpper then text.map Char.toUpper else text
  d.fill (d.flags.contains '0' && near.kind = .finite) (d.sign q.negative ++ upper mark)
    (upper size)

end Directive

/-! ## Formats -/

/-- What was written, the last first, what is left of the arguments, and what went wrong. -/
structure Formatting where
  written : Raw
  args : List Raw
  warnings : List Raw
  failure? : Option Raw
  stopped : Bool

namespace Formatting

def write (f : Formatting) (text : Raw) : Formatting :=
  { f with written := text.reverse ++ f.written }

def takeArgument (f : Formatting) : Raw × Formatting :=
  (f.args.headD [], { f with args := f.args.drop 1 })

def warn (f : Formatting) (arg : Raw) (message : String) : Formatting :=
  { f with warnings := f.warnings ++ [arg ++ ": ".toList ++ message.toList] }

/-- What is wrong with an argument that is a number with something after it. -/
def warnRest (f : Formatting) (arg rest : Raw) (tooGreat : Bool) : Formatting :=
  if !rest.isEmpty then
    f.warn arg (if rest = arg then "expected numeric value" else "not completely converted")
  else if tooGreat then f.warn arg "Numerical result out of range"
  else f

/-- An argument as a whole number. With a quotation mark in front it is a character. -/
def takeInteger (f : Formatting) (least greatest : Int) : Int × Formatting :=
  let (arg, f) := f.takeArgument
  match arg with
  | '\x27' :: rest | '"' :: rest => (((rest.head?.map Char.toNat).getD 0 : Nat), f)
  | _ =>
      match Integer.front? false arg with
      | none => (0, f.warnRest arg arg false)
      | some (n, rest) =>
          let kept := max least (min greatest n)
          (kept, f.warnRest arg rest (kept ≠ n))

def takeQuantity (f : Formatting) : Quantity × Formatting :=
  let (arg, f) := f.takeArgument
  match arg with
  | '\x27' :: rest | '"' :: rest => (⟨false, .finite, (rest.head?.map Char.toNat).getD 0, 1⟩, f)
  | _ =>
      match Quantity.front? arg with
      | none => (⟨false, .finite, 0, 1⟩, f.warnRest arg arg false)
      | some (q, rest) => (q, f.warnRest arg rest (q.isOutOfRange .double))

/-- A width or a precision: digits, or a star for an argument, of which 32 bits count. -/
def takeSize (f : Formatting) (cs : Raw) : Int × Raw × Formatting :=
  match cs with
  | '*' :: rest =>
      let (n, f) := f.takeInteger Integer.least Integer.greatest
      (n.bmod (Nat.pow 2 32), rest, f)
  | _ =>
      let digits := cs.takeWhile Char.isDigit
      (Nat.ofDigitChars 10 digits 0, cs.drop digits.length, f)

/-- The directive after a percent sign, and what follows it. -/
def takeDirective (f : Formatting) (cs : Raw) : Directive × Raw × Formatting :=
  let flags := cs.takeWhile fun c => "#-+ 0".toList.contains c
  let (width, rest, f) := f.takeSize (cs.drop flags.length)
  let flags := if width < 0 then '-' :: flags else flags
  match rest with
  | '.' :: rest =>
      let (precision, rest, f) := f.takeSize rest
      (⟨flags, width.natAbs, if precision < 0 then none else some precision.toNat⟩, rest, f)
  | _ => (⟨flags, width.natAbs, none⟩, rest, f)

/-- Writes an argument as the letter of a directive says. None if no directive has the letter. -/
def convert? (f : Formatting) (d : Directive) (letter : Char) : Option Formatting :=
  match letter with
  | 's' =>
      let (arg, f) := f.takeArgument
      some (f.write (d.text arg))
  | 'c' =>
      let (arg, f) := f.takeArgument
      some (f.write (pad d.left d.width [arg.headD '\x00']))
  | 'b' =>
      let (arg, f) := f.takeArgument
      let (text, stop) := unescape false (arg.length + 1) arg
      some { f.write (d.text text) with stopped := stop }
  | 'd' | 'i' =>
      let (n, f) := f.takeInteger Integer.least Integer.greatest
      some (f.write (d.signed n))
  | 'o' | 'u' | 'x' | 'X' =>
      let (n, f) := f.takeInteger (-(Nat.pow 2 64 - 1)) (Nat.pow 2 64 - 1)
      some (f.write (d.unsigned letter (n % Nat.pow 2 64).toNat))
  | 'a' | 'A' | 'e' | 'E' | 'f' | 'F' | 'g' | 'G' =>
      let (q, f) := f.takeQuantity
      some (f.write (d.quantity .double letter q))
  | _ => none

/-- One use of a format. -/
def run (fuel : Nat) (f : Formatting) (cs : Raw) : Formatting :=
  match fuel, cs with
  | 0, _ | _, [] => f
  | fuel + 1, '\\' :: rest =>
      let (c, rest) := escape rest
      run fuel (f.write [c]) rest
  | fuel + 1, '%' :: '%' :: rest => run fuel (f.write ['%']) rest
  | fuel + 1, '%' :: rest =>
      let (d, after, f) := f.takeDirective rest
      match after with
      | [] => { f with failure? := some "missing format character".toList }
      | letter :: after =>
          match f.convert? d letter with
          | some f => if f.stopped then f else run fuel f after
          | none =>
              let shown := '%' :: rest.take (rest.length - after.length)
              { f with failure? := some (shown ++ ": invalid directive".toList) }
  | fuel + 1, c :: rest => run fuel (f.write [c]) rest

/-- Uses the format again as long as there are arguments left. -/
def runAll (fuel : Nat) (f : Formatting) (cs : Raw) : Formatting :=
  match fuel with
  | 0 => f
  | fuel + 1 =>
      let next := f.run (cs.length + 1) cs
      if next.stopped || next.failure?.isSome || next.args.isEmpty
          || next.args.length = f.args.length then next
      else next.runAll fuel cs

end Formatting

/-- Puts the arguments into a format. -/
def printf (c : Call) : Effect :=
  let withFormat : List Raw → Effect
    | [] => .failing c 2 "usage: printf format [arg ...]".toList
    | cs :: args =>
        let f := Formatting.runAll (args.length + 1) ⟨[], args, [], none, false⟩ cs
        let e := f.warnings.foldl (fun e w => e.complain c 1 w) (Effect.quiet c 0)
        let e := match f.failure? with
          | some message => e.complain c 2 message
          | none => e
        e.say f.written.reverse
  match c.args with
  | ['-', '-'] :: rest => withFormat rest
  | ('-' :: l :: _) :: _ => .failing c 2 ("Illegal option -".toList ++ [l])
  | args => withFormat args

/-- The arguments, and a line feed unless it was refused. -/
def words : List Raw → Raw × Raw
  | ['-', 'n'] :: rest => ([' '].intercalate rest, [])
  | args => ([' '].intercalate args, ['\n'])

/-- Writes its arguments. Escapes count. -/
def echoEscapes (c : Call) : Effect :=
  let (text, ending) := words c.args
  let (text, stop) := unescape false (text.length + 1) text
  .saying c (if stop then text else text ++ ending)

/-- Writes its arguments. Escapes count only where an option says so. -/
def echo (c : Call) : Effect :=
  let isOption (a : Raw) : Bool :=
    match a with
    | '-' :: l :: more => (l :: more).all fun o => "neE".toList.contains o
    | _ => false
  let isStrict := (c.environment.lookup "POSIXLY_CORRECT".toList).isSome
  let mayHave := !isStrict || c.args.head? == some ['-', 'n']
  let words := if mayHave then c.args.dropWhile isOption else c.args
  let options := (c.args.take (c.args.length - words.length)).flatten
  let text := [' '].intercalate words
  let ending := if options.contains 'n' then [] else ['\n']
  if isStrict || (options.filter (· ≠ 'n')).getLast? == some 'e' then
    let (text, stop) := unescape true (text.length + 1) text
    .saying c (if stop then text else text ++ ending)
  else .saying c (text ++ ending)

end SmtScript.Host.Utility
