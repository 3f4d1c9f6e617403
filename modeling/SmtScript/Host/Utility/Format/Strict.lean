import SmtScript.Host.Utility.Format

/-!
# Formats of a program

The program `printf` knows more escapes than a shell, sizes of numbers among the letters of a
directive, and a directive that cites an argument for a shell. It ends at a directive that it does
not know. What it has written before a message stands before it.
-/

namespace SmtScript.Host.Utility.Strict

open Shell (Integer.front? Integer.least Integer.greatest Integer.isDigitOf Integer.digits)

/-! ## Progress -/

/-- What was said and what was written since then, the last first, and the arguments that are
left. -/
structure Progress where
  said : List Said
  text : Raw
  args : List Raw
  status : Nat
  isOver : Bool

namespace Progress

def write (p : Progress) (text : Raw) : Progress :=
  { p with text := text.reverse ++ p.text }

def spoken (p : Progress) : List Said :=
  if p.text.isEmpty then p.said else .out p.text.reverse :: p.said

def warn (p : Progress) (c : Call) (message : Raw) : Progress :=
  { p with said := .err (c.name ++ ": ".toList ++ message ++ ['\n']) :: p.spoken, text := [] }

/-- A message that counts as a failure. -/
def complain (p : Progress) (c : Call) (message : Raw) : Progress :=
  { p.warn c message with status := 1 }

/-- Ends with a message. -/
def fail (p : Progress) (c : Call) (message : Raw) : Progress :=
  { p.complain c message with isOver := true }

def takeArgument (p : Progress) : Raw × Progress :=
  (p.args.headD [], { p with args := p.args.drop 1 })

end Progress

/-! ## Escapes -/

/-- The universal name of a character that cannot be written. -/
def universalName (letter : Char) (width code : Nat) (capital : Bool) : Raw :=
  let digits := Nat.toDigits 16 code
  let digits := List.replicate (width - digits.length) '0' ++ digits
  '\\' :: letter :: (if capital then digits.map Char.toUpper else digits)

/-- A character by so many digits of base 16, and what follows. -/
def universal (p : Progress) (c : Call) (letter : Char) (count : Nat) (cs : Raw) : Progress × Raw :=
  let digits := (cs.take count).takeWhile (Integer.isDigitOf 16)
  let rest := cs.drop count
  let code := (Integer.digits 16 digits).1
  if digits.length < count then (p.fail c "missing hexadecimal number in escape".toList, rest)
  else if 0xd800 ≤ code && code ≤ 0xdfff then
    (p.fail c ("invalid universal character name ".toList
      ++ universalName letter count code false), rest)
  else if code < 128 then (p.write [Char.ofNat code], rest)
  else if code < 0x10000 then (p.write (universalName 'u' 4 code true), rest)
  else (p.write (universalName 'U' 8 code true), rest)

/-- Writes what stands for the text after a backslash. Gives what follows. With `zeros`, a zero may
stand before octal digits. -/
def escape (p : Progress) (c : Call) (zeros : Bool) (cs : Raw) : Progress × Raw :=
  match cs with
  | [] => (p.write ['\\'], [])
  | 'x' :: rest =>
      match hexadecimal? rest with
      | some (byte, rest) => (p.write [byte], rest)
      | none => (p.fail c "missing hexadecimal number in escape".toList, rest)
  | 'c' :: rest => ({ p with status := 0, isOver := true }, rest)
  | 'u' :: rest => universal p c 'u' 4 rest
  | 'U' :: rest => universal p c 'U' 8 rest
  | '"' :: rest => (p.write ['"'], rest)
  | l :: rest =>
      if isOctal l then
        let (byte, rest) := octal (if zeros && l = '0' then rest else cs)
        (p.write [byte], rest)
      else
        match letterEscape? l with
        | some byte => (p.write [byte], rest)
        | none => (p.write ['\\', l], rest)

/-- Writes an argument with its escapes. -/
def writeEscaped (fuel : Nat) (p : Progress) (c : Call) (cs : Raw) : Progress :=
  match fuel, cs with
  | 0, _ | _, [] => p
  | fuel + 1, '\\' :: rest =>
      let (p, rest) := escape p c true rest
      if p.isOver then p else writeEscaped fuel p c rest
  | fuel + 1, l :: rest => writeEscaped fuel (p.write [l]) c rest

/-! ## Numbers -/

/-- Says what is wrong with an argument that is a number with something after it. -/
def checkRest (p : Progress) (c : Call) (arg rest : Raw) (tooGreat : Bool) : Progress :=
  let about (message : String) : Progress :=
    p.complain c (Citation.escaped arg ++ ": ".toList ++ message.toList)
  if tooGreat then about "Numerical result out of range"
  else if rest.isEmpty then p
  else if rest = arg then about "expected a numeric value"
  else about "value not completely converted"

/-- The code of a character behind a quotation mark. -/
def code? (p : Progress) (c : Call) (arg : Raw) : Option (Nat × Progress) :=
  match arg with
  | '\x27' :: l :: rest | '"' :: l :: rest =>
      let note := "warning: ".toList ++ rest
        ++ ": character(s) following character constant have been ignored".toList
      some (l.toNat, if rest.isEmpty then p else p.warn c note)
  | _ => none

/-- An argument as a whole number. What is too small or too great stands for a limit. -/
def takeInteger (p : Progress) (c : Call) (least greatest below : Int) : Int × Progress :=
  let (arg, p) := p.takeArgument
  match code? p c arg with
  | some (n, p) => (n, p)
  | none =>
      match Integer.front? false arg with
      | none => (0, checkRest p c arg arg false)
      | some (n, rest) =>
          let kept := if n < least then below else min greatest n
          (kept, checkRest p c arg rest (kept ≠ n))

def takeSigned (p : Progress) (c : Call) : Int × Progress :=
  takeInteger p c Integer.least Integer.greatest Integer.least

def takeQuantity (p : Progress) (c : Call) : Quantity × Progress :=
  let (arg, p) := p.takeArgument
  match code? p c arg with
  | some (n, p) => (⟨false, .finite, n, 1⟩, p)
  | none =>
      match Quantity.front? arg with
      | none => (⟨false, .finite, 0, 1⟩, checkRest p c arg arg false)
      | some (q, rest) => (q, checkRest p c arg rest (q.isOutOfRange .extended))

/-! ## Directives -/

/-- A width or a precision: digits, or a star for an argument. -/
def takeSize (p : Progress) (c : Call) (what : String) (cs : Raw) : Int × Raw × Progress :=
  match cs with
  | '*' :: rest =>
      let arg := p.args.headD []
      let (n, p) := if p.args.isEmpty then (0, p) else takeSigned p c
      let isTooSmall := what = "field width" && n < -2147483648
      if isTooSmall || 2147483647 < n then
        (0, rest, p.fail c ("invalid ".toList ++ what.toList ++ ": ".toList
          ++ Citation.escaped arg))
      else (n, rest, p)
  | _ =>
      let digits := cs.takeWhile Char.isDigit
      (Nat.ofDigitChars 10 digits 0, cs.drop digits.length, p)

/-- The directive after a percent sign, and what follows it. -/
def takeDirective (p : Progress) (c : Call) (cs : Raw) : Directive × Raw × Progress :=
  let flags := cs.takeWhile fun l => "#-+ 0\x27I".toList.contains l
  let (width, rest, p) := takeSize p c "field width" (cs.drop flags.length)
  let flags := if width < 0 then '-' :: flags else flags
  match rest with
  | '.' :: rest =>
      let (precision, rest, p) := takeSize p c "precision" rest
      let kept := if precision < 0 then -1 else precision
      (⟨flags, width.natAbs, if kept < 0 then none else some kept.toNat⟩, rest, p)
  | _ => (⟨flags, width.natAbs, none⟩, rest, p)

/-- Has a directive with these flags the letter? -/
def allows (flags : Raw) (isPrecise : Bool) (letter : Char) : Bool :=
  let refused := (if flags.any fun l => l = '\x27' || l = 'I' then "aAceEosxX" else "")
    ++ (if flags.contains '#' then "cdisu" else "")
    ++ (if flags.contains '0' then "cs" else "")
    ++ (if isPrecise then "c" else "")
  "aAcdeEfFgGiosuxX".toList.contains letter && !refused.toList.contains letter

/-- Writes an argument as a directive says. -/
def convert (p : Progress) (c : Call) (d : Directive) (letter : Char) : Progress :=
  if letter = 's' then
    let (arg, p) := p.takeArgument
    p.write (d.text arg)
  else if letter = 'c' then
    let (arg, p) := p.takeArgument
    p.write (pad d.left d.width [arg.headD '\x00'])
  else if letter = 'd' || letter = 'i' then
    let (n, p) := takeSigned p c
    p.write (d.signed n)
  else if "ouxX".toList.contains letter then
    let limit : Int := Nat.pow 2 64 - 1
    let (n, p) := takeInteger p c (-limit) limit limit
    p.write (d.unsigned letter (n % (limit + 1)).toNat)
  else
    let (q, p) := takeQuantity p c
    p.write (d.quantity .extended letter q)

/-- Letters for the sizes of numbers, which mean nothing here. -/
def isSize (l : Char) : Bool :=
  "lLhjtz".toList.contains l

/-- One use of a format. -/
def run (fuel : Nat) (p : Progress) (c : Call) (cs : Raw) : Progress :=
  match fuel, cs with
  | 0, _ | _, [] => p
  | fuel + 1, '\\' :: rest =>
      let (p, rest) := escape p c false rest
      if p.isOver then p else run fuel p c rest
  | fuel + 1, '%' :: '%' :: rest => run fuel (p.write ['%']) c rest
  | fuel + 1, '%' :: 'b' :: rest =>
      let (arg, p) := p.takeArgument
      let p := writeEscaped (arg.length + 1) p c arg
      if p.isOver then p else run fuel p c rest
  | fuel + 1, '%' :: 'q' :: rest =>
      let isGiven := !p.args.isEmpty
      let (arg, p) := p.takeArgument
      run fuel (if isGiven then p.write (Citation.word arg) else p) c rest
  | fuel + 1, '%' :: rest =>
      let (d, after, p) := takeDirective p c rest
      let after := after.dropWhile isSize
      let form := rest.take (rest.length - after.length)
      let flags := form.takeWhile fun l => "#-+ 0\x27I".toList.contains l
      let letter := after.headD ' '
      if p.isOver then p
      else if !allows flags (form.contains '.') letter then
        p.fail c ('%' :: form ++ after.take 1 ++ ": invalid conversion specification".toList)
      else run fuel (convert p c d letter) c (after.drop 1)
  | fuel + 1, l :: rest => run fuel (p.write [l]) c rest

/-- Uses the format again as long as there are arguments left. -/
def runAll (fuel : Nat) (p : Progress) (c : Call) (cs : Raw) : Progress :=
  match fuel with
  | 0 => p
  | fuel + 1 =>
      let next := run (cs.length + 1) p c cs
      if next.isOver || next.args.isEmpty then next
      else if next.args.length = p.args.length then
        next.warn c ("warning: ignoring excess arguments, starting with ".toList
          ++ Citation.escaped (next.args.headD []))
      else runAll fuel next c cs

end SmtScript.Host.Utility.Strict

namespace SmtScript.Host.Utility

/-- Puts the arguments into a format, as a program. -/
def printfProgram (c : Call) : Effect :=
  match if c.args.head? == some ['-', '-'] then c.args.drop 1 else c.args with
  | [] => misused c 1 "missing operand".toList
  | cs :: args =>
      let p := Strict.runAll (args.length + 1) ⟨[], [], args, 0, false⟩ c cs
      { Effect.quiet c p.status with said := p.spoken.reverse }

end SmtScript.Host.Utility
