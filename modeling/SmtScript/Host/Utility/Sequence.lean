import SmtScript.Host.Utility.Format

/-!
# Lines from nothing

`seq` writes the numbers from one to another, each with as many places after the point as the
first and the step are written with. `yes` writes the same line again and again.
-/

namespace SmtScript.Host.Utility

/-- A number as it was written. -/
structure Numeral where
  value : Quantity
  /-- How many characters it takes in plain digits. -/
  width : Int
  /-- How many places it has after the point, if it has plain digits. -/
  places? : Option Nat

namespace Numeral

/-- The width and the places of a number in decimal digits. An exponent moves the point. -/
def layout (text : Raw) : Int × Nat :=
  let mantissa := text.takeWhile fun c => c ≠ 'e' && c ≠ 'E'
  let exponent := (Shell.Integer.whole? true ((text.drop mantissa.length).drop 1)).getD 0
  let whole := mantissa.takeWhile (· ≠ '.')
  let hasPoint := whole.length < mantissa.length
  let fraction := mantissa.length - whole.length - 1
  let base : Int :=
    if !hasPoint then mantissa.length
    else if fraction = 0 then mantissa.length - 1
    else if whole.getLast?.any Char.isDigit then mantissa.length
    else mantissa.length + 1
  if text.length = mantissa.length then (base, fraction)
  else if exponent < 0 then
    let isBare := !hasPoint || fraction = 0
    (base + (if isBare then 1 else 0) + exponent.natAbs, fraction + exponent.natAbs)
  else
    let places := fraction - exponent.natAbs
    let lost : Int := if hasPoint && places = 0 && fraction ≠ 0 then 1 else 0
    (base - lost + (exponent.natAbs - fraction : Nat), places)

def read? (text : Raw) : Option Numeral :=
  let text := text.dropWhile fun c => Shell.Integer.isBlank c || c = '+'
  match Quantity.front? text with
  | some (q, []) =>
      if q.infinite then some ⟨q, 0, if text.contains '.' then none else some 0⟩
      else if text.any fun c => c.toLower = 'x' then
        some ⟨q, 0, if text.any fun c => c = '.' || c = 'p' then none else some 0⟩
      else
        let (width, places) := layout text
        some ⟨q, width, some places⟩
  | _ => none

def numerator (n : Numeral) : Int :=
  if n.value.negative then - Int.ofNat n.value.top else n.value.top

end Numeral

/-- How a number of a sequence is written. -/
structure SequenceForm where
  before : Raw
  directive : Directive
  letter : Char
  after : Raw

namespace SequenceForm

/-- Plain digits with so many places, with zeros to the left up to a width. -/
def fixed (places : Nat) (width? : Option Nat) : SequenceForm :=
  let flags := if width?.isSome then ['0'] else []
  ⟨[], ⟨flags, width?.getD 0, some places⟩, 'f', []⟩

/-- The form that fits the numbers. -/
def standard (equalWidth : Bool) (first step last : Numeral) : SequenceForm :=
  match first.places?, step.places?, last.places? with
  | some p, some q, some r =>
      let places := max p q
      let point (own : Nat) : Int := if own = 0 && places ≠ 0 then 1 else 0
      let firstWidth := first.width + (places - p : Nat) + point p
      let lastWidth := last.width + (Int.ofNat places - r) + point r
        - (if r ≠ 0 && places = 0 then 1 else 0)
      fixed places (if equalWidth then some (max firstWidth lastWidth).toNat else none)
  | _, _, _ => ⟨[], ⟨[], 0, none⟩, 'g', []⟩

/-- The text up to a directive, with doubled percent signs made single, and what follows. -/
def plain (fuel : Nat) (cs : Raw) : Raw × Raw :=
  match fuel, cs with
  | 0, _ | _, [] => ([], [])
  | fuel + 1, '%' :: '%' :: rest =>
      let (text, rest) := plain fuel rest
      ('%' :: text, rest)
  | _ + 1, '%' :: rest => ([], '%' :: rest)
  | fuel + 1, c :: rest =>
      let (text, rest) := plain fuel rest
      (c :: text, rest)

/-- A form with one directive, or what is wrong with it. -/
def read (text : Raw) : Except Raw SequenceForm :=
  let wrong (what : Raw) : Except Raw SequenceForm :=
    .error ("format ".toList ++ Citation.escaped text ++ what)
  let fuel := text.length + 1
  let (before, rest) := plain fuel text
  match rest with
  | [] => wrong " has no % directive".toList
  | _ :: rest =>
      let flags := rest.takeWhile fun c => "#-+ 0\x27".toList.contains c
      let rest := rest.drop flags.length
      let width := rest.takeWhile Char.isDigit
      let rest := rest.drop width.length
      let (precision?, rest) := match rest with
        | '.' :: rest =>
            let digits := rest.takeWhile Char.isDigit
            (some (Nat.ofDigitChars 10 digits 0), rest.drop digits.length)
        | _ => (none, rest)
      match if rest.head? == some 'L' then rest.drop 1 else rest with
      | [] => wrong " ends in %".toList
      | letter :: rest =>
          let (after, others) := plain fuel rest
          if !"aefgAEFG".toList.contains letter then
            wrong (" has unknown %".toList ++ letter :: " directive".toList)
          else if !others.isEmpty then wrong " has too many % directives".toList
          else .ok ⟨before, ⟨flags, Nat.ofDigitChars 10 width 0, precision?⟩, letter, after⟩

/-- A number in the form. Plain digits are exact. -/
def write (f : SequenceForm) (q : Quantity) : Raw :=
  let d := f.directive
  let text := match f.letter, d.precision? with
    | 'f', some places =>
        d.fill (d.flags.contains '0') (d.sign q.negative)
          (q.positional places (d.flags.contains '#'))
    | letter, _ => d.quantity .extended letter q
  f.before ++ text ++ f.after

end SequenceForm

/-- How many numbers are written at most. -/
def sequenceLimit : Nat :=
  FileSystem.endlessLimit

/-- The numbers of a sequence, over one denominator, and whether there are more than are
written. -/
def sequence (first step last : Numeral) : List Quantity × Bool :=
  let bottom := first.value.bottom * step.value.bottom * last.value.bottom
  let start := first.numerator * (step.value.bottom * last.value.bottom)
  let way := step.numerator * (first.value.bottom * last.value.bottom)
  let goal := last.numerator * (first.value.bottom * step.value.bottom)
  let isUp := 0 < way
  let count :=
    if last.value.infinite then if last.value.negative == isUp then 0 else sequenceLimit + 1
    else if (if isUp then goal < start else start < goal) then 0
    else ((goal - start) / way).toNat + 1
  let numbers := (List.range (min count sequenceLimit)).map fun i =>
    let n := start + way * Int.ofNat i
    ⟨n < 0, .finite, n.natAbs, bottom⟩
  (numbers, sequenceLimit < count)

/-- The options before the first number, where a number can begin with a dash. -/
def sequenceOptions (known : List Known) : List Raw → Options
  | [] => ⟨[], [], none⟩
  | ['-', '-'] :: rest => ⟨[], rest, none⟩
  | ('-' :: c :: more) :: rest =>
      let here : Raw := '-' :: c :: more
      if c.isDigit || c = '.' then ⟨[], here :: rest, none⟩
      else
        let alone := Options.read known true [here]
        match alone.fault?, rest with
        | none, rest => alone.andThen (sequenceOptions known rest)
        | some _, value :: rest =>
            (Options.read known true [here, value]).andThen (sequenceOptions known rest)
        | some _, [] => alone
  | rest => ⟨[], rest, none⟩

/-- A number among the arguments, or what is wrong with it. -/
def sequenceNumber (text : Raw) : Except Raw Numeral :=
  match Numeral.read? text with
  | none => .error ("invalid floating point argument: ".toList ++ Citation.escaped text)
  | some n =>
      if n.value.undefined then
        .error ("invalid \x27not-a-number\x27 argument: ".toList ++ Citation.escaped text)
      else .ok n

/-- The first number, the step and the last number. -/
def sequenceNumbers (operands : List Raw) : Except Raw (Numeral × Numeral × Numeral) := do
  let one : Numeral := ⟨⟨false, .finite, 1, 1⟩, 1, some 0⟩
  match operands with
  | [last] => return (one, one, ← sequenceNumber last)
  | [first, last] => return (← sequenceNumber first, one, ← sequenceNumber last)
  | first :: step :: last :: _ =>
      let first ← sequenceNumber first
      let way ← sequenceNumber step
      if way.value.top = 0 then
        throw ("invalid Zero increment value: ".toList ++ Citation.escaped step)
      return (first, way, ← sequenceNumber last)
  | [] => throw "missing operand".toList

def seq (c : Call) : Effect :=
  let o := sequenceOptions (known "f:s:w" "equal-width=w format=f separator=s") c.args
  withRead c 1 o fun o =>
    let operands := o.operands
    match operands.isEmpty, operands[3]?, (o.value? 'f').map SequenceForm.read with
    | true, _, _ => misused c 1 "missing operand".toList
    | false, some extra, _ => misused c 1 ("extra operand ".toList ++ Citation.escaped extra)
    | false, none, some (.error message) => .failing c 1 message
    | false, none, form? =>
        if o.has 'f' && o.has 'w' then
          misused c 1 "format string may not be specified when printing equal width strings".toList
        else
          match sequenceNumbers operands with
          | .error message => misused c 1 message
          | .ok (first, step, last) =>
              let form := match form? with
                | some (.ok form) => form
                | _ => SequenceForm.standard (o.has 'w') first step last
              let separator := (o.value? 's').getD ['\n']
              let (numbers, more) := sequence first step last
              let text := separator.intercalate (numbers.map form.write) ++ ['\n']
              if numbers.isEmpty then .quiet c 0
              else if more then (Effect.saying c text).repeating
              else .saying c text

/-- So much of what has no end is written at once. -/
def chunkLimit : Nat := 65536

/-- Writes a line without an end. -/
def yes (c : Call) : Effect :=
  withOptions c 1 [] fun o =>
    let line := (if o.operands.isEmpty then ['y'] else [' '].intercalate o.operands) ++ ['\n']
    let text := (List.replicate (chunkLimit / line.length + 1) line).flatten
    (Effect.saying c text).repeating

end SmtScript.Host.Utility
