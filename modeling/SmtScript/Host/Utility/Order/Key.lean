import SmtScript.Host.Shell.Pattern
import SmtScript.Host.Utility.Lines
import SmtScript.Host.Utility.Quantity
import SmtScript.Host.Utility.Version

/-!
# Keys of lines

A key is a part of a line, from one place in its fields to another, with letters that say how such
parts are compared.
-/

namespace SmtScript.Host.Utility

/-- Is it a blank between fields? -/
def isFieldBlank (c : Char) : Bool :=
  c = ' ' || c = '\t' || c = '\n'


/-- A place in a line: how many fields and then how many characters are before it. -/
structure KeyPlace where
  fields : Nat
  chars : Nat
  skipsBlanks : Bool

/-- What lines are compared by. -/
structure SortKey where
  start : KeyPlace
  stop? : Option KeyPlace
  /-- The letters that say how the parts are compared. -/
  letters : List Char

namespace SortKey

/-- Goes over fields, each with the separator behind it, or with the blanks before it. -/
def dropFields (separator? : Option Char) : Nat → Raw → Raw
  | 0, line => line
  | _, [] => []
  | n + 1, line =>
      match separator? with
      | some s => dropFields separator? n ((line.dropWhile (· ≠ s)).drop 1)
      | none =>
          dropFields separator? n
            ((line.dropWhile isFieldBlank).dropWhile fun c => !isFieldBlank c)

/-- What is behind the start of the key. -/
def fromStart (k : SortKey) (separator? : Option Char) (line : Raw) : Raw :=
  let rest := dropFields separator? k.start.fields line
  (if k.start.skipsBlanks then rest.dropWhile isFieldBlank else rest).drop k.start.chars

/-- What is behind the end of the key. A separator at the end belongs to no field. -/
def fromStop (k : SortKey) (separator? : Option Char) (line : Raw) : Raw :=
  match k.stop? with
  | none => []
  | some stop =>
      if stop.chars = 0 then
        let rest := dropFields separator? stop.fields line
        match separator? with
        | some s => rest.dropWhile (· ≠ s)
        | none => dropFields none 1 rest
      else
        let rest := dropFields separator? stop.fields line
        (if stop.skipsBlanks then rest.dropWhile isFieldBlank else rest).drop stop.chars

/-- The part of a line. -/
def part (k : SortKey) (separator? : Option Char) (line : Raw) : Raw :=
  let start := k.fromStart separator? line
  start.take (start.length - (k.fromStop separator? line).length)

/-- The part as it is compared: without characters that do not count, and with the case that
does not count folded. -/
def folded (letters : List Char) (part : Raw) : Raw :=
  let kept := part.filter fun c =>
    (!letters.contains 'd' || isFieldBlank c || c.isAlphanum)
      && (!letters.contains 'i' || Shell.Pattern.isInClass "print" c)
  if letters.contains 'f' then kept.map Char.toUpper else kept

/-- The number that a text begins with, as a quotient, and what follows it. -/
def number (text : Raw) : Int × Nat × Raw :=
  let text := text.dropWhile isFieldBlank
  let (negative, digits) := match text with
    | '-' :: rest => (true, rest)
    | _ => (false, text)
  match Quantity.unsigned? 10 10 [] digits with
  | some (q, rest) => (if negative then - Int.ofNat q.top else Int.ofNat q.top, q.bottom, rest)
  | none => (0, 1, text)

def compareNumbers (a b : Raw) : Ordering :=
  let (m, p, _) := number a
  let (n, q, _) := number b
  compare (m * q) (n * p)

/-- The rank of the unit behind a number. It weighs more than the number. -/
def unitRank (text : Raw) : Int :=
  let (n, _, rest) := number text
  let rank : Nat := match rest.head? with
    | some 'k' => 1
    | some c => ("KMGTPEZY".toList.idxOf? c).elim 0 (· + 1)
    | none => 0
  if n < 0 then - Int.ofNat rank else if n = 0 then 0 else rank

/-- Whatever is no number comes before all numbers, and before them what has no size. -/
def compareQuantities (a b : Raw) : Ordering :=
  let size (q : Quantity) : Int × Nat × Int :=
    let sign : Int := if q.negative then -1 else 1
    match q.kind with
    | .undefined => (0, 1, -2)
    | .infinite => (0, 1, sign)
    | .finite => (sign * Int.ofNat q.top, q.bottom, 0)
  match Quantity.front? a, Quantity.front? b with
  | none, none => .eq
  | none, some _ => .lt
  | some _, none => .gt
  | some (q, _), some (r, _) =>
      let (m, p, i) := size q
      let (n, s, j) := size r
      (compare i j).then (compare (m * s) (n * p))

def compareTexts (a b : Raw) : Ordering :=
  if a == b then .eq else if Raw.isBefore a b then .lt else .gt

def monthNames : List String :=
  ["JAN", "FEB", "MAR", "APR", "MAY", "JUN", "JUL", "AUG", "SEP", "OCT", "NOV", "DEC"]

/-- The number of the month whose name a text begins with, or zero. -/
def month (text : Raw) : Nat :=
  let front := ((text.dropWhile isFieldBlank).take 3).map Char.toUpper
  (monthNames.idxOf? (String.ofList front)).elim 0 (· + 1)

def compareParts (letters : List Char) (a b : Raw) : Ordering :=
  let a := folded letters a
  let b := folded letters b
  if letters.contains 'n' then compareNumbers a b
  else if letters.contains 'g' then compareQuantities a b
  else if letters.contains 'h' then (compare (unitRank a) (unitRank b)).then (compareNumbers a b)
  else if letters.contains 'M' then compare (month a) (month b)
  else if letters.contains 'V' then Version.compare a b
  else compareTexts a b

def compareLines (k : SortKey) (separator? : Option Char) (a b : Raw) : Ordering :=
  let order := compareParts k.letters (k.part separator? a) (k.part separator? b)
  if k.letters.contains 'r' then order.swap else order

/-! ## Keys in text -/

/-- The letters that say how keys are compared. -/
def orderLetters : List Char :=
  "bdfghiMnrRV".toList

/-- A number, which begins a place in a line, and what follows it. -/
def fieldNumber (what : String) (text : Raw) : Except Raw (Nat × Raw) :=
  let front := text.dropWhile Shell.Integer.isBlank
  let front := if front.head? = some '+' then front.drop 1 else front
  if front.head?.any Char.isDigit then .ok (Shell.Integer.digits 10 front)
  else
    .error (what.toList ++ ": invalid count at start of ".toList ++ Citation.escaped text)

/-- What is said of a key that is none. -/
def wrongKey (what : String) (key : Raw) : Raw :=
  what.toList ++ ": invalid field specification ".toList ++ Citation.escaped key

/-- A count of fields, perhaps with one of characters after a point, letters, and what
follows. -/
def place (key : Raw) (what : String) (text : Raw) :
    Except Raw (Nat × Option Nat × List Char × Raw) := do
  let (fields, rest) ← fieldNumber what text
  if fields = 0 then throw (wrongKey "field number is zero" key)
  let (chars?, rest) ← match rest with
    | '.' :: more => do
        let (chars, rest) ← fieldNumber "invalid number after \x27.\x27" more
        pure (some chars, rest)
    | _ => pure (none, rest)
  let letters := rest.takeWhile orderLetters.contains
  return (fields, chars?, letters, rest.drop letters.length)

/-- A key as an option gives it. -/
def read (text : Raw) : Except Raw SortKey := do
  let (first, firstChar?, firstLetters, rest) ← place text "invalid number at field start" text
  if firstChar? = some 0 then throw (wrongKey "character offset is zero" text)
  let start : KeyPlace := ⟨first - 1, (firstChar?.getD 1) - 1, firstLetters.contains 'b'⟩
  match rest with
  | [] => return ⟨start, none, firstLetters⟩
  | ',' :: rest =>
      let (last, lastChar?, lastLetters, rest) ← place text "invalid number after \x27,\x27" rest
      if !rest.isEmpty then throw (wrongKey "stray character in field spec" text)
      let stop : KeyPlace := ⟨last - 1, lastChar?.getD 0, lastLetters.contains 'b'⟩
      return ⟨start, some stop, firstLetters ++ lastLetters⟩
  | _ => throw (wrongKey "stray character in field spec" text)

/-- The key with the letters that stand for all lines, where it has none of its own. -/
def inheriting (k : SortKey) (letters : List Char) : SortKey :=
  let skips := letters.contains 'b'
  if k.letters.isEmpty then
    { start := { k.start with skipsBlanks := skips }
      stop? := k.stop?.map fun stop => { stop with skipsBlanks := skips }
      letters := letters }
  else k

/-- All of a line. -/
def whole (letters : List Char) : SortKey :=
  ⟨⟨0, 0, letters.contains 'b'⟩, none, letters⟩

/-- The letters of a key that cannot stand together, if they do. -/
def conflict? (k : SortKey) : Option (List Char) :=
  let has (letters : String) : Nat := letters.toList.countP k.letters.contains
  let isText : Nat := if 0 < has "VRdi" then 1 else 0
  if has "nghM" + isText < 2 then none
  else some ("dfghiMnRV".toList.filter fun l =>
    k.letters.contains l && !(l = 'i' && k.letters.contains 'd'))

end SortKey

end SmtScript.Host.Utility
