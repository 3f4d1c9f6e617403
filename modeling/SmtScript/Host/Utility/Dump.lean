import SmtScript.Host.Utility.Amount
import SmtScript.Host.Utility.Extent
import SmtScript.Host.Utility.Format

/-!
# Dumps

`od` writes bytes in rows: a place, and the bytes as characters or as numbers of some size. A row
that is like the one before it is left out. The rows of several forms have the same width.
-/

namespace SmtScript.Host.Utility.Dump

/-- How bytes are shown: the kind, the bytes of a field, and whether they follow as text. -/
structure Form where
  kind : Char
  size : Nat
  hasText : Bool

/-- The base of a kind of number. None for characters. -/
def base? (kind : Char) : Option Nat :=
  match kind with
  | 'o' => some 8
  | 'x' => some 16
  | 'd' | 'u' => some 10
  | _ => none

/-- How many digits the greatest number of a form has, with its sign. -/
def width (f : Form) : Nat :=
  match base? f.kind with
  | none => 3
  | some base =>
      let greatest := Nat.pow 256 f.size - 1
      if f.kind = 'd' then (Nat.toDigits 10 (greatest / 2 + 1)).length + 1
      else (Nat.toDigits base greatest).length

/-- The names of the characters up to the blank. -/
def names : List String :=
  ["nul", "soh", "stx", "etx", "eot", "enq", "ack", "bel", "bs", "ht", "nl", "vt", "ff", "cr",
    "so", "si", "dle", "dc1", "dc2", "dc3", "dc4", "nak", "syn", "etb", "can", "em", "sub", "esc",
    "fs", "gs", "rs", "us", "sp"]

def named (c : Char) : Raw :=
  let code := c.toNat % 128
  if code = 127 then "del".toList
  else
    match names[code]? with
    | some name => name.toList
    | none => [Char.ofNat code]

/-- A character by itself, by an escape or by its octal digits. -/
def shown (c : Char) : Raw :=
  if c = '\x00' then ['\\', '0']
  else if Citation.isPrintable c then [c]
  else
    match Citation.letter? c with
    | some l => ['\\', l]
    | none => (Citation.escape c).drop 1

/-- The number of some bytes, the least first. -/
def number (bytes : Raw) : Nat :=
  bytes.foldr (fun c n => n * 256 + c.toNat) 0

/-- One field. -/
def field (f : Form) (bytes : Raw) : Raw :=
  match base? f.kind with
  | none => if f.kind = 'a' then named (bytes.headD ' ') else shown (bytes.headD ' ')
  | some base =>
      let n := number bytes
      let limit := Nat.pow 256 f.size
      if f.kind = 'd' then
        Decimal.signed (if limit ≤ 2 * n then Int.ofNat n - Int.ofNat limit else Int.ofNat n)
      else if f.kind = 'u' then Nat.toDigits 10 n
      else
        let digits := Nat.toDigits base n
        List.replicate (width f - digits.length) '0' ++ digits

/-- So many fields of a row that has room for more, which take a width in all. -/
def fields (f : Form) (room count shown : Nat) (bytes : Raw) : Raw :=
  (List.range shown).flatMap fun i =>
    let left := count - i
    let spare := room * left / count - room * (left - 1) / count
    pad false (spare + width f) (field f ((bytes.drop (i * f.size)).take f.size))

/-- What the options ask for. -/
structure Layout where
  forms : List Form
  /-- The base of the places. None where they are not shown. -/
  places? : Option Nat
  /-- The bytes of a row. -/
  row : Nat
  /-- Are rows shown that are like the one before? -/
  repeats : Bool

namespace Layout

def place (l : Layout) (n : Nat) : Raw :=
  match l.places? with
  | none => []
  | some base =>
      let digits := Nat.toDigits base n
      List.replicate ((if base = 16 then 6 else 7) - digits.length) '0' ++ digits

/-- The width of the widest row. -/
def width (l : Layout) : Nat :=
  l.forms.foldl (fun n f => max n ((Dump.width f + 1) * (l.row / f.size))) 0

/-- A row in all forms. Where bytes are missing to a whole field they are zeros. -/
def lines (l : Layout) (place : Nat) (bytes : Raw) : Raw :=
  (l.forms.zipIdx.flatMap fun (f, i) =>
    let count := l.row / f.size
    let room := l.width - Dump.width f * count
    let front := l.place place
    let shown := count - (l.row - bytes.length) / f.size
    let body := fields f room count shown (bytes ++ List.replicate f.size '\x00')
    let text := bytes.map fun c => if Citation.isPrintable c then c else '.'
    (if i = 0 then front else List.replicate front.length ' ')
      ++ (if f.hasText then pad true l.width body ++ "  >".toList ++ text ++ ['<'] else body)
      ++ ['\n'])

/-- The rows from a place on, and the place at the end. -/
def rows (l : Layout) (fuel place : Nat) (before : Raw) (starred : Bool) (bytes : Raw) : Raw :=
  match fuel with
  | 0 => []
  | fuel + 1 =>
      if bytes.isEmpty then l.place place ++ (if l.places?.isSome then ['\n'] else [])
      else
        let here := bytes.take l.row
        let isSame := !l.repeats && here.length = l.row && before == here
        let text := if !isSame then l.lines place here else if starred then [] else "*\n".toList
        text ++ l.rows fuel (place + here.length) here isSame (bytes.drop l.row)

end Layout

/-! ## Options -/

def sizeOf? (kind : Char) (text : Raw) : Option (Nat × Raw) :=
  if kind = 'a' || kind = 'c' then some (1, text)
  else
    let digits := text.takeWhile Char.isDigit
    if !digits.isEmpty then
      let size := Nat.ofDigitChars 10 digits 0
      if [1, 2, 4, 8].contains size then some (size, text.drop digits.length) else none
    else
      match text with
      | 'C' :: rest => some (1, rest)
      | 'S' :: rest => some (2, rest)
      | 'I' :: rest => some (4, rest)
      | 'L' :: rest => some (8, rest)
      | rest => some (4, rest)

/-- The forms that a text names one after the other. -/
def forms (whole : Raw) (fuel : Nat) (text : Raw) : Except Raw (List Form) :=
  match fuel, text with
  | 0, _ | _, [] => .ok []
  | fuel + 1, kind :: rest =>
      if !"acdoux".toList.contains kind then
        .error ("invalid character ".toList ++ Citation.plain [kind] ++ " in type string ".toList
          ++ Citation.escaped whole)
      else
        match sizeOf? kind rest with
        | none =>
            .error ("invalid type string ".toList ++ Citation.escaped whole
              ++ ";\nthis system doesn\x27t provide a ".toList ++ rest.takeWhile Char.isDigit
              ++ "-byte integral type".toList)
        | some (size, rest) => do
            let hasText := rest.head? == some 'z'
            let others ← forms whole fuel (if hasText then rest.drop 1 else rest)
            return ⟨kind, size, hasText⟩ :: others

/-- What an option stands for that names a form by one letter. -/
def typeOf? (key : Key) (value : Raw) : Option Raw :=
  match key with
  | .letter 'a' => some "a".toList
  | .letter 'b' => some "o1".toList
  | .letter 'c' => some "c".toList
  | .letter 'd' => some "u2".toList
  | .letter 'i' => some "dI".toList
  | .letter 'l' | .letter 'I' | .letter 'L' => some "dL".toList
  | .letter 'o' | .letter 'B' => some "o2".toList
  | .letter 's' => some "d2".toList
  | .letter 'x' | .letter 'h' => some "x2".toList
  | .letter 'D' => some "u4".toList
  | .letter 'O' => some "o4".toList
  | .letter 'X' | .letter 'H' => some "x4".toList
  | .letter 't' => some value
  | _ => none

/-- A number of bytes: decimal, octal or of base 16, with a unit. -/
def bytes (option : String) (text : Raw) : Except Raw Nat :=
  (Amount.read true "bEGKkMmPTYZ" text).mapError fun fault => fault.ofOption option.toList text

def options : List Known :=
  known "abcdefhilosxIBLDOFXHS::A:j:N:t:vw::" <|
    "skip-bytes=j address-radix=A read-bytes=N format=t output-duplicates=v strings=S"
    ++ " traditional width=w endian:"

def layout (o : Options) : Except Raw Layout := do
  let types := (o.given.filterMap fun g => typeOf? g.1 g.2)
  let given ← types.mapM fun text => forms text (text.length + 1) text
  let given := given.flatten
  let given := if given.isEmpty then [⟨'o', 2, false⟩] else given
  let unit := given.foldl (fun n f => Nat.lcm n f.size) 1
  let places? ← match ((o.value? 'A').getD ['o']).headD ' ' with
    | 'o' => .ok (some 8)
    | 'd' => .ok (some 10)
    | 'x' => .ok (some 16)
    | 'n' => .ok none
    | other =>
        .error ("invalid output address radix ".toList ++ Citation.plain [other]
          ++ "; it must be one character from [doxn]".toList)
  let row ← match o.value? 'w' with
    | none => .ok (unit * (16 / unit))
    | some [] => .ok 32
    | some text =>
        (bytes "-w" text).map fun n => if n ≠ 0 && n % unit = 0 then n else unit
  return ⟨given, places?, row, o.has 'v'⟩

end Dump

/-- Writes the bytes of all files in rows. -/
def od (c : Call) : Effect :=
  withOptions c 1 Dump.options fun o =>
    let asked : Except Raw (Dump.Layout × Nat × Option Nat) := do
      let start? ← (o.value? 'j').mapM (Dump.bytes "-j")
      let limit? ← (o.value? 'N').mapM (Dump.bytes "-N")
      return (← Dump.layout o, start?.getD 0, limit?)
    match asked with
    | .error message => .failing c 1 message
    | .ok (layout, start, limit?) =>
        let (e, found) := (c.sources (orInput o.operands)).foldl
          (fun (e, found) (path, content?) =>
            let e := Effect.afterPath e c path
            match content? with
            | .ok content => (e, found ++ [content])
            | .error reason =>
                let name := if path = ['-'] then "\x27standard input\x27".toList
                  else Citation.bare path
                (e.complain c 1 (name ++ ": ".toList ++ reason), found))
          (Effect.quiet c 0, [])
        let content := found.flatten
        let ended (e : Effect) : Effect := e.closing c (orInput o.operands) "standard input"
        let isRead (path : Raw) : Bool := path = ['-'] || c.isDirectory path
        if found.isEmpty && !(orInput o.operands).any isRead then e
        else if content.length < start && !found.isEmpty then
          ended (e.complain c 1 "cannot skip past end of combined input".toList)
        else
          let bytes := content.drop start
          let bytes := match limit? with
            | some n => bytes.take n
            | none => bytes
          let e := match limit? with
            | some n => if start + n ≤ content.length && c.inputFault?.isNone
                && o.operands.isEmpty then { e with taken? := some (start + n), early := true }
              else e
            | none => e
          let start := if found.isEmpty then 0 else start
          ended (e.say (layout.rows (bytes.length + 1) start [] false bytes))

end SmtScript.Host.Utility
