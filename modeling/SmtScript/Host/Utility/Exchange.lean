import SmtScript.Host.Shell.Pattern
import SmtScript.Host.Utility.Format

/-!
# Exchanging characters

`tr` puts characters in the place of others, deletes them, or keeps one of several neighbours
that are alike. A set of characters is written with ranges, classes and repeated characters.
-/

namespace SmtScript.Host.Utility

namespace Exchange

/-- A part of a set as it is written. -/
inductive Part where
  | char (c : Char)
  | range (first last : Char)
  | named (name : Raw)
  /-- The characters that count as the same as one. -/
  | same (c : Char)
  /-- A character so many times, or as often as it takes. -/
  | times (c : Char) (count? : Option Nat)

/-- All bytes. -/
def allBytes : Raw :=
  (List.range 256).map Char.ofNat

/-! ## Reading -/

/-- A character, with a mark where it was written with a backslash. -/
abbrev Written := List (Char × Bool)

/-- An escape with octal digits, as long as they make a byte, and what follows. Where a third digit
would be too much, there is a warning. -/
def octalEscape (cs : Raw) : Char × Raw × List Raw :=
  let digits := (cs.take 3).takeWhile isOctal
  let value := Nat.ofDigitChars 8 digits 0
  if value < 256 then (Char.ofNat value, cs.drop digits.length, [])
  else
    let kept := digits.take 2
    let warning := "warning: the ambiguous octal escape \\".toList ++ digits
      ++ " is being\n\tinterpreted as the 2-byte sequence \\0".toList ++ kept
      ++ ", ".toList ++ digits.drop 2
    (Char.ofNat (Nat.ofDigitChars 8 kept 0), cs.drop 2, [warning])

/-- The characters that the escapes stand for, and warnings. -/
def unescaped (fuel : Nat) (cs : Raw) : Written × List Raw :=
  match fuel, cs with
  | 0, _ | _, [] => ([], [])
  | _ + 1, ['\\'] =>
      ([('\\', false)],
        ["warning: an unescaped backslash at end of string is not portable".toList])
  | fuel + 1, '\\' :: c :: rest =>
      if isOctal c then
        let (byte, rest, warnings) := octalEscape (c :: rest)
        let (others, more) := unescaped fuel rest
        ((byte, true) :: others, warnings ++ more)
      else
        let (others, warnings) := unescaped fuel rest
        let byte := if c = 'e' then c else (letterEscape? c).getD c
        ((byte, true) :: others, warnings)
  | fuel + 1, c :: rest =>
      let (others, warnings) := unescaped fuel rest
      ((c, false) :: others, warnings)

/-- More repetitions than make a difference. -/
def timesLimit : Nat := 4096

/-- The count in brackets: octal digits after a zero, or decimal ones. Zero or no digits stand for
as many as it takes. -/
def count? (digits : Raw) : Option (Option Nat) :=
  let base := if digits.head? == some '0' then 8 else 10
  if digits.all (Shell.Integer.isDigitOf base) then
    let n := (Shell.Integer.digits base digits).1
    some (if n = 0 then none else some (min n timesLimit))
  else none

/-- What comes before a mark with a bracket behind it, and what follows them. -/
def closedBy? (mark : Char) : Written → Option (Written × Written)
  | a :: b :: rest =>
      if a = (mark, false) && b = (']', false) then some ([], rest)
      else (closedBy? mark (b :: rest)).map fun (inside, after) => (a :: inside, after)
  | _ => none

/-- A character as it is shown. -/
def shownChar (c : Char) : Raw :=
  if Citation.isPrintable c then [c]
  else
    let digits := Nat.toDigits 8 c.toNat
    '\\' :: List.replicate (3 - digits.length) '0' ++ digits

/-- A repeated character, if it is one. -/
def repeated? (cs : Written) : Option (Except Raw Part × Written) :=
  match cs with
  | (c, _) :: ('*', false) :: rest =>
      let digits := rest.takeWhile fun d => !d.2 && d.1 ≠ ']'
      match rest.drop digits.length with
      | (']', false) :: after =>
          let digits := digits.map Prod.fst
          match count? digits with
          | some count? => some (.ok (.times c count?), after)
          | none =>
              some (.error ("invalid repeat count ".toList
                ++ Citation.escaped (digits.flatMap shownChar) ++ " in [c*n] construct".toList), after)
      | _ => none
  | _ => none

/-- A class or a set of like characters between two marks. A character that is repeated can look like
the start of one. -/
def marked (mark : Char) (rest : Written) (inside after : Written) : Except Raw Part × Written :=
  let name := inside.map Prod.fst
  let shown := name.flatMap shownChar
  let fallback (message : Raw) : Except Raw Part × Written :=
    (repeated? ((mark, false) :: rest)).getD (.error message, after)
  if mark = ':' then
    if name.isEmpty then (.error "missing character class name \x27[::]\x27".toList, after)
    else if Shell.Pattern.classNames.any fun n => n.toList == name then (.ok (.named name), after)
    else fallback ("invalid character class ".toList ++ Citation.escaped shown)
  else
    match name with
    | [] => (.error "missing equivalence class character \x27[==]\x27".toList, after)
    | [c] => (.ok (.same c), after)
    | _ => fallback (shown ++ ": equivalence class operand must be a single character".toList)

/-- A class, a set of like characters or a repeated character, if brackets hold one. -/
def bracketed? (cs : Written) : Option (Except Raw Part × Written) :=
  match cs with
  | ('[', false) :: (mark, isEscaped) :: rest =>
      let marks := !isEscaped && (mark = ':' || mark = '=')
      match if marks then closedBy? mark rest else none with
      | some (inside, after) => some (marked mark rest inside after)
      | none => repeated? ((mark, isEscaped) :: rest)
  | _ => none

def parts (fuel : Nat) (cs : Written) : Except Raw (List Part) :=
  match fuel with
  | 0 => .ok []
  | fuel + 1 =>
      match bracketed? cs, cs with
      | some (part, after), _ => do return (← part) :: (← parts fuel after)
      | none, [] => .ok []
      | none, (first, _) :: ('-', false) :: (last, _) :: after =>
          if last.toNat < first.toNat then
            .error ("range-endpoints of ".toList
              ++ Citation.plain (shownChar first ++ '-' :: shownChar last)
              ++ " are in reverse collating sequence order".toList)
          else do return .range first last :: (← parts fuel after)
      | none, (c, _) :: after => do return .char c :: (← parts fuel after)

/-- The parts of a set, or what is wrong with it, and warnings. -/
def read (text : Raw) : Except Raw (List Part) × List Raw :=
  let (cs, warnings) := unescaped (text.length + 1) text
  (parts (text.length + 1) cs, warnings)

/-! ## Sets -/

def Part.chars (filling : Nat) : Part → Raw
  | .char c | .same c => [c]
  | .range first last =>
      (List.range (last.toNat + 1 - first.toNat)).map fun n => Char.ofNat (first.toNat + n)
  | .named name => allBytes.filter (Shell.Pattern.isInClass (String.ofList name))
  | .times c count? => List.replicate (count?.getD filling) c

def chars (filling : Nat) (parts : List Part) : Raw :=
  parts.flatMap (Part.chars filling)

def hasFilling (parts : List Part) : Bool :=
  parts.any fun
    | .times _ none => true
    | _ => false

/-- Is the part a class of letters of one case? -/
def isCase : Part → Bool
  | .named name => name == "upper".toList || name == "lower".toList
  | _ => false

def isClass : Part → Bool
  | .named _ => true
  | _ => false

/-- Where in a set the parts begin that are classes of letters of one case. -/
def casePlaces (filling : Nat) (parts : List Part) : List Nat :=
  (parts.foldl
    (fun (n, places) part =>
      (n + (part.chars filling).length, if isCase part then n :: places else places))
    (0, [])).2

/-- Keeps one of several neighbours that are alike, if they are in a set. -/
def squeezed (set : Raw) : Raw → Raw
  | a :: b :: rest =>
      if a = b && set.contains a then squeezed set (b :: rest) else a :: squeezed set (b :: rest)
  | cs => cs

/-- The character at the same place in another set, or the last one there. -/
def replaced (source target : Raw) (c : Char) : Char :=
  match (source.length - 1 - ·) <$> source.reverse.idxOf? c with
  | some i => target.getD i (target.getLastD c)
  | none => c

/-! ## What options ask for -/

/-- What is wrong with the number of operands, with a line that explains it. -/
def operandFault? (o : Options) : Option (Raw × Option String) :=
  let least := if o.has 'd' == o.has 's' then 2 else 1
  let most := if o.has 'd' && !o.has 's' then 1 else 2
  let last := Citation.escaped (o.operands.getLastD [])
  if o.operands.isEmpty then some ("missing operand".toList, none)
  else if o.operands.length < least then
    some ("missing operand after ".toList ++ last, some <|
      if o.has 's' then "Two strings must be given when both deleting and squeezing repeats."
      else "Two strings must be given when translating.")
  else if most < o.operands.length then
    some ("extra operand ".toList ++ Citation.escaped (o.operands.getD most []),
      if o.operands.length = 2 then
        some "Only one string may be given when deleting without squeezing repeats."
      else none)
  else none

/-- What is wrong with a set that takes the place of another. -/
def targetFault? (o : Options) (source : Raw) (first second : List Part) : Option String :=
  let target := chars 0 second
  let isComplement := o.hasAny "cC"
  let filling := source.length - target.length
  let isShort := target.length < source.length && !hasFilling second
  let places := (casePlaces filling second).filter (· ≤ source.length)
  if second.any fun | .same _ => true | _ => false then
    some "[=c=] expressions may not appear in string2 when translating"
  else if second.any fun part => isClass part && !isCase part then
    some ("when translating, the only character classes that may appear in\n"
      ++ "string2 are \x27upper\x27 and \x27lower\x27")
  else if !isComplement && !places.all (casePlaces 0 first).contains then
    some "misaligned [:upper:] and/or [:lower:] construct"
  else if isShort && !o.has 't' && target.isEmpty then
    some "when not truncating set1, string2 must be non-empty"
  else if isShort && !o.has 't' && second.getLast?.any isClass then
    some ("when translating with string1 longer than string2,\n"
      ++ "the latter string must not end with a character class")
  else if isComplement && first.any isClass
      && (target.any fun c => some c ≠ target.head?) then
    some ("when translating with complemented character classes,\n"
      ++ "string2 must map all characters in the domain to one")
  else none

/-- What is wrong with the sets. -/
def fault? (o : Options) (source : Raw) (first second : List Part) : Option String :=
  let fillings := second.countP fun
    | .times _ none => true
    | _ => false
  if hasFilling first then some "the [c*] repeat construct may not appear in string1"
  else if o.operands.length < 2 then none
  else if 1 < fillings then some "only one [c*] repeat construct may appear in string2"
  else if !o.has 'd' then targetFault? o source first second
  else if 0 < fillings then
    some "the [c*] construct may appear in string2 only when translating"
  else none

/-- What a text becomes. -/
def exchanged (o : Options) (source : Raw) (second : List Part) (input : Raw) : Raw :=
  if o.has 'd' then
    let kept := input.filter fun b => !source.contains b
    if o.has 's' then squeezed (chars 0 second) kept else kept
  else if o.operands.length < 2 then squeezed source input
  else
    let target := chars (source.length - (chars 0 second).length) second
    let source := if o.has 't' then source.take target.length else source
    let text := input.map (replaced source target)
    if o.has 's' then squeezed target text else text

/-- Exchanges the characters of the input. -/
def run (c : Call) (o : Options) : Effect :=
  let (first?, warnings) := read (o.operands.headD [])
  let (second?, more) := read (o.operands.getD 1 [])
  let warn (e : Effect) (warnings : List Raw) : Effect :=
    warnings.foldl (fun e warning => e.complain c 0 warning) e
  let e := warn (Effect.quiet c 0) warnings
  match first?, second? with
  | .error message, _ => e.complain c 1 message
  | _, .error message => (warn e more).complain c 1 message
  | .ok first, .ok second =>
      let e := warn e more
      let listed := chars 0 first
      let source := if o.hasAny "cC" then allBytes.filter fun b => !listed.contains b else listed
      match fault? o source first second, c.read ['-'] with
      | some message, _ => e.complain c 1 message.toList
      | none, .error reason => e.complain c 1 ("read error: ".toList ++ reason)
      | none, .ok input => (e.say (exchanged o source second input)).afterAll

end Exchange

def tr (c : Call) : Effect :=
  let options := known "AcCdst" "complement=c delete=d squeeze-repeats=s truncate-set1=t"
  withFrontOptions c 1 options fun o =>
    match Exchange.operandFault? o with
    | none => Exchange.run c o
    | some (message, more?) =>
        let e := misused c 1 message
        let hint := e.said.drop 1
        let more := more?.toList.map fun line => Said.err (line.toList ++ ['\n'])
        { e with said := e.said.take 1 ++ more ++ hint }

end SmtScript.Host.Utility
