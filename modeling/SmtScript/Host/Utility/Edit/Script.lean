import SmtScript.Host.Shell.Integer
import SmtScript.Host.Utility.Effect
import SmtScript.Host.Utility.Regular

/-!
# Scripts that edit lines

A script has commands, each a letter with what belongs to it. A command may be bound to lines
by their numbers or by regular expressions, and to all lines from one to another. Braces
hold commands together.
-/

namespace SmtScript.Host.Utility.Edit

/-- A regular expression, or the one that was used last. -/
structure Pattern where
  regular? : Option Regular
  folds : Bool

inductive Address where
  | line (n : Nat)
  | last
  | step (first by_ : Nat)
  | found (p : Pattern)
  /-- So many lines later. -/
  | plus (n : Nat)
  /-- At the next multiple. -/
  | multiple (n : Nat)

/-- How the case of letters is changed. -/
inductive Case where
  | keep
  | upper
  | lower
deriving DecidableEq

/-- A piece of what takes the place of a match. -/
inductive Piece where
  | text (chars : Raw)
  | group (n : Nat)
  /-- The case from here on. -/
  | case (c : Case)
  /-- The case of the next letter. -/
  | nextCase (c : Case)

structure Substitution where
  pattern : Pattern
  pieces : List Piece
  all : Bool
  /-- Which match comes first among those that are replaced. -/
  which : Nat
  prints : Bool
  file? : Option Raw

inductive Action where
  | substitute (s : Substitution)
  | replace (source target : Raw)
  | print
  | printFirst
  | delete
  | deleteFirst
  | quit (status : Nat) (prints : Bool)
  | number
  | append (text : Raw)
  | insert (text : Raw)
  | change (text : Raw)
  | next
  | appendNext
  | hold (adds : Bool)
  | recall (adds : Bool)
  | exchange
  | empty
  | file
  | list (width? : Option Nat)
  | readFile (path : Raw)
  | writeFile (path : Raw)
  /-- Goes on behind a label. With a condition, only if something was replaced, or was not. -/
  | jump (label : Raw) (condition? : Option Bool)
  | label (name : Raw)
  | opening
  | closing

structure Command where
  first? : Option Address
  second? : Option Address
  negated : Bool
  action : Action

/-! ## Reading -/

structure Reading where
  rest : Raw
  extended : Bool

abbrev Reader := StateT Reading (Except Raw)

def failure {α : Type} (message : String) : Reader α :=
  throw ("-e expression #1: ".toList ++ message.toList)

def goOn (rest : Raw) : Reader Unit :=
  modify fun r => { r with rest := rest }

def rest : Reader Raw := do
  return (← get).rest

/-- Takes characters at the front. -/
def takeWhile (p : Char → Bool) : Reader Raw := do
  let cs ← rest
  let taken := cs.takeWhile p
  goOn (cs.drop taken.length)
  return taken

def isBlank (c : Char) : Bool :=
  c == ' ' || c == '\t'

def skipBlanks : Reader Unit := do
  let _ ← takeWhile isBlank

def number : Reader Nat := do
  return Nat.ofDigitChars 10 (← takeWhile Char.isDigit) 0

/-- The byte of a number in some base, if there are digits for it, and what follows. -/
def byte? (base count : Nat) (cs : Raw) : Option (Char × Raw) :=
  let digits := (cs.take count).takeWhile (Shell.Integer.isDigitOf base)
  if digits.isEmpty then none
  else some (Char.ofNat ((Shell.Integer.digits base digits).1 % 256), cs.drop digits.length)

/-- The character that an escape stands for, and what follows it. -/
def escape? (cs : Raw) : Option (Char × Raw) :=
  match cs with
  | 'a' :: rest => some ('\x07', rest)
  | 'f' :: rest => some ('\x0c', rest)
  | 'r' :: rest => some ('\r', rest)
  | 't' :: rest => some ('\t', rest)
  | 'v' :: rest => some ('\x0b', rest)
  | 'd' :: rest => byte? 10 3 rest
  | 'o' :: rest => byte? 8 3 rest
  | 'x' :: rest => byte? 16 2 rest
  | 'c' :: c :: rest => some (Char.ofNat ((c.toUpper.toNat + 64) % 128), rest)
  | _ => none

/-- Is the character one that means something in a regular expression? -/
def isSpecial (c : Char) : Bool :=
  "$*.[\\]^".toList.contains c

/-- What the front of a text before a delimiter stands for, and what follows it. A delimiter with
a backslash loses the backslash, and in brackets it does not count. -/
def unit? (isRegular : Bool) (delimiter : Char) (cs : Raw) : Option (Raw × Raw) :=
  match cs with
  | '\\' :: c :: rest =>
      if c == delimiter then some (if !isRegular && c == '&' then ['\\', c] else [c], rest)
      else if isRegular && c == 'n' then some (['\n'], rest)
      else
        match escape? (c :: rest) with
        | some (d, after) =>
            some (if isSpecial d || !isRegular && d == '&' then ['\\', d] else [d], after)
        | none => some (['\\', c], rest)
  | c :: rest =>
      if c == '\n' && isRegular then none
      else if c == '[' && isRegular then
        match Regular.brackets .loose rest with
        | .ok (_, after) =>
            let inside := rest.take (rest.length - after.length)
            if inside.contains '\n' then some ([c], rest) else some (c :: inside, after)
        | .error _ => some ([c], rest)
      else some ([c], rest)
  | [] => none

/-- The text up to a delimiter, and what follows it. -/
def upTo? (fuel : Nat) (isRegular : Bool) (delimiter : Char) (cs : Raw) : Option (Raw × Raw) :=
  match fuel with
  | 0 => none
  | fuel + 1 =>
      if cs.head? == some delimiter then some ([], cs.drop 1)
      else
        match unit? isRegular delimiter cs with
        | none => none
        | some (kept, rest) =>
            (upTo? fuel isRegular delimiter rest).map fun (text, rest) => (kept ++ text, rest)

/-- The text up to a delimiter. -/
def upTo (isRegular : Bool) (delimiter : Char) (what : String) : Reader Raw := do
  let cs ← rest
  match upTo? (cs.length + 1) isRegular delimiter cs with
  | some (text, after) =>
      goOn after
      return text
  | none => failure ("unterminated " ++ what)

/-- A regular expression from its text, and how many groups it has. No text stands for the
expression that was used last. -/
def pattern (text : Raw) (folds : Bool) : Reader (Pattern × Option Nat) := do
  if text.isEmpty then return (⟨none, folds⟩, none)
  else
    match Regular.read (.editing (← get).extended) text with
    | .ok (e, groups) => return (⟨some e, folds⟩, some groups)
    | .error message => failure (String.ofList message)

/-! ## Addresses -/

/-- A regular expression with the letters behind it. -/
def found (delimiter : Char) : Reader (Option Address) := do
  let text ← upTo true delimiter "address regex"
  let flags ← takeWhile fun c => c == 'I' || c == 'M'
  return some (.found (← pattern text (flags.contains 'I')).1)

def address? (isSecond : Bool) : Reader (Option Address) := do
  match ← rest with
  | '$' :: after =>
      goOn after
      return some .last
  | '/' :: after =>
      goOn after
      found '/'
  | '\\' :: delimiter :: after =>
      goOn after
      found delimiter
  | c :: after =>
      if c.isDigit then
        let n ← number
        match ← rest with
        | '~' :: more =>
            if isSecond then return some (.line n)
            goOn more
            return some (.step n (← number))
        | _ => return some (.line n)
      else if isSecond && c == '+' then
        goOn after
        return some (.plus (← number))
      else if isSecond && c == '~' then
        goOn after
        return some (.multiple (← number))
      else return none
  | [] => return none

/-- One address, or two with a comma between them. A range may begin before the first line. -/
def addresses : Reader (Option Address × Option Address) := do
  let first? ← address? false
  skipBlanks
  match first?, ← rest with
  | some first, ',' :: after =>
      goOn after
      skipBlanks
      match first, ← address? true with
      | _, none => failure "unexpected \x60,\x27"
      | .line 0, some (.found p) => return (some (.line 0), some (.found p))
      | .line 0, some _ => failure "invalid usage of line address 0"
      | first, some second => return (some first, some second)
  | some (.line 0), _ => failure "invalid usage of line address 0"
  | first?, _ => return (first?, none)

/-! ## Commands -/

/-- What takes the place of a match. -/
def pieces (fuel : Nat) (cs : Raw) : List Piece :=
  match fuel, cs with
  | 0, _ | _, [] => []
  | fuel + 1, '&' :: rest => .group 0 :: pieces fuel rest
  | fuel + 1, '\\' :: c :: rest =>
      let piece : Piece :=
        if c.isDigit then .group (c.toNat - '0'.toNat)
        else
          match c with
          | 'n' => .text ['\n']
          | 'U' => .case .upper
          | 'L' => .case .lower
          | 'E' => .case .keep
          | 'u' => .nextCase .upper
          | 'l' => .nextCase .lower
          | _ => .text [c]
      piece :: pieces fuel rest
  | fuel + 1, c :: rest => .text [c] :: pieces fuel rest

/-- The end of a command: of the line, a semicolon, or the brace that closes a block. -/
def ending : Reader Unit := do
  skipBlanks
  match ← rest with
  | [] | '#' :: _ | '\x7d' :: _ => return ()
  | c :: after =>
      if c == ';' || c == '\n' then goOn after
      else failure "extra characters after command"

/-- The path at the end of a line. -/
def path : Reader Raw := do
  skipBlanks
  let path ← takeWhile (· ≠ '\n')
  if path.isEmpty then failure "missing filename in r/R/w/W commands" else return path

/-- The letters and digits behind a substitution. -/
def flags (s : Substitution) (chosen : Bool) (fuel : Nat) : Reader Substitution :=
  match fuel with
  | 0 => return s
  | fuel + 1 => do
      match ← rest with
      | 'g' :: after =>
          if s.all then failure "multiple \x60g\x27 options to \x60s\x27 command"
          goOn after
          flags { s with all := true } chosen fuel
      | 'p' :: after =>
          if s.prints then failure "multiple \x60p\x27 options to \x60s\x27 command"
          goOn after
          flags { s with prints := true } chosen fuel
      | 'i' :: after | 'I' :: after =>
          goOn after
          flags { s with pattern := { s.pattern with folds := true } } chosen fuel
      | 'm' :: after | 'M' :: after =>
          goOn after
          flags s chosen fuel
      | 'w' :: after =>
          goOn after
          return { s with file? := some (← path) }
      | c :: _ =>
          if c.isDigit then
            if chosen then failure "multiple number options to \x60s\x27 command"
            let n ← number
            if n = 0 then failure "number option to \x60s\x27 command may not be zero"
            flags { s with which := n } true fuel
          else if isBlank c then
            goOn ((← rest).drop 1)
            flags s chosen fuel
          else if "\n;#\x7d".toList.contains c then
            ending
            return s
          else failure "unknown option to \x60s\x27"
      | [] => return s

/-- The delimiter of a command that has texts in it. -/
def delimiter (what : String) : Reader Char := do
  match ← rest with
  | c :: after =>
      if c == '\n' || c == '\\' then failure ("unterminated " ++ what)
      else
        goOn after
        return c
  | [] => failure ("unterminated " ++ what)

/-- What follows the letter of a substitution. -/
def substitution : Reader Action := do
  let what := "\x60s\x27 command"
  let delimiter ← delimiter what
  let source ← upTo true delimiter what
  let target ← upTo false delimiter what
  let pieces := pieces (target.length + 1) target
  let s ← flags ⟨⟨none, false⟩, pieces, false, 1, false, none⟩ false ((← rest).length + 1)
  let (p, groups?) ← pattern source s.pattern.folds
  let tooMany := pieces.any fun
    | .group n => groups?.any (· < n)
    | _ => false
  if tooMany then failure "invalid reference on \x60s\x27 command's RHS"
  return .substitute { s with pattern := p }

/-- The characters of a text in which a backslash keeps the next character. -/
def plain : Raw → Raw
  | '\\' :: 'n' :: rest => '\n' :: plain rest
  | '\\' :: '\\' :: rest => '\\' :: plain rest
  | c :: rest => c :: plain rest
  | [] => []

def replacing : Reader Action := do
  let what := "\x60y\x27 command"
  let delimiter ← delimiter what
  let source := plain (← upTo false delimiter what)
  let target := plain (← upTo false delimiter what)
  if source.length ≠ target.length then
    failure "strings for \x60y\x27 command are different lengths"
  ending
  return .replace source target

/-- The lines of a text, up to one that does not end with a backslash, and what follows. -/
def textLines (fuel : Nat) (cs : Raw) : Raw × Raw :=
  match fuel with
  | 0 => ([], [])
  | fuel + 1 =>
      let (c?, rest) : Option Char × Raw := match cs with
        | '\\' :: c :: rest =>
            match escape? (c :: rest) with
            | some (d, after) => (some d, after)
            | none => (some (if c == 'n' then '\n' else c), rest)
        | '\n' :: rest => (none, rest)
        | c :: rest => (some c, rest)
        | [] => (none, [])
      match c? with
      | none => ([], rest)
      | some c =>
          let (text, after) := textLines fuel rest
          (c :: text, after)

/-- The text after a command that takes one. -/
def text : Reader Raw := do
  skipBlanks
  let cs ← rest
  if cs.isEmpty || cs.head? == some '\n' then
    failure "expected \\ after \x60a\x27, \x60c\x27 or \x60i\x27"
  let cs := match cs with
    | '\\' :: more =>
        match more.dropWhile isBlank with
        | '\n' :: lines => lines
        | [] => []
        | _ => more
    | _ => cs
  let (text, after) := textLines (cs.length + 1) cs
  goOn after
  return if cs.isEmpty then [] else text ++ ['\n']

/-- The name of a label, up to a blank or a semicolon. The brace that closes a block ends it too
where one jumps to it. -/
def labelName (jumps : Bool) : Reader Raw := do
  skipBlanks
  takeWhile fun c => !isBlank c && c ≠ ';' && c ≠ '\n' && !(jumps && c == '\x7d')

/-- A command that is a letter only. -/
def bare (a : Action) : Reader Action := do
  ending
  return a

def action (addresses : Nat) : Reader Action := do
  match ← rest with
  | [] => failure "missing command"
  | c :: after =>
      goOn after
      match c with
      | 's' => substitution
      | 'y' => replacing
      | 'p' => bare .print
      | 'P' => bare .printFirst
      | 'd' => bare .delete
      | 'D' => bare .deleteFirst
      | 'q' | 'Q' =>
          if 1 < addresses then failure "command only uses one address"
          skipBlanks
          let status ← number
          bare (.quit status (c == 'q'))
      | '=' => bare .number
      | 'a' => return .append (← text)
      | 'i' => return .insert (← text)
      | 'c' => return .change (← text)
      | 'n' => bare .next
      | 'N' => bare .appendNext
      | 'h' => bare (.hold false)
      | 'H' => bare (.hold true)
      | 'g' => bare (.recall false)
      | 'G' => bare (.recall true)
      | 'x' => bare .exchange
      | 'z' => bare .empty
      | 'F' => bare .file
      | 'l' =>
          skipBlanks
          let digits ← takeWhile Char.isDigit
          bare (.list (if digits.isEmpty then none else some (Nat.ofDigitChars 10 digits 0)))
      | 'r' => return .readFile (← path)
      | 'w' => return .writeFile (← path)
      | 'b' | 't' | 'T' =>
          let label ← labelName true
          bare (.jump label (if c == 'b' then none else some (c == 't')))
      | ':' =>
          if 0 < addresses then failure ": doesn\x27t want any addresses"
          let name ← labelName false
          if name.isEmpty then failure "\":\" lacks a label"
          return .label name
      | '\x7b' => return .opening
      | '\x7d' =>
          if 0 < addresses then failure "\x7d doesn\x27t want any addresses"
          bare .closing
      | _ => failure ("unknown command: \x60" ++ String.ofList [c] ++ "\x27")

/-- All commands of a script, in which so many blocks are open. -/
def commands (fuel depth : Nat) : Reader (List Command) :=
  match fuel with
  | 0 => return []
  | fuel + 1 => do
      let _ ← takeWhile fun c => isBlank c || c == ';' || c == '\n'
      match ← rest with
      | [] => if depth = 0 then return [] else failure "unmatched \x60\x7b\x27"
      | '#' :: _ =>
          let _ ← takeWhile (· ≠ '\n')
          commands fuel depth
      | _ =>
          let (first?, second?) ← addresses
          skipBlanks
          let marks ← takeWhile (· == '!')
          if 1 < marks.length then failure "multiple \x60!\x27s"
          skipBlanks
          let a ← action (first?.toList.length + second?.toList.length)
          let command : Command := ⟨first?, second?, !marks.isEmpty, a⟩
          match a, depth with
          | .opening, _ => return command :: (← commands fuel (depth + 1))
          | .closing, 0 => failure "unexpected \x60\x7d\x27"
          | .closing, depth + 1 => return command :: (← commands fuel depth)
          | _, _ => return command :: (← commands fuel depth)

/-- The commands of a script. A jump needs its label. With a message there is a status. -/
def read (extended : Bool) (text : Raw) : Except (Nat × Raw) (List Command) := do
  let script ← match (commands (text.length + 1) 0).run ⟨text, extended⟩ with
    | .ok (script, _) => pure script
    | .error message => throw (1, message)
  let labels := script.filterMap fun c => match c.action with
    | .label name => some name
    | _ => none
  let missing := script.findSome? fun c => match c.action with
    | .jump label _ => if label.isEmpty || labels.contains label then none else some label
    | _ => none
  match missing with
  | some label => throw (4, "can\x27t find label for jump to ".toList ++ Citation.plain label)
  | none => return script

end SmtScript.Host.Utility.Edit
