import SmtScript.Host.Shell.Syntax

/-!
# Reading shell scripts

A reader takes a piece of a script from the front of a text, or says what is wrong there. The
text of a here-document begins after the line that asks for it, so a reader keeps a list of those
that are still to come. The first argument of the mutual readers bounds how deep and how
long they go; the length of the text is enough.
-/

namespace SmtScript.Host.Shell

/-- A here-document that begins after the line. -/
structure Pending where
  number : Nat
  delimiter : Raw
  /-- Was the delimiter quoted, so that nothing is expanded? -/
  literal : Bool
  /-- Do tabs at the start of a line not count? -/
  stripped : Bool

structure Reading where
  rest : Raw
  /-- The number of the line in which the text ends. -/
  lastLine : Nat
  /-- Are there backslashes at the ends of lines? -/
  joins : Bool
  /-- How much was left where lines were joined that have not been passed by yet. -/
  joined : List Nat
  aliases : List (Raw × Raw)
  /-- The aliases whose text is being read, with how much is left after it. -/
  used : List (Raw × Nat)
  /-- How much is left after an alias with a blank at its end. -/
  blank? : Option Nat
  pending : List Pending
  bodies : Bodies
  /-- The number of the next here-document. -/
  next : Nat
  /-- Was the end of the text reached before something was complete? -/
  ended : Bool
  /-- Is the end that was met before still to be passed by? -/
  stalled : Bool
  /-- Does a text end without a quotation mark, as that of a here-document does? -/
  bounded : Bool
  /-- The here-document whose text is being read. -/
  body? : Option Pending
  /-- Was the line met that ends it? -/
  closed : Bool

/-- What is wrong with a text. -/
structure Misread where
  line : Nat
  message : Raw
  /-- Is only something missing at the end? -/
  atEnd : Bool

abbrev Reader := StateT Reading (Except Misread)

/-- Is there a backslash at the end of a line? -/
def hasJoins : Raw → Bool
  | '\\' :: '\n' :: _ => true
  | _ :: rest => hasJoins rest
  | [] => false

/-- Joins lines in the text up to the first character behind which a backslash might mean something
else. Gives how much is left after each place. -/
def joinLines : Raw → Raw × List Nat
  | '\\' :: '\n' :: rest =>
      let (text, places) := joinLines rest
      (text, text.length :: places)
  | '\\' :: c :: rest =>
      let (text, places) := joinLines rest
      ('\\' :: c :: text, places)
  | c :: rest =>
      if c == '\x27' || c == '\n' || c == '#' then (c :: rest, [])
      else
        let (text, places) := joinLines rest
        (c :: text, places)
  | [] => ([], [])

namespace Reading

/-- Goes on with what is left. -/
def resume (r : Reading) (cs : Raw) : Reading :=
  if r.joins then
    let (text, places) := joinLines cs
    { r with rest := text, joined := places ++ r.joined.filter (· < text.length) }
  else { r with rest := cs }

/-- Begins with a text whose first line has a number. -/
def start (text : Raw) (line next : Nat) (aliases : List (Raw × Raw)) : Reading :=
  Reading.resume
    { rest := text, lastLine := line + text.count '\n', joins := hasJoins text, joined := []
      aliases := aliases, used := [], blank? := none, pending := [], bodies := [], next := next
      ended := false, stalled := false, bounded := false, body? := none, closed := false }
    text

/-- Begins with a text within another one. -/
def within (r : Reading) (text : Raw) : Reading :=
  start text 1 r.next r.aliases

/-- What can be read: nothing behind the end of a here-document. -/
def front (r : Reading) : Raw :=
  if r.closed then [] else r.rest

/-- Goes on behind the delimiter of a here-document: its line counts, even where the script ends
with it. -/
def afterDelimiter (r : Reading) (after : Raw) : Reading :=
  { r with rest := after.drop 1, lastLine := r.lastLine + (if after.isEmpty then 1 else 0) }

/-- Ends a here-document. -/
def close (r : Reading) : Reading :=
  { r with closed := true }

/-- Goes on at the start of a line, where a here-document may end. -/
def atLineStart (r : Reading) (cs : Raw) : Reading :=
  match r.body? with
  | none => r.resume cs
  | some p =>
      let cs := if p.stripped then cs.dropWhile (· = '\t') else cs
      let after := cs.drop p.delimiter.length
      let isEnd := !cs.isEmpty && cs.take p.delimiter.length == p.delimiter
        && after.head?.all (· = '\n')
      if isEnd then (r.afterDelimiter after).close else r.resume cs

def line (r : Reading) : Nat :=
  r.lastLine - r.rest.count '\n' - (r.joined.filter (· < r.rest.length)).length

end Reading

/-! ## Characters and blanks -/

def isNameStart (c : Char) : Bool :=
  c.isAlpha || c == '_'

def isNameRest (c : Char) : Bool :=
  c.isAlphanum || c == '_'

def isName (text : Raw) : Bool :=
  text.head?.any isNameStart && text.all isNameRest

/-- Parameters that are named by a single character. -/
def isSpecialParam (c : Char) : Bool :=
  "@*#?$!-".toList.contains c

/-- Ends an unquoted word. -/
def isMeta (c : Char) : Bool :=
  " \t\n;&|()<>".toList.contains c

/-- Drops blanks, joined lines and a comment. -/
def dropBlanks : Raw → Raw
  | [] => []
  | '\\' :: '\n' :: rest => dropBlanks rest
  | c :: rest =>
      if c == ' ' || c == '\t' then dropBlanks rest
      else if c == '#' then rest.dropWhile (· ≠ '\n')
      else c :: rest

/-- The plain word at the front, which may be a reserved one. -/
def plainWord (cs : Raw) : Raw :=
  cs.takeWhile fun c => !isMeta c

def reserved : List String :=
  ["!", "case", "do", "done", "elif", "else", "esac", "fi", "for", "if", "in", "then", "until",
    "while", "\x7b", "\x7d"]

/-- Reserved words that end a list of commands. -/
def closing : List String :=
  ["then", "else", "elif", "fi", "do", "done", "esac", "\x7d"]

def isOneOf (words : List String) (text : Raw) : Bool :=
  words.any fun w => w.toList = text

/-- Does a list of commands end here? -/
def endsScript (cs : Raw) : Bool :=
  match cs with
  | [] | ')' :: _ | ';' :: ';' :: _ => true
  | _ => isOneOf closing (plainWord cs)

/-- The stream and the operator of a redirection at the front. A stream has one digit. -/
def redirectHead? (cs : Raw) : Option (Option Nat × Raw) :=
  match cs with
  | '<' :: _ | '>' :: _ => some (none, cs)
  | d :: c :: rest =>
      if d.isDigit && (c == '<' || c == '>') then some (some (d.toNat - '0'.toNat), c :: rest)
      else none
  | _ => none

/-- What stands at the front, as a message names it. -/
def tokenName (cs : Raw) : Raw :=
  let quoted (text : Raw) : Raw := '"' :: text ++ ['"']
  match cs with
  | [] => "end of file".toList
  | '\n' :: _ => "newline".toList
  | '&' :: '&' :: _ => quoted ['&', '&']
  | '|' :: '|' :: _ => quoted ['|', '|']
  | ';' :: ';' :: _ => quoted [';', ';']
  | c :: _ =>
      if (redirectHead? cs).isSome then "redirection".toList
      else if isMeta c then quoted [c]
      else if isOneOf reserved (plainWord cs) then quoted (plainWord cs)
      else "word".toList

/-- Fails because something is missing at the end of the text. -/
def failure {α : Type} (message : String) : Reader α := do
  let r ← get
  throw ⟨if r.closed then r.line else r.lastLine, message.toList, !r.closed⟩

/-- Fails because a quotation mark or a brace is missing at the end. -/
def unterminated {α : Type} (quoted : Bool) : Reader α := do
  let isOpen := quoted && !(← get).bounded
  failure (if isOpen then "Unterminated quoted string" else "Missing '\x7d'")

/-- Fails in the line that is read. -/
def failureHere {α : Type} (message : String) : Reader α := do
  throw ⟨(← get).line, message.toList, false⟩

/-- Fails because of what stands at the front. Where no word is reserved, each is just a word. -/
def unexpectedAt {α : Type} (plain : Bool) (expected? : Option String) : Reader α := do
  let r ← get
  let rest := dropBlanks r.rest
  let line := { r with rest := rest }.line + (if rest.head? == some '\n' then 1 else 0)
  let isWord := rest.head?.any (fun c => !isMeta c) && (redirectHead? rest).isNone
  let found := if plain && isWord then "word".toList else tokenName rest
  let hint := match expected? with
    | some name => (" (expecting " ++ name ++ ")").toList
    | none => []
  throw ⟨line, found ++ " unexpected".toList ++ hint, rest.isEmpty⟩

/-- Fails because of what stands at the front. -/
def unexpected {α : Type} (expected? : Option String) : Reader α :=
  unexpectedAt false expected?

/-! ## Small readers -/

def rest : Reader Raw := do
  return dropBlanks (← get).rest

/-- Goes on with what is left. -/
def goOn (cs : Raw) : Reader Unit :=
  modify fun r => r.resume cs

/-- Does not count the ends of lines in a text that is passed by. -/
def uncount (text : Raw) : Reader Unit :=
  modify fun r => { r with lastLine := r.lastLine - text.count '\n' }

def line : Reader Nat := do
  return (← get).line

/-- Takes a reserved word. -/
def keyword (word : String) : Reader Unit := do
  let cs ← rest
  if plainWord cs = word.toList then goOn (cs.drop word.length)
  else unexpected (some ("\"" ++ word ++ "\""))

def closeParen : Reader Unit := do
  match ← rest with
  | ')' :: cs => goOn cs
  | _ => unexpected (some "\")\"")

/-- A name and an equals sign before the value. -/
def assignment? (word : Word) : Option (Raw × Word) :=
  match word with
  | .text chars false :: parts =>
      let name := chars.takeWhile isNameRest
      match chars.drop name.length with
      | '=' :: value =>
          if isName name then
            some (name, if value.isEmpty then parts else .text value false :: parts)
          else none
      | _ => none
  | _ => none

/-- The text of a word in which nothing is quoted or expanded. -/
def plainText? (word : Word) : Option Raw :=
  match word with
  | [.text chars false] => some chars
  | _ => none

def redirectKind : Raw → RedirectKind × Nat × Raw
  | '>' :: '>' :: rest => (.append, 1, rest)
  | '>' :: '&' :: rest => (.duplicate, 1, rest)
  | '>' :: '|' :: rest => (.clobber, 1, rest)
  | '>' :: rest => (.output, 1, rest)
  | '<' :: '&' :: rest => (.duplicate, 0, rest)
  | '<' :: '>' :: rest => (.inputOutput, 0, rest)
  | '<' :: rest => (.input, 0, rest)
  | rest => (.input, 0, rest)

/-- The text in backquotes, after the opening one, and what follows. A backslash keeps a
backquote, a backslash or a dollar sign, and in quotes a quotation mark. -/
def backquoted? (quoted : Bool) : Raw → Option (Raw × Raw)
  | [] => none
  | '\x60' :: rest => some ([], rest)
  | '\\' :: '\n' :: rest => backquoted? quoted rest
  | '\\' :: c :: rest =>
      let kept := if "\\\x60$".toList.contains c || quoted && c == '"' then [c] else ['\\', c]
      (backquoted? quoted rest).map fun (text, rest) => (kept ++ text, rest)
  | c :: rest => (backquoted? quoted rest).map fun (text, rest) => (c :: text, rest)

/-! ## Here-documents -/

/-- The text of a delimiter, whether any of it is quoted, and what follows. -/
def delimiter? (fuel : Nat) (cs : Raw) : Option (Raw × Bool × Raw) :=
  match fuel with
  | 0 => none
  | fuel + 1 =>
      match cs with
      | [] => some ([], false, [])
      | '\\' :: c :: rest =>
          (delimiter? fuel rest).map fun (text, _, rest) => (c :: text, true, rest)
      | c :: rest =>
          if c == '\x27' || c == '"' then
            let inside := rest.takeWhile (· ≠ c)
            match rest.drop inside.length with
            | [] => none
            | _ :: after =>
                (delimiter? fuel after).map fun (text, _, rest) => (inside ++ text, true, rest)
          else if isMeta c then some ([], false, cs)
          else (delimiter? fuel rest).map fun (text, quoted, rest) => (c :: text, quoted, rest)

/-- The text up to the line of the delimiter, what follows that, and whether there is such a
line. -/
def bodyText (fuel : Nat) (p : Pending) (cs : Raw) : Raw × Raw × Bool :=
  match fuel with
  | 0 => ([], cs, false)
  | fuel + 1 =>
      if cs.isEmpty then ([], [], false)
      else
        let whole := cs.takeWhile (· ≠ '\n')
        let after := cs.drop whole.length
        let line := if p.stripped then whole.dropWhile (· = '\t') else whole
        if line = p.delimiter then ([], after, true)
        else
          let (text, rest, found) := bodyText fuel p (after.drop 1)
          (line ++ after.take 1 ++ text, rest, found)

/-- Drops joined ends of lines at the front. -/
def dropJoins : Raw → Raw
  | '\\' :: '\n' :: rest => dropJoins rest
  | cs => cs

/-- Takes what stands before a single quotation mark, and that. -/
def readLiteral (fuel : Nat) : Reader Raw :=
  match fuel with
  | 0 => failure "too long"
  | fuel + 1 => do
      let r ← get
      let cs := r.front
      let inside := cs.takeWhile fun c => c ≠ '\x27' && !(c == '\n' && r.body?.isSome)
      match cs.drop inside.length with
      | [] => unterminated true
      | '\n' :: after =>
          set (r.atLineStart after)
          return inside ++ '\n' :: (← readLiteral fuel)
      | _ :: after =>
          goOn after
          return inside

/-! ## Words and commands -/

/-- Where a sequence of parts ends. -/
inductive Ending where
  /-- Before a blank or an operator. -/
  | word
  | quote
  | brace
  /-- Two closing parentheses, after as many single ones as there are open. -/
  | parens (depth : Nat)
  /-- The end of the text. -/
  | text
deriving DecidableEq

/-- Can the character stand in the middle of a text? -/
def isPlain (ending : Ending) (quoted : Bool) (c : Char) : Bool :=
  !(c == '\\' || c == '$' || c == '\x60') &&
    match ending with
    | .word => !isMeta c && c != '"' && c != '\x27'
    | .quote => c != '"'
    | .brace => c != '\x7d' && c != '"' && (quoted || c != '\x27')
    | .parens _ => c != '(' && c != ')'
    | .text => true

/-- Does a backslash in quotes keep the character? -/
def isKept (ending : Ending) (c : Char) : Bool :=
  "\\\x60$".toList.contains c || c == '"' && ending != .text || c == '\x7d' && ending == .brace

/-- Joins neighbouring texts. -/
def joinTexts : Word → Word
  | .text a p :: .text b q :: rest =>
      if p == q then joinTexts (.text (a ++ b) p :: rest)
      else .text a p :: joinTexts (.text b q :: rest)
  | part :: rest => part :: joinTexts rest
  | [] => []
termination_by word => word.length

/-- What the operator of a parameter expression is, and what follows it. -/
def paramOp : Raw → ParamOp × Bool × Raw
  | ':' :: '-' :: rest => (.fallback, true, rest)
  | ':' :: '+' :: rest => (.replacement, true, rest)
  | ':' :: '=' :: rest => (.assignment, true, rest)
  | ':' :: '?' :: rest => (.demand, true, rest)
  | '-' :: rest => (.fallback, false, rest)
  | '+' :: rest => (.replacement, false, rest)
  | '=' :: rest => (.assignment, false, rest)
  | '?' :: rest => (.demand, false, rest)
  | '#' :: '#' :: rest => (.cutFront true, false, rest)
  | '#' :: rest => (.cutFront false, false, rest)
  | '%' :: '%' :: rest => (.cutBack true, false, rest)
  | '%' :: rest => (.cutBack false, false, rest)
  | '\x7d' :: rest => (.value, false, '\x7d' :: rest)
  | ':' :: '\x7d' :: rest => (.last, false, rest)
  | ':' :: rest => (.unknown, false, rest.drop 1)
  | _ :: rest => (.unknown, false, rest)
  | [] => (.unknown, false, [])

/-- The name in braces, whether its length is asked for, and what follows. -/
def bracedName (cs : Raw) : Raw × Bool × Raw :=
  let run (cs : Raw) : Raw :=
    match cs with
    | c :: _ =>
        if isNameStart c then cs.takeWhile isNameRest
        else if c.isDigit then cs.takeWhile Char.isDigit
        else []
    | [] => []
  match cs with
  | '#' :: c :: rest =>
      let name := run (c :: rest)
      if !name.isEmpty then (name, true, (c :: rest).drop name.length)
      else if c ≠ '\x7d' && rest.head? == some '\x7d' then
        if isSpecialParam c then ([c], true, rest) else ([], false, rest)
      else (['#'], false, c :: rest)
  | c :: rest =>
      if isSpecialParam c then ([c], false, rest)
      else (run cs, false, cs.drop (run cs).length)
  | [] => ([], false, [])

/-- A compound command with redirections behind it; those of a subshell are its own, in the place
of the ones it had within a group. -/
def redirect (line : Nat) (command : Command) (redirects : List Redirect) : Command :=
  match command with
  | .subshell start body _ => .subshell start body redirects
  | command => .redirected line command redirects

/-- What follows the operator at the front. -/
def afterToken (cs : Raw) : Raw :=
  match cs with
  | '&' :: '&' :: rest | '|' :: '|' :: rest | ';' :: ';' :: rest => rest
  | '<' :: _ | '>' :: _ => (redirectKind cs).2.2
  | cs => cs.drop 1

mutual

/-- The script in backquotes, after the opening one. -/
def readBackquoted (fuel : Nat) (quoted : Bool) : Reader Part :=
  match fuel with
  | 0 => failure "too long"
  | fuel + 1 => do
      match backquoted? quoted (← get).rest with
      | none => failure "EOF in backquote substitution"
      | some (text, after) =>
          let outer ← get
          let text := if outer.stalled then [] else text
          let outer := { outer with stalled := false }
          set (outer.within text)
          let script ← readScript fuel true
          let inner ← get
          set { outer with bodies := outer.bodies ++ inner.bodies, next := inner.next }
          goOn after
          return .output script quoted

/-- A parameter expression, after the opening brace. -/
def readBraced (fuel : Nat) (quoted : Bool) : Reader Part :=
  match fuel with
  | 0 => failure "too long"
  | fuel + 1 => do
      let (name, asksLength, behind) := bracedName (← get).rest
      let (op, orEmpty, after) :=
        if name.isEmpty && behind.head? ≠ some '\x7d' then (.unknown, false, behind.drop 1)
        else paramOp behind
      let isWrong := asksLength && op != .value
      if op == .unknown && !isWrong then uncount (behind.take (behind.length - after.length))
      goOn (if isWrong then behind else after)
      let wordQuoted := match op with
        | .cutFront _ | .cutBack _ => asksLength && quoted
        | _ => quoted
      let word ← readParts fuel .brace wordQuoted
      let op := if name.isEmpty || isWrong then .unknown else if asksLength then .length else op
      return .param name op orEmpty word quoted

/-- What follows a dollar sign. -/
def readDollar (fuel : Nat) (quoted : Bool) : Reader Part :=
  match fuel with
  | 0 => failure "too long"
  | fuel + 1 => do
      match (← get).rest with
      | '(' :: '(' :: after =>
          goOn after
          return .arithmetic (← readParts fuel (.parens 0) true) quoted
      | '(' :: after =>
          let outer ← get
          set { outer with pending := [], bounded := false, body? := none }
          goOn (if outer.stalled then [] else after)
          let script ← readScript fuel true
          closeParen
          modify fun r =>
            { r with pending := outer.pending, bounded := outer.bounded, body? := outer.body? }
          return .output script quoted
      | '\x7b' :: after =>
          goOn after
          readBraced fuel quoted
      | cs@(c :: after) =>
          if isNameStart c then
            goOn (cs.dropWhile isNameRest)
            return .param (cs.takeWhile isNameRest) .value false [] quoted
          else if c.isDigit || isSpecialParam c then
            goOn after
            return .param [c] .value false [] quoted
          else return .text ['$'] quoted
      | [] => return .text ['$'] quoted

/-- One part of a text in quotes or of an unquoted one, at a character that is not plain. -/
def readSpecial (fuel : Nat) (ending : Ending) (quoted : Bool) : Reader (List Part) :=
  match fuel with
  | 0 => failure "too long"
  | fuel + 1 => do
      match (← get).rest with
      | ['\\'] =>
          goOn []
          return [.text ['\\'] true]
      | '\\' :: '\n' :: after =>
          goOn after
          return []
      | '\\' :: c :: after =>
          goOn after
          return [.text (if quoted && !isKept ending c then ['\\', c] else [c]) true]
      | '$' :: after =>
          goOn after
          return [← readDollar fuel quoted]
      | '\x60' :: after =>
          goOn after
          return [← readBackquoted fuel quoted]
      | '"' :: after =>
          goOn after
          let inside ← readParts fuel .quote true
          match inside with
          | [.param ['@'] .value _ _ _] => return if quoted then inside else [inside.headD .mark]
          | _ => return if quoted then inside else .mark :: inside
      | '\x27' :: after =>
          modify fun r => { r with rest := after }
          return [.mark, .text (← readLiteral fuel) true]
      | c :: after =>
          goOn after
          return [.text [c] quoted]
      | [] => return []

/-- Parts up to an ending, which is taken where it is a character of its own. -/
def readParts (fuel : Nat) (ending : Ending) (quoted : Bool) : Reader (List Part) :=
  match fuel with
  | 0 => failure "too long"
  | fuel + 1 => do
      let r ← get
      let cs := r.front
      let plain := cs.takeWhile fun c =>
        isPlain ending quoted c && !(c == '\n' && r.body?.isSome)
      if !r.closed then goOn (cs.drop plain.length)
      let before : List Part := if plain.isEmpty then [] else [.text plain quoted]
      match ending, cs.drop plain.length with
      | .word, [] | .text, [] => return before
      | .quote, [] => unterminated true
      | .brace, [] => unterminated quoted
      | .parens _, [] => failure "Missing '))'"
      | _, '\n' :: after =>
          if ending = .word || !isPlain ending quoted '\n' then return before
          else
            modify fun r => r.atLineStart after
            return before ++ .text ['\n'] quoted :: (← readParts fuel ending quoted)
      | .word, c :: _ =>
          if isMeta c then return before
          else
            let special ← readSpecial fuel ending quoted
            return before ++ special ++ (← readParts fuel ending quoted)
      | .quote, '"' :: after =>
          goOn after
          return before
      | .brace, '\x7d' :: after =>
          goOn after
          return before
      | .parens depth, '(' :: after =>
          goOn after
          return before ++ .text ['('] true :: (← readParts fuel (.parens (depth + 1)) quoted)
      | .parens 0, ')' :: ')' :: after =>
          goOn after
          return before
      | .parens depth, ')' :: after =>
          goOn after
          return before ++ .text [')'] true :: (← readParts fuel (.parens (depth - 1)) quoted)
      | _, _ =>
          return before ++ (← readSpecial fuel ending quoted) ++ (← readParts fuel ending quoted)

/-- The parts of a word; none where no word begins. -/
def readWord (fuel : Nat) : Reader Word :=
  match fuel with
  | 0 => failure "too long"
  | fuel + 1 => do
      goOn (← rest)
      return joinTexts (← readParts fuel .word false)

/-- Reads the here-documents that begin here. -/
def readBodies (fuel : Nat) : Reader Unit :=
  match fuel with
  | 0 => failure "too long"
  | fuel + 1 => do
      let outer ← get
      match outer.pending with
      | [] => return ()
      | p :: others =>
          if p.literal then
            let (text, after, found) := bodyText (outer.rest.length + 1) p outer.rest
            let next := if found then outer.afterDelimiter after else { outer with rest := after }
            set { next with
              pending := others, ended := outer.ended || !found
              bodies := (p.number, [.text text true]) :: outer.bodies }
          else
            let inside := { outer with
              pending := [], bounded := true, body? := some p, closed := false }
            set (inside.atLineStart (dropJoins outer.rest))
            let body ← readParts fuel .text true
            modify fun r => { r with
              pending := others, bounded := outer.bounded, body? := outer.body?
              closed := outer.closed, ended := outer.ended || !r.closed
              bodies := (p.number, joinTexts body) :: r.bodies }
          readBodies fuel

/-- Takes the end of a line, and the here-documents after it. -/
def readLineEnd (fuel : Nat) : Reader Unit :=
  match fuel with
  | 0 => failure "too long"
  | fuel + 1 => do
      let after := (← rest).drop 1
      modify fun r => { r with rest := after }
      readBodies fuel
      goOn (← get).rest

/-- Puts the text of an alias in the place of a word at the front that is one, unless it is being
read already. -/
def expandAlias (fuel : Nat) : Reader Unit :=
  match fuel with
  | 0 => return ()
  | fuel + 1 => do
      let r ← get
      if r.aliases.isEmpty then return ()
      else
        let cs := dropBlanks r.rest
        let word := plainWord cs
        let isUsed := r.used.any fun (name, left) => name == word && left < cs.length
        match if isUsed || isOneOf reserved word then none else r.aliases.lookup word with
        | none => return ()
        | some text =>
            let after := cs.drop word.length
            let endsBlank := text.getLast?.any fun c => c == ' ' || c == '\t'
            set { r with
              used := (word, after.length) :: r.used
              blank? := if endsBlank then some after.length else r.blank? }
            goOn (text ++ after)
            expandAlias fuel

/-- Does the same for the next word of a command if an alias with a blank at its end is over. -/
def expandNext (fuel : Nat) : Reader Unit :=
  match fuel with
  | 0 => return ()
  | fuel + 1 => do
      let r ← get
      let left := (dropBlanks r.rest).length
      if r.blank?.any fun place => place ≤ r.rest.length && left ≤ place then
        set { r with blank? := none }
        expandAlias fuel

/-- Takes empty lines. -/
def skipLines (fuel : Nat) : Reader Unit :=
  match fuel with
  | 0 => failure "too long"
  | fuel + 1 => do
      match ← rest with
      | '\n' :: _ =>
          readLineEnd fuel
          skipLines fuel
      | cs => goOn cs

/-- All redirections at the front. -/
def readRedirects (fuel : Nat) : Reader (List Redirect) :=
  match fuel with
  | 0 => failure "too long"
  | fuel + 1 => do
      match redirectHead? (← rest) with
      | none => return []
      | some (stream?, '<' :: '<' :: after) =>
          let stripped := after.head? == some '-'
          let after := dropBlanks (if stripped then after.drop 1 else after)
          goOn after
          if after.head?.all isMeta then unexpected none
          match delimiter? (after.length + 1) after with
          | none => failure "Unterminated quoted string"
          | some (delimiter, literal, after) =>
              modify fun r =>
                { r with next := r.next + 1
                         pending := r.pending ++ [⟨r.next, delimiter, literal, stripped⟩] }
              goOn after
              let number := (← get).next - 1
              return .here (stream?.getD 0) number :: (← readRedirects fuel)
      | some (stream?, cs) =>
          let (kind, standard, after) := redirectKind cs
          goOn after
          let target ← readWord fuel
          if target.isEmpty then unexpected none
          else return .mk (stream?.getD standard) kind target :: (← readRedirects fuel)

/-- The assignments, words and redirections of a simple command, or a function. -/
def readSimple (fuel : Nat) (start : Nat) (assignments : List (Raw × Word)) (words : List Word)
    (redirects : List Redirect) : Reader Command :=
  match fuel with
  | 0 => failure "too long"
  | fuel + 1 => do
      let redirects := redirects ++ (← readRedirects fuel)
      if words.isEmpty then expandAlias fuel else expandNext fuel
      match redirectHead? (← rest), words with
      | some _, _ => readSimple fuel start assignments words redirects
      | none, _ =>
      match ← rest, words with
      | '(' :: after, [word] =>
          if !assignments.isEmpty || !redirects.isEmpty then
            return .simple start assignments words redirects
          else
            goOn after
            match ← rest with
            | ')' :: cs => goOn cs
            | _ => unexpectedAt true (some "\")\"")
            match plainText? word with
            | some name =>
                if isName name && !isSpecial name then
                  skipLines fuel
                  return .define name (← readCommand fuel)
                else failureHere "Bad function name"
            | none => failureHere "Bad function name"
      | _, _ =>
          let word ← readWord fuel
          if word.isEmpty then
            if assignments.isEmpty && words.isEmpty && redirects.isEmpty then unexpected none
            else return .simple start assignments words redirects
          else
            match words, assignment? word with
            | [], some a => readSimple fuel start (assignments ++ [a]) words redirects
            | _, _ => readSimple fuel start assignments (words ++ [word]) redirects

/-- The words after `in`, up to the end of the line. -/
def readItems (fuel : Nat) : Reader (List Word) :=
  match fuel with
  | 0 => failure "too long"
  | fuel + 1 => do
      let word ← readWord fuel
      if word.isEmpty then
        match ← rest with
        | '\n' :: _ => return []
        | ';' :: ';' :: _ => unexpected none
        | ';' :: after =>
            goOn after
            return []
        | _ => unexpected none
      else return word :: (← readItems fuel)

/-- Patterns with bars between them, up to the closing parenthesis. An operator in the place of a
pattern counts as the word before the patterns. -/
def readPatterns (fuel : Nat) : Reader (List Word) :=
  match fuel with
  | 0 => failure "too long"
  | fuel + 1 => do
      let word ← readWord fuel
      if word.isEmpty then goOn (afterToken (← rest))
      let pattern := if word.isEmpty then [.text "in".toList false] else word
      match ← rest with
      | '|' :: '|' :: _ => unexpected (some "\")\"")
      | '|' :: after =>
          goOn after
          return pattern :: (← readPatterns fuel)
      | _ =>
          closeParen
          return [pattern]

/-- The cases of a choice, up to the word that ends it. -/
def readCases (fuel : Nat) : Reader (List (List Word × Script)) :=
  match fuel with
  | 0 => failure "too long"
  | fuel + 1 => do
      skipLines fuel
      let cs ← rest
      if plainWord cs = "esac".toList then
        keyword "esac"
        return []
      else
        match cs with
        | '(' :: after => goOn after
        | _ => goOn cs
        let patterns ← readPatterns fuel
        let body ← readScript fuel true
        match ← rest with
        | ';' :: ';' :: after =>
            goOn after
            return (patterns, body) :: (← readCases fuel)
        | cs =>
            if plainWord cs = "esac".toList then
              keyword "esac"
              return [(patterns, body)]
            else unexpected (some "\";;\"")

/-- What follows `if` or `elif`. -/
def readBranch (fuel : Nat) : Reader Command :=
  match fuel with
  | 0 => failure "too long"
  | fuel + 1 => do
      let condition ← readScript fuel false
      keyword "then"
      let body ← readScript fuel false
      let word := plainWord (← rest)
      if word = "elif".toList then
        keyword "elif"
        return .branch condition body [← readBranch fuel]
      else if word = "else".toList then
        keyword "else"
        let otherwise ← readScript fuel false
        keyword "fi"
        return .branch condition body otherwise
      else
        keyword "fi"
        return .branch condition body []

def readLoop (fuel : Nat) (onSuccess : Bool) : Reader Command :=
  match fuel with
  | 0 => failure "too long"
  | fuel + 1 => do
      let condition ← readScript fuel false
      keyword "do"
      let body ← readScript fuel false
      keyword "done"
      return .loop condition body onSuccess

/-- What follows `for`. Without items, the arguments of the shell are taken. -/
def readFor (fuel : Nat) : Reader Command :=
  match fuel with
  | 0 => failure "too long"
  | fuel + 1 => do
      let start ← line
      match plainText? (← readWord fuel) with
      | some name =>
          if !isName name then failureHere "Bad for loop variable"
          else
            skipLines fuel
            let cs ← rest
            let items ←
              if plainWord cs = "in".toList then do
                keyword "in"
                readItems fuel
              else do
                match cs with
                | ';' :: ';' :: _ => pure ()
                | ';' :: after => goOn after
                | _ => pure ()
                pure [[.param ['@'] .value false [] true]]
            skipLines fuel
            keyword "do"
            let body ← readScript fuel false
            keyword "done"
            return .forEach start name items body
      | none =>
          let next := if (← rest).head? == some '\n' then 1 else 0
          throw ⟨(← line) + next, "Bad for loop variable".toList, false⟩

/-- A compound command, if one begins with the word at the front. A group of one command is that
command. -/
def readCompound (fuel : Nat) : Reader (Option Command) :=
  match fuel with
  | 0 => failure "too long"
  | fuel + 1 => do
      let cs ← rest
      match plainWord cs with
      | ['\x7b'] =>
          goOn (cs.drop 1)
          let body ← readScript fuel false
          keyword "\x7d"
          return some (match body with
            | [command] => command
            | commands => .group commands)
      | ['i', 'f'] =>
          goOn (cs.drop 2)
          return some (← readBranch fuel)
      | ['w', 'h', 'i', 'l', 'e'] =>
          goOn (cs.drop 5)
          return some (← readLoop fuel true)
      | ['u', 'n', 't', 'i', 'l'] =>
          goOn (cs.drop 5)
          return some (← readLoop fuel false)
      | ['f', 'o', 'r'] =>
          goOn (cs.drop 3)
          return some (← readFor fuel)
      | ['c', 'a', 's', 'e'] =>
          let start ← line
          goOn (cs.drop 4)
          let subject ← readWord fuel
          if subject.isEmpty then unexpected (some "word")
          else
            skipLines fuel
            keyword "in"
            return some (.choose start subject (← readCases fuel))
      | word => if isOneOf reserved word then unexpected none else return none

def readCommand (fuel : Nat) : Reader Command :=
  match fuel with
  | 0 => failure "too long"
  | fuel + 1 => do
      expandAlias fuel
      let start ← line
      match ← rest with
      | '(' :: after =>
          goOn after
          let body ← readScript fuel false
          closeParen
          return .subshell start body (← readRedirects fuel)
      | _ =>
          match ← readCompound fuel with
          | none => readSimple fuel start [] [] []
          | some command =>
              let redirects ← readRedirects fuel
              return if redirects.isEmpty then command else redirect start command redirects

/-- Commands whose output goes to the next. -/
def readPiped (fuel : Nat) : Reader (List Command) :=
  match fuel with
  | 0 => failure "too long"
  | fuel + 1 => do
      let first ← readCommand fuel
      match ← rest with
      | '|' :: '|' :: _ => return [first]
      | '|' :: after =>
          goOn after
          skipLines fuel
          return first :: (← readPiped fuel)
      | _ => return [first]

/-- A pipeline, which may be negated. -/
def readPipeline (fuel : Nat) : Reader Command :=
  match fuel with
  | 0 => failure "too long"
  | fuel + 1 => do
      expandAlias fuel
      let cs ← rest
      let negated := plainWord cs = ['!']
      if negated then goOn (cs.drop 1)
      let command ← match ← readPiped fuel with
        | [command] => pure command
        | commands => pure (.pipeline commands)
      return if negated then .negate command else command

/-- Commands of which the next depends on how those before it ended. -/
def readAndOr (fuel : Nat) (join : Command → Command) : Reader Command :=
  match fuel with
  | 0 => failure "too long"
  | fuel + 1 => do
      let command := join (← readPipeline fuel)
      match ← rest with
      | '&' :: '&' :: after =>
          goOn after
          skipLines fuel
          readAndOr fuel (.andThen command)
      | '|' :: '|' :: after =>
          goOn after
          skipLines fuel
          readAndOr fuel (.orElse command)
      | _ => return command

/-- Commands up to the end, a closing parenthesis or a closing word. -/
def readScript (fuel : Nat) (mayBeEmpty : Bool) : Reader Script :=
  match fuel with
  | 0 => failure "too long"
  | fuel + 1 => do
      skipLines fuel
      expandAlias fuel
      if endsScript (← rest) then
        if mayBeEmpty || (← rest).isEmpty then return [] else unexpected none
      else
        let start ← line
        let command ← readAndOr fuel id
        match ← rest with
        | ';' :: ';' :: _ => return [command]
        | '&' :: after =>
            goOn after
            return .job start command :: (← readScript fuel true)
        | ';' :: after =>
            goOn after
            return command :: (← readScript fuel true)
        | '\n' :: _ => return command :: (← readScript fuel true)
        | _ =>
            if (← get).rest.isEmpty then readBodies fuel
            return [command]

end

/-- The commands of a line, which may go on over several lines. -/
def readLine (fuel : Nat) : Reader Script :=
  match fuel with
  | 0 => failure "too long"
  | fuel + 1 => do
      match ← rest with
      | [] =>
          goOn []
          readBodies fuel
          modify fun r => { r with ended := true }
          return []
      | '\n' :: after =>
          modify fun r => { r with rest := after }
          readBodies fuel
          return []
      | cs =>
          goOn cs
          expandAlias fuel
          let start ← line
          let command ← readAndOr fuel id
          match ← rest with
          | ';' :: ';' :: _ => unexpected none
          | ';' :: after =>
              goOn after
              return command :: (← readLine fuel)
          | '&' :: after =>
              goOn after
              return .job start command :: (← readLine fuel)
          | [] | '\n' :: _ => return command :: (← readLine fuel)
          | _ => unexpected none

/-! ## Scripts line by line -/

/-- What stands at the front of a script. -/
inductive Front where
  /-- Commands, and what was left of the text. -/
  | commands (script : Script) (after : Reading)
  /-- More text is needed to tell. -/
  | more
  | wrong (line : Nat) (message : Raw)

/-- More steps than the reading of a line takes. -/
def stepsFor (r : Reading) : Nat :=
  16 * r.rest.length + 1000000

/-- What can be read from a text. With `whole`, no more text will come. -/
def Front.of (whole : Bool) (r : Reading) : Front :=
  match (readLine (stepsFor r)).run r with
  | .ok (script, after) => if after.ended && !whole then .more else .commands script after
  | .error e => if e.atEnd && !whole then .more else .wrong e.line e.message

/-- The first lines of a text, and what follows them. -/
def splitLines : Nat → Raw → Raw × Raw
  | 0, cs => ([], cs)
  | n + 1, cs =>
      let line := cs.takeWhile (· ≠ '\n')
      let after := cs.drop line.length
      let (lines, rest) := splitLines n (after.drop 1)
      (line ++ after.take 1 ++ lines, if after.isEmpty then [] else rest)

/-- What stands at the front of a text, of which no more is looked at than is needed. Gives the
rest of the text, too. -/
def front (fuel count : Nat) (whole : Bool) (text : Raw) (start : Raw → Reading) : Front × Raw :=
  let (lines, after) := splitLines count text
  match fuel with
  | 0 => (.more, [])
  | fuel + 1 =>
      match Front.of (after.isEmpty && whole) (start lines) with
      | .more =>
          if after.isEmpty then (.more, []) else front fuel (2 * count) whole text start
      | .commands script r => (.commands script r, r.rest ++ after)
      | found => (found, [])

/-- The parts of a text that reads as if it stood in double quotation marks, and whether an end
that was met before is still to be passed by. -/
def readQuoted (stalled : Bool) (text : Raw) : Except Misread (Word × Bool) :=
  let start := { Reading.start text 1 0 [] with stalled := stalled, bounded := true }
  match (readParts (16 * text.length + 64) .text true).run start with
  | .ok (parts, after) => .ok (joinTexts parts, after.stalled)
  | .error e => .error e

end SmtScript.Host.Shell
