import SmtScript.Host.Shell.Pattern

/-!
# Regular expressions

A regular expression stands for texts. It has two written forms, of which the extended one writes
operators without backslashes. A match is the first in a text and, of those that begin there,
the longest.
-/

namespace SmtScript.Host.Utility

open Shell (Pattern.Listed Pattern.Listed.accepts)

/-- What can be asked of the characters around a place. -/
inductive Anchor where
  | lineStart
  | lineEnd
  | wordStart
  | wordEnd
  | wordEdge
  | noWordEdge
  /-- No character of a word stands before. -/
  | apartBefore
  /-- No character of a word follows. -/
  | apartAfter
deriving DecidableEq

inductive Regular where
  | empty
  | char (c : Char)
  | any
  | listed (negated : Bool) (lists : List Shell.Pattern.Listed)
  | anchor (a : Anchor)
  | group (number : Nat) (body : Regular)
  /-- The text of a group again. -/
  | again (number : Nat)
  | andThen (first second : Regular)
  | either (first second : Regular)
  | times (body : Regular) (least : Nat) (most? : Option Nat)

namespace Regular

/-! ## Signs -/

/-- What is written how, and what is refused. -/
structure Dialect where
  /-- Are operators written without backslashes? -/
  extended : Bool
  /-- May a range have its greater end first? -/
  emptyRanges : Bool
  /-- Is a repetition refused that follows another one, or a bound with nothing before it? -/
  refusesDouble : Bool
  /-- Is an operator refused that has nothing before it? -/
  refusesLeading : Bool
  /-- Does a brace stand for itself where no bound follows? -/
  plainBraces : Bool

namespace Dialect

/-- The one in which least is refused. -/
def loose : Dialect :=
  ⟨false, true, false, false, false⟩

/-- Those of an editor. -/
def editing (extended : Bool) : Dialect :=
  ⟨extended, false, !extended, extended, false⟩

/-- Those of a search. -/
def searching (extended : Bool) : Dialect :=
  ⟨extended, false, false, false, extended⟩

end Dialect

/-- What comes next in an expression. -/
inductive Sign where
  | nothing
  | backslash
  | item (e : Regular)
  | again (number : Nat)
  | anchor (a : Anchor)
  | bracket
  | opening
  | closing
  | bar
  /-- A repetition, with the character that it is written with. -/
  | repeats (c : Char) (least : Nat) (most? : Option Nat)
  | brace
  | braceEnd

/-- The signs that are written with a backslash in one form, and without one in the other. -/
def operator? (c : Char) : Option Sign :=
  match c with
  | '(' => some .opening
  | ')' => some .closing
  | '|' => some .bar
  | '+' => some (.repeats c 1 none)
  | '?' => some (.repeats c 0 (some 1))
  | '\x7b' => some .brace
  | '\x7d' => some .braceEnd
  | _ => none

/-- What a character after a backslash stands for in both forms. -/
def special? (c : Char) : Option Sign :=
  let word : List Shell.Pattern.Listed := [.named "alnum", .range '_' '_']
  match c with
  | 'w' => some (.item (.listed false word))
  | 'W' => some (.item (.listed true word))
  | 's' => some (.item (.listed false [.named "space"]))
  | 'S' => some (.item (.listed true [.named "space"]))
  | '<' => some (.anchor .wordStart)
  | '>' => some (.anchor .wordEnd)
  | 'b' => some (.anchor .wordEdge)
  | 'B' => some (.anchor .noWordEdge)
  | '\x60' => some (.anchor .lineStart)
  | '\x27' => some (.anchor .lineEnd)
  | _ => if '1' ≤ c && c ≤ '9' then some (.again (c.toNat - '0'.toNat)) else none

/-- The first sign of a text that begins with no dollar sign, and what follows it. A caret is an
anchor where an expression starts. -/
def signBut (d : Dialect) (starts : Bool) : Raw → Sign × Raw
  | [] => (.nothing, [])
  | ['\\'] => (.backslash, [])
  | '\\' :: c :: rest =>
      let found? := (if d.extended then none else operator? c).or (special? c)
      (found?.getD (.item (.char c)), rest)
  | '*' :: rest => (.repeats '*' 0 none, rest)
  | '[' :: rest => (.bracket, rest)
  | '.' :: rest => (.item .any, rest)
  | '^' :: rest =>
      (if d.extended || starts then .anchor .lineStart else .item (.char '^'), rest)
  | c :: rest =>
      (((if d.extended then operator? c else none)).getD (.item (.char c)), rest)

/-- The first sign, and what follows it. A dollar sign is an anchor where an expression ends. -/
def sign (d : Dialect) (starts : Bool) : Raw → Sign × Raw
  | '$' :: rest =>
      let isLast := match (signBut d false rest).1 with
        | .nothing | .closing | .bar => true
        | _ => false
      (if d.extended || isLast then .anchor .lineEnd else .item (.char '$'), rest)
  | text => signBut d starts text

/-! ## Brackets -/

/-- What can stand in brackets. -/
inductive Element where
  | char (c : Char)
  | named (name : Raw)
  /-- The characters that count as the same as one. -/
  | same (name : Raw)
  | symbol (name : Raw)

def unmatchedBracket : String :=
  "Unmatched [, [^, [:, [., or [="

/-- A name up to a mark with a bracket behind it, and what follows. -/
def elementName (mark : Char) : Raw → Except String (Raw × Raw)
  | a :: b :: rest =>
      if a = mark && b = ']' then .ok ([], rest)
      else (elementName mark (b :: rest)).map fun (name, after) => (a :: name, after)
  | _ => .error unmatchedBracket

/-- The next element, and what follows it. -/
def element : Raw → Except String (Element × Raw)
  | '[' :: ':' :: rest => (elementName ':' rest).map fun (name, after) => (.named name, after)
  | '[' :: '=' :: rest => (elementName '=' rest).map fun (name, after) => (.same name, after)
  | '[' :: '.' :: rest => (elementName '.' rest).map fun (name, after) => (.symbol name, after)
  | c :: rest => .ok (.char c, rest)
  | [] => .error unmatchedBracket

/-- The character that an element is as an end of a range. -/
def Element.edge : Element → Except String Char
  | .char c | .symbol [c] => .ok c
  | .symbol _ => .error "Invalid collation character"
  | _ => .error "Invalid range end"

/-- What an element alone stands for. -/
def Element.listed : Element → Except String Pattern.Listed
  | .char c | .symbol [c] | .same [c] => .ok (.range c c)
  | .named name =>
      if Shell.Pattern.classNames.contains (String.ofList name) then .ok (.named (String.ofList name))
      else .error "Invalid character class name"
  | _ => .error "Invalid collation character"

/-- What brackets list, up to the closing one. A backslash stands for itself there. -/
def listedChars (d : Dialect) (fuel : Nat) (isFirst : Bool) (cs : Raw) :
    Except String (List Pattern.Listed × Raw) :=
  match fuel with
  | 0 => .error unmatchedBracket
  | fuel + 1 => do
      if cs.head? = some '-' && !isFirst && cs[1]? ≠ some ']' then throw "Invalid range end"
      let (first, rest) ← element cs
      let isRange := match first, rest with
        | .named _, _ | .same _, _ => false
        | _, '-' :: c :: _ => c ≠ ']'
        | _, _ => false
      let isOpen := match first, rest with
        | .named _, _ | .same _, _ => false
        | _, [] | _, ['-'] => true
        | _, _ => false
      if isOpen then throw unmatchedBracket
      let (here, rest) ← if isRange then do
          let (last, rest) ← element (rest.drop 1)
          let low ← first.edge
          let high ← last.edge
          if high.toNat < low.toNat && !d.emptyRanges then throw "Invalid range end"
          pure (if high.toNat < low.toNat then [] else [Pattern.Listed.range low high], rest)
        else pure ([← first.listed], rest)
      match rest with
      | [] => throw unmatchedBracket
      | ']' :: after => return (here, after)
      | rest =>
          let (others, after) ← listedChars d fuel false rest
          return (here ++ others, after)

/-- The characters in brackets, after the opening one, and what follows. -/
def brackets (d : Dialect) (cs : Raw) : Except String (Regular × Raw) := do
  let negated := cs.head? = some '^'
  let cs := if negated then cs.drop 1 else cs
  if cs.isEmpty then throw "Invalid regular expression"
  let (lists, rest) ← listedChars d (cs.length + 1) true cs
  return (.listed negated lists, rest)

/-! ## Reading -/

/-- How far an expression is read. -/
structure Reading where
  dialect : Dialect
  /-- The next sign. -/
  sign : Sign
  /-- What follows it. -/
  rest : Raw
  /-- How many groups were opened. -/
  groups : Nat
  /-- The groups that were closed. -/
  closed : List Nat

abbrev Reader := StateT Reading (Except Raw)

def failure {α : Type} (message : String) : Reader α :=
  throw message.toList

/-- Goes on to the next sign. -/
def fetch (starts : Bool) : Reader Unit :=
  modify fun r =>
    let (sign, rest) := sign r.dialect starts r.rest
    { r with sign := sign, rest := rest }

/-- The greatest bound of a repetition. -/
def boundLimit : Nat := 32767

/-- A number in a bound with what ends it: a comma, or else a closing brace. -/
structure Bound where
  /-- None where there are no digits. -/
  number? : Option Nat
  isValid : Bool
  hasComma : Bool
  rest : Raw

/-- Reads a number in a bound. None if there is no end of it. -/
def bound? (d : Dialect) (fuel : Nat) (number? : Option Nat) (isValid : Bool) (cs : Raw) :
    Option Bound :=
  match fuel, sign d false cs with
  | 0, _ | _, (.nothing, _) => none
  | _, (.braceEnd, rest) => some ⟨number?, isValid, false, rest⟩
  | fuel + 1, (.item (.char c), rest) =>
      if c = ',' then some ⟨number?, isValid, true, rest⟩
      else if c.isDigit then
        let n := (number?.getD 0) * 10 + (c.toNat - '0'.toNat)
        bound? d fuel (some (min n (boundLimit + 1))) isValid rest
      else bound? d fuel number? false rest
  | fuel + 1, (_, rest) => bound? d fuel number? false rest

/-- The bounds of a repetition, after the opening brace, and what follows. None where the brace stands
for itself. -/
def bounds (d : Dialect) (cs : Raw) : Except String (Option (Nat × Option Nat × Raw)) :=
  let invalid (isOpen : Bool) : Except String (Option (Nat × Option Nat × Raw)) :=
    if d.plainBraces then .ok none
    else .error (if isOpen then "Unmatched \\\x7b" else "Invalid content of \\\x7b\\\x7d")
  let wrong : Except String (Option (Nat × Option Nat × Raw)) :=
    .error "Invalid content of \\\x7b\\\x7d"
  let checked (least : Nat) (most? : Option Nat) (rest : Raw) :
      Except String (Option (Nat × Option Nat × Raw)) :=
    if most?.any (· < least) then wrong
    else if boundLimit < most?.getD least then .error "Regular expression too big"
    else .ok (some (least, most?, rest))
  match bound? d (cs.length + 1) none true cs with
  | none => invalid true
  | some first =>
      if first.number?.isNone && first.isValid && !first.hasComma then wrong
      else if !first.isValid then invalid false
      else if !first.hasComma then checked (first.number?.getD 0) first.number? first.rest
      else
        match bound? d (first.rest.length + 1) none true first.rest with
        | none => invalid true
        | some last =>
            if !last.isValid then invalid false
            else if last.hasComma then wrong
            else checked (first.number?.getD 0) last.number? last.rest

/-- The repetitions behind an expression. -/
def repeated (fuel : Nat) (body : Regular) : Reader Regular :=
  match fuel with
  | 0 => return body
  | fuel + 1 => do
      let r ← get
      let goOn (body : Regular) : Reader Regular := do
        fetch false
        let refuses := match (← get).sign with
          | .repeats '*' _ _ | .brace => r.dialect.refusesDouble
          | _ => false
        if refuses then failure "Invalid preceding regular expression" else repeated fuel body
      match r.sign with
      | .repeats _ least most? => goOn (.times body least most?)
      | .brace =>
          match bounds r.dialect r.rest with
          | .error message => failure message
          | .ok none =>
              set { r with sign := .item (.char '\x7b') }
              return body
          | .ok (some (least, most?, rest)) =>
              set { r with rest := rest }
              goOn (if most? = some 0 then .empty else .times body least most?)
      | _ => return body

mutual

/-- Expressions with bars between them. -/
def alternatives (fuel : Nat) (nested : Bool) : Reader Regular :=
  match fuel with
  | 0 => failure "too long"
  | fuel + 1 => do
      let first ← sequence fuel nested
      match (← get).sign with
      | .bar =>
          fetch true
          return .either first (← alternatives fuel nested)
      | _ => return first

/-- Expressions one after the other, up to a bar or a closing parenthesis. -/
def sequence (fuel : Nat) (nested : Bool) : Reader Regular :=
  match fuel with
  | 0 => failure "too long"
  | fuel + 1 => do
      match (← get).sign, nested with
      | .bar, _ | .nothing, _ | .closing, true => return .empty
      | _, _ =>
          let item ← single fuel nested
          return .andThen item (← sequence fuel nested)

/-- One expression with the repetitions behind it. An operator with nothing before it stands for
itself, or for nothing in the extended form. -/
def single (fuel : Nat) (nested : Bool) : Reader Regular :=
  match fuel with
  | 0 => failure "too long"
  | fuel + 1 => do
      let r ← get
      let length := r.rest.length + 1
      let whole (e : Regular) : Reader Regular := do
        fetch false
        repeated length e
      let leading (c : Char) : Reader Regular :=
        if r.dialect.refusesLeading then failure "Invalid preceding regular expression"
        else if r.dialect.extended then do
          fetch false
          match (← get).sign with
          | .bar | .nothing => return .empty
          | _ => single fuel nested
        else whole (.char c)
      match r.sign with
      | .item e => whole e
      | .opening =>
          let number := r.groups + 1
          modify fun r => { r with groups := number }
          fetch true
          let body ← alternatives fuel true
          match (← get).sign with
          | .closing =>
              modify fun r => { r with closed := number :: r.closed }
              whole (.group number body)
          | _ => failure "Unmatched ( or \\("
      | .bracket =>
          match brackets r.dialect r.rest with
          | .error message => failure message
          | .ok (e, rest) =>
              set { r with rest := rest }
              whole e
      | .again number =>
          if r.closed.contains number then whole (.again number)
          else failure "Invalid back reference"
      | .anchor a =>
          fetch false
          return .anchor a
      | .brace =>
          if r.dialect.refusesDouble then failure "Invalid preceding regular expression"
          else leading '\x7b'
      | .repeats c _ _ => leading c
      | .closing => failure "Unmatched ) or \\)"
      | .braceEnd => whole (.char '\x7d')
      | .backslash => failure "Trailing backslash"
      | .bar | .nothing => return .empty

end

/-- Reads all of a text. Tells how many groups there are. -/
def read (d : Dialect) (text : Raw) : Except Raw (Regular × Nat) := do
  let (first, rest) := sign d true text
  let (e, r) ← (alternatives (8 * text.length + 8) false).run ⟨d, first, rest, 0, []⟩
  return (e, r.groups)

/-- An expression that stands for a text only. -/
def ofText (text : Raw) : Regular :=
  text.foldr (fun c e => .andThen (.char c) e) .empty

/-! ## Matching -/

/-- A place in a text: the character before it, what follows, and the groups so far. -/
structure Place where
  before? : Option Char
  rest : Raw
  groups : List (Nat × Raw)

def isWordChar (c : Char) : Bool :=
  c.isAlphanum || c == '_'

def Place.meets (p : Place) (a : Anchor) : Bool :=
  let after := p.rest.head?.any isWordChar
  let before := p.before?.any isWordChar
  match a with
  | .lineStart => p.before?.isNone
  | .lineEnd => p.rest.isEmpty
  | .wordStart => after && !before
  | .wordEnd => before && !after
  | .wordEdge => before != after
  | .noWordEdge => before == after
  | .apartBefore => !before
  | .apartAfter => !after

namespace Place

/-- Goes over a character that is accepted. -/
def step (p : Place) (accepts : Char → Bool) : List Place :=
  match p.rest with
  | c :: rest => if accepts c then [{ p with before? := some c, rest := rest }] else []
  | [] => []

/-- Of places that are the same but for their groups, the first. -/
def distinct (places : List Place) : List Place :=
  places.foldl
    (fun kept p => if kept.any fun q => q.rest.length = p.rest.length then kept else kept ++ [p]) []

/-- The places after so many steps. -/
def after (step : Place → List Place) : Nat → List Place → List Place
  | 0, places => places
  | n + 1, places => after step n (distinct (places.flatMap step))

/-- The places after at most so many steps, of which each has to go on, the farthest first. -/
def upTo (step : Place → List Place) : Nat → List Place → List Place → List Place
  | 0, reached, _ => reached
  | n + 1, reached, places =>
      let next := places.flatMap fun p => (step p).filter fun q => q.rest.length < p.rest.length
      let new := (distinct next).filter fun q =>
        !reached.any fun p => p.rest.length = q.rest.length
      if new.isEmpty then reached else upTo step n (new ++ reached) new

end Place

/-- All places at which a match can end, those first that take more. -/
def ends (folds : Bool) : Regular → Place → List Place
  | .empty, p => [p]
  | .char c, p => p.step fun d => d == c || folds && d.toLower == c.toLower
  | .any, p => p.step fun _ => true
  | .listed negated lists, p =>
      let accepts (c : Char) : Bool := lists.any fun l => l.accepts (fun c => (c.toNat : Int)) c
      p.step fun c => (accepts c || folds && (accepts c.toLower || accepts c.toUpper)) != negated
  | .anchor a, p => if p.meets a then [p] else []
  | .group number body, p =>
      (ends folds body p).map fun q =>
        { q with groups := (number, p.rest.take (p.rest.length - q.rest.length)) :: q.groups }
  | .again number, p =>
      match p.groups.lookup number with
      | some text =>
          if text.isPrefixOf p.rest then
            [{ p with before? := text.getLast?.orElse fun _ => p.before?
                      rest := p.rest.drop text.length }]
          else []
      | none => []
  | .andThen first second, p => (ends folds first p).flatMap (ends folds second)
  | .either first second, p => ends folds first p ++ ends folds second p
  | .times body least most?, p =>
      let start := Place.after (ends folds body) least [p]
      let more := (most?.map (· - least)).getD (p.rest.length + 1)
      Place.upTo (ends folds body) (min more (p.rest.length + 1)) start start

/-- The end of the longest match that begins at a place. -/
def longest? (folds : Bool) (e : Regular) (p : Place) : Option Place :=
  (ends folds e p).foldl
    (fun best? q => match best? with
      | none => some q
      | some best => if q.rest.length < best.rest.length then some q else some best)
    none

/-- A match in a text: what stands before it, the text of the match, and where it ends. -/
structure Found where
  before : Raw
  text : Raw
  place : Place

/-- The first match from a place on. -/
def find? (folds : Bool) (e : Regular) (before? : Option Char) (text : Raw) : Option Found :=
  match longest? folds e ⟨before?, text, []⟩ with
  | some q => some ⟨[], text.take (text.length - q.rest.length), q⟩
  | none =>
      match text with
      | [] => none
      | c :: rest => (find? folds e (some c) rest).map fun f => { f with before := c :: f.before }

end Regular

end SmtScript.Host.Utility
