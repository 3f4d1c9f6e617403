import SmtScript.Host.Utility.Lines

/-!
# Columns

`cut` keeps some bytes or some fields of every line. They are listed by their numbers, and
always written in the order of the line.
-/

namespace SmtScript.Host.Utility

/-- The positions from a first one to a last one, or to the end. -/
structure Span where
  first : Nat
  last? : Option Nat

namespace Span

def contains (s : Span) (n : Nat) : Bool :=
  s.first ≤ n && s.last?.all fun last => n ≤ last

/-- The positions between and behind spans that are in order, from a position on. -/
def gaps (start : Nat) : List Span → List Span
  | [] => [⟨start, none⟩]
  | s :: others =>
      let before := if start < s.first then [⟨start, some (s.first - 1)⟩] else []
      match s.last? with
      | none => before
      | some last => before ++ gaps (max start (last + 1)) others

/-- Makes one of neighbours that share a position. -/
def merged : List Span → List Span
  | a :: b :: others =>
      if a.contains b.first then
        let last? := match a.last?, b.last? with
          | some m, some n => some (max m n)
          | _, _ => none
        merged (⟨a.first, last?⟩ :: others)
      else a :: merged (b :: others)
  | spans => spans
termination_by spans => spans.length

/-- The spans of a list that leaves no others, or all that it leaves. -/
def ofList (complement : Bool) (spans : List Span) : List Span :=
  let spans := merged (spans.mergeSort fun a b => a.first ≤ b.first)
  if complement then gaps 1 spans else spans

/-- The items of a span. -/
def part {α : Type} (s : Span) (items : List α) : List α :=
  match s.last? with
  | some last => (items.take last).drop (s.first - 1)
  | none => items.drop (s.first - 1)

end Span

/-! ## Lists of positions -/

/-- How far a span is read. -/
structure SpanStart where
  /-- The digits before the dash, if there is a dash. -/
  before? : Option Raw
  /-- The digits that come last. -/
  digits : Raw

namespace SpanStart

def none : SpanStart :=
  ⟨Option.none, []⟩

/-- What is said of a wrong list, which depends on what is counted. -/
def message (byFields : Bool) (ofFields ofBytes : String) : Raw :=
  (if byFields then ofFields else ofBytes).toList

def countedFromOne (byFields : Bool) : Raw :=
  message byFields "fields are numbered from 1" "byte/character positions are numbered from 1"

def number (digits : Raw) : Nat :=
  Nat.ofDigitChars 10 digits 0

/-- The span at its end: `m-n`, `m-`, `-n` or `m`, counted from one. -/
def finish (s : SpanStart) (byFields : Bool) : Except Raw Span :=
  match s.before?, s.digits with
  | some [], [] => .error "invalid range with no endpoint: -".toList
  | some before, digits =>
      let first := if before.isEmpty then 1 else number before
      if digits.isEmpty then .ok ⟨first, Option.none⟩
      else if number digits < first then .error "invalid decreasing range".toList
      else .ok ⟨first, some (number digits)⟩
  | Option.none, digits =>
      if number digits = 0 then .error (countedFromOne byFields)
      else .ok ⟨number digits, some (number digits)⟩

/-- The span goes on with a dash. -/
def dash (s : SpanStart) (byFields : Bool) : Except Raw SpanStart :=
  if s.before?.isSome then
    .error (message byFields "invalid field range" "invalid byte or character range")
  else if !s.digits.isEmpty && number s.digits = 0 then .error (countedFromOne byFields)
  else .ok ⟨some s.digits, []⟩

/-- The span goes on with a digit. What follows is only looked at to say what is wrong. -/
def digit (s : SpanStart) (byFields : Bool) (d : Char) (rest : Raw) : Except Raw SpanStart :=
  let digits := s.digits ++ [d]
  if number digits < Nat.pow 2 64 - 1 then .ok { s with digits := digits }
  else
    .error (message byFields "field number " "byte/character offset "
      ++ Citation.escaped (digits ++ rest.takeWhile Char.isDigit) ++ " is too large".toList)

/-- The spans of a list in which commas or blanks stand between them. -/
def readAll (byFields : Bool) (s : SpanStart) : Raw → Except Raw (List Span)
  | [] => do return [← s.finish byFields]
  | c :: rest => do
      if c = '-' then readAll byFields (← s.dash byFields) rest
      else if c = ',' || c = ' ' || c = '\t' then
        let span ← s.finish byFields
        return span :: (← readAll byFields none rest)
      else if c.isDigit then readAll byFields (← s.digit byFields c rest) rest
      else
        throw (message byFields "invalid field value " "invalid byte/character position "
          ++ Citation.escaped (c :: rest))

end SpanStart

/-! ## Lines -/

/-- What is kept of every line. -/
structure Cutting where
  spans : List Span
  byFields : Bool
  separator : Char
  /-- What stands between parts in place of the separator. -/
  joint? : Option Raw
  /-- Are lines without a separator left out? -/
  onlySeparated : Bool

def Cutting.line? (k : Cutting) (line : Raw) : Option Raw :=
  if !k.byFields then
    some ((k.joint?.getD []).intercalate
      ((k.spans.map fun s => s.part line).filter (· ≠ [])))
  else if !line.contains k.separator then if k.onlySeparated then none else some line
  else
    let fields := Raw.split k.separator line
    some ((k.joint?.getD [k.separator]).intercalate (k.spans.flatMap fun s => s.part fields))

/-- What is kept of a content. Where the separator ends lines, too, all is one line. -/
def Cutting.text (k : Cutting) (ending : Char) (lines : List Raw) : Raw :=
  let lines := if k.byFields && k.separator = ending && !lines.isEmpty then
      [[ending].intercalate lines]
    else lines
  lines.flatMap fun line =>
    match k.line? line with
    | some text => text ++ [ending]
    | none => []

/-- Is it an option that gives a list? -/
def isCutList (given : Key × Raw) : Bool :=
  ['b', 'c', 'f'].any fun l => given.1 = .letter l

/-- What is wrong with the first of the options that does not fit those before it. -/
def cuttingFault? (hasList : Bool) : List (Key × Raw) → Option String
  | [] => none
  | given :: others =>
      if isCutList given && hasList then some "only one list may be specified"
      else if given.1 = 'd' && 1 < given.2.length then
        some "the delimiter must be a single character"
      else cuttingFault? (hasList || isCutList given) others

/-- What the options ask for, or what is wrong with them. -/
def Options.cutting (o : Options) : Except Raw Cutting := do
  if let some fault := cuttingFault? false o.given then throw fault.toList
  match o.given.find? isCutList with
  | none => throw "you must specify a list of bytes, characters, or fields".toList
  | some (kind, list) =>
      let byFields := kind = 'f'
      if o.has 'd' && !byFields then
        throw "an input delimiter may be specified only when operating on fields".toList
      if o.has 's' && !byFields then
        throw ("suppressing non-delimited lines makes sense\n"
          ++ "\tonly when operating on fields").toList
      let spans ← SpanStart.none.readAll byFields list
      let separator := match o.value? 'd' with
        | some separator => separator.headD '\x00'
        | none => '\t'
      let joint? := (o.value? "output-delimiter").map fun joint => if joint.isEmpty then ['\x00'] else joint
      return ⟨Span.ofList (o.has "complement") spans, byFields, separator, joint?, o.has 's'⟩

def cut (c : Call) : Effect :=
  let options := known "b:c:d:f:nsz" <|
    "bytes=b characters=c fields=f delimiter=d only-delimited=s output-delimiter:"
    ++ " complement zero-terminated=z"
  withOptions c 1 options fun o =>
    match o.cutting with
    | .error message => misused c 1 message
    | .ok k => overRecords c (ending o) o.operands () fun _ lines => (k.text (ending o) lines, ())

end SmtScript.Host.Utility
