import SmtScript.Host.FileSystem
import SmtScript.Host.Shell.Pattern

/-!
# Fields

Words are expanded to pieces, and pieces are broken into fields at separators. Blanks that
separate count as one separator, and those at the start as none; any other separator ends a field,
even an empty one. A field that is a pattern stands for the paths that it accepts.
-/

namespace SmtScript.Host.Shell

/-- A stretch of an expanded word. -/
inductive Piece where
  /-- Stays in one field. -/
  | text (chars : Raw) (quoted : Bool)
  /-- Is broken at separators, and at each zero byte. -/
  | broken (chars : Raw)
  /-- Each a field of its own. -/
  | arguments (args : List Raw)
  /-- Makes a field even of nothing. -/
  | mark

/-- The separators that hold unless others are chosen. -/
def standardSeparators : Raw := " \t\n".toList

/-- The fields that are done and the one under way, the last first. -/
structure Fields where
  done : List Marked
  current : Marked
  /-- Does the field under way hold a mark? -/
  marked : Bool
  /-- Was a blank the last that was read, and did it separate? -/
  afterBlank : Bool
  /-- Did arguments come last among the pieces that are broken? -/
  afterArguments : Bool

namespace Fields

def start : Fields :=
  ⟨[], [], false, false, false⟩

def isEmpty (f : Fields) : Bool :=
  f.current.isEmpty && !f.marked

/-- Ends the field under way. -/
def close (f : Fields) : Fields :=
  { f with done := f.current.reverse :: f.done, current := [], marked := false }

def extend (f : Fields) (chars : Raw) (quoted : Bool) : Fields :=
  { f with current := chars.foldl (fun done c => (c, quoted) :: done) f.current }

/-- A character of a piece that is broken. After arguments, each blank separates. -/
def addBroken (separators : Raw) (f : Fields) (c : Char) : Fields :=
  let separates := c == '\x00' || separators.contains c
  let isBlank := separates && (c == '\x00' || standardSeparators.contains c)
  if f.afterBlank && separates then { f with afterBlank := isBlank }
  else if !separates then { f.extend [c] false with afterBlank := false }
  else if isBlank && !f.afterArguments then
    if f.isEmpty then f else { f.close with afterBlank := true }
  else { f.close with afterBlank := false }

def addArguments (f : Fields) : List Raw → Fields
  | [] => f
  | [last] => { f.extend last true with afterArguments := true }
  | a :: others => addArguments (f.extend a true).close others

def add (separators : Raw) (f : Fields) : Piece → Fields
  | .text chars quoted => f.extend chars quoted
  | .broken chars =>
      { chars.foldl (addBroken separators) { f with afterBlank := false } with
        afterArguments := false }
  | .arguments args => f.addArguments args
  | .mark => { f with marked := true }

/-- The fields of pieces. After arguments the last field counts even if it is empty. -/
def ofPieces (separators : Raw) (pieces : List Piece) : List Marked :=
  let f := pieces.foldl (add separators) start
  (if f.isEmpty && !f.afterArguments then f else f.close).done.reverse

end Fields

/-- The characters of pieces that are not broken. -/
def joinedMarked (pieces : List Piece) : Marked :=
  pieces.flatMap fun
    | .text chars quoted => chars.map (·, quoted)
    | .broken chars => chars.map (·, false)
    | .arguments args => (List.intercalate [' '] args).map (·, true)
    | .mark => []

/-- The text of pieces that are not broken. -/
def joined (pieces : List Piece) : Raw :=
  pieces.flatMap fun
    | .text chars _ | .broken chars => chars
    | .arguments args => List.intercalate [' '] args
    | .mark => []

/-! ## Values in variables -/

/-- A character of a line that is read, with a mark where a backslash kept it. -/
abbrev Kept := Char × Bool

/-- A line that is split into values, up to the character that comes next. -/
structure Splitting where
  separators : Raw
  /-- How many values are ended by separators, the last among them. -/
  left : Nat
  /-- The values that are done, the last first. -/
  done : List Raw
  /-- The value under way, the last character first. -/
  current : Raw
  /-- How much of the value under way is kept if nothing follows but blanks. -/
  kept? : Option Nat
  /-- Did a blank separate just before? -/
  afterBlank : Bool

namespace Splitting

def push (s : Splitting) (c : Char) : Splitting :=
  { s with current := c :: s.current, afterBlank := false }

/-- A character of the last value: it keeps separators, but no blanks at the end, and no separator
that is the only one. -/
def stepLast (s : Splitting) (c : Char) : Splitting :=
  let separates := s.separators.contains c
  if separates && standardSeparators.contains c then
    { s with current := c :: s.current, kept? := s.kept?.or (some s.current.length) }
  else
    { s.push c with kept? := if separates && s.afterBlank then s.kept? else none }

/-- A separator ends a value. Where the last one begins, it is kept for now. -/
def separate (s : Splitting) (c : Char) : Splitting :=
  let isBlank := standardSeparators.contains c
  if s.current.isEmpty && isBlank then { s with afterBlank := false }
  else if s.left ≤ 1 then
    { s with left := 0, kept? := some s.current.length, current := c :: s.current
             afterBlank := isBlank }
  else
    { s with left := s.left - 1, done := s.current.reverse :: s.done, current := []
             afterBlank := isBlank }

def step (s : Splitting) (c : Kept) : Splitting :=
  if c.2 then s.push c.1
  else if s.left = 0 then s.stepLast c.1
  else if !s.separators.contains c.1 then s.push c.1
  else if s.afterBlank then { s with afterBlank := standardSeparators.contains c.1 }
  else s.separate c.1

/-- The values when the line is over. -/
def values (s : Splitting) : List Raw :=
  let whole := s.current.reverse
  let last := match s.kept? with
    | some count => whole.take count
    | none => whole
  s.done.reverse ++ (if last.isEmpty then [] else [last])

end Splitting

/-- The values of so many variables from a line. The last takes all that is left, and where nothing
is left there are none. A character that a backslash kept never separates. -/
def values (separators : Raw) (count : Nat) (line : List Kept) : List Raw :=
  let start : Splitting := ⟨separators, count, [], [], none, false⟩
  let found := (line.foldl Splitting.step start).values
  found ++ List.replicate (count - found.length) []

/-! ## Paths -/

/-- What a pattern that is a path stands for: the text up to its first part that is a pattern,
that part, and what follows the slash after it, with a flag that says whether there is one. -/
def firstPattern (field : Marked) : Raw × Marked × Option Marked :=
  let plain := field.take (Pattern.plainLength field)
  let before := (plain.reverse.dropWhile fun c => c.1 ≠ '/').reverse
  let rest := field.drop before.length
  let part := rest.takeWhile fun c => c.1 ≠ '/'
  match rest.drop part.length with
  | [] => (Marked.text before, part, none)
  | _ :: after => (Marked.text before, part, some after)

/-- The names in a directory that a part of a path accepts. A name with a dot in front has to be
asked for by the dot. -/
def namesLike (files : FileSystem) (directory : Raw) (part : Marked) : List Raw :=
  let path := if directory.isEmpty then ['.'] else directory
  match (files.locate? path).filter files.isDirectoryAt with
  | none => []
  | some loc =>
      let pattern := Pattern.ofMarked part
      let asksHidden := (part.head?.map Prod.fst) == some '.'
      let hidden := if asksHidden then [['.'], ['.', '.']] else []
      (hidden ++ files.names loc).filter fun name =>
        (name.head? ≠ some '.' || asksHidden) && Pattern.accepts pattern name

/-- The paths that begin with a text and go on as a pattern says. -/
def pathsFrom (fuel : Nat) (files : FileSystem) (base : Raw) (rest : Marked) : List Raw :=
  match fuel with
  | 0 => []
  | fuel + 1 =>
      if !Pattern.isPattern rest then
        let path := base ++ Marked.text rest
        if files.exists? path then [path] else []
      else
        let (before, part, after?) := firstPattern rest
        let directory := base ++ before
        (namesLike files directory part).flatMap fun name =>
          match after? with
          | none => [directory ++ name]
          | some after => pathsFrom fuel files (directory ++ name ++ ['/']) after

/-- The paths that a field stands for, in order, or its text if there are none. -/
def paths (files : FileSystem) (field : Marked) : List Raw :=
  let pattern := Pattern.unescaped field
  if !Pattern.isPattern pattern then [field.text]
  else
    match (pathsFrom (pattern.length + 1) files [] pattern).mergeSort Raw.isBefore with
    | [] => [field.text]
    | found => found

/-- Cuts off the line feeds at the end. -/
def trimEnd (text : Raw) : Raw :=
  (text.reverse.dropWhile (· = '\n')).reverse

end SmtScript.Host.Shell
