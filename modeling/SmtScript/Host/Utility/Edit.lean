import SmtScript.Host.Utility.Edit.Script
import SmtScript.Host.Utility.Lines
import SmtScript.Host.Utility.Exchange

/-!
# Editing lines

`sed` applies the commands of a script to each line, and writes what becomes of it. A second
text, which is empty at first, can hold what is needed later.
-/

namespace SmtScript.Host.Utility

namespace Edit

/-- A line of a file, and whether an ending stands behind it. -/
structure InputLine where
  text : Raw
  ended : Bool
  file : Raw

/-- How lines are edited. -/
structure Setting where
  quiet : Bool
  width : Nat
  ending : Char
  files : FileSystem

/-- What was written, the last first, and whether the last line needs its ending if more comes. -/
structure Written where
  chunks : List Raw
  open_ : Bool

structure State where
  line : Raw
  ended : Bool
  file : Raw
  number : Nat
  rest : List InputLine
  held : Raw
  /-- Written after the line. -/
  appended : List Action
  output : Written
  /-- What was written to files. -/
  others : List (Raw × Written)
  /-- The commands whose range is under way, with the number of its last line, if it is known. -/
  ranges : List (Nat × Option Nat)
  /-- The commands whose range from before the first line is over. -/
  closed : List Nat
  /-- Was something replaced since the line was read or a jump looked? -/
  replaced : Bool
  lastPattern? : Option Regular
  /-- Was an expression asked for before one was used? -/
  failed : Bool
  /-- Did a command say that nothing more is read? -/
  quits : Bool

/-- What comes after a command. -/
inductive Next where
  | goOn
  /-- The next line comes. -/
  | cycle
  /-- The same line again, without reading. -/
  | restart
  | jump (label : Raw)
  /-- Nothing more is read. The line may still be written. -/
  | stop (status : Nat) (prints : Bool)

namespace Written

/-- Writes a text. -/
def add (w : Written) (ending : Char) (text : Raw) (isOpen : Bool) : Written :=
  ⟨text :: (if w.open_ then [ending] :: w.chunks else w.chunks), isOpen⟩

def text (w : Written) : Raw :=
  w.chunks.reverse.flatten

end Written

namespace State

/-- The output of all that goes to the same place as the lines. -/
def standard : Raw :=
  "/dev/stdout".toList

/-- Writes to the output, or to a file. -/
def writeTo (s : State) (g : Setting) (path : Raw) (text : Raw) (isOpen : Bool) : State :=
  if path = standard then { s with output := s.output.add g.ending text isOpen }
  else
    let before := (s.others.lookup path).getD ⟨[], false⟩
    { s with
      others := (path, before.add g.ending text isOpen) :: s.others.filter fun o => o.1 ≠ path }

def write (s : State) (g : Setting) (text : Raw) : State :=
  s.writeTo g standard text false

/-- Writes a line with its ending, if it has one. -/
def writeLineTo (s : State) (g : Setting) (path text : Raw) : State :=
  s.writeTo g path (text ++ (if s.ended then [g.ending] else [])) !s.ended

def writeLine (s : State) (g : Setting) (text : Raw) : State :=
  s.writeLineTo g standard text

/-- Writes what belongs behind the line. -/
def flush (s : State) (g : Setting) : State :=
  let done := s.appended.foldl
    (fun s a => match a with
      | .append text => s.write g text
      | .readFile path =>
          match g.files.read? path with
          | some content =>
              let text := Raw.ofBytes content
              if text.isEmpty then s else s.write g text
          | none => s
      | _ => s)
    s
  { done with appended := [] }

/-- Takes the next line. -/
def read? (s : State) (g : Setting) : Option State :=
  match s.rest with
  | [] => none
  | next :: rest =>
      some { s.flush g with
        line := next.text, ended := next.ended, file := next.file, number := s.number + 1
        rest := rest }

/-! ## Addresses -/

/-- The expression that a pattern stands for, which then is the last one used. -/
def resolved (s : State) (p : Pattern) : Option Regular × State :=
  match p.regular? with
  | some e => (some e, { s with lastPattern? := some e })
  | none => (s.lastPattern?, { s with failed := s.failed || s.lastPattern?.isNone })

def isAt (s : State) (a : Address) : Bool × State :=
  match a with
  | .line n => (s.number = n, s)
  | .last => (s.rest.isEmpty, s)
  | .step first by_ =>
      (if by_ = 0 then s.number = first
        else first ≤ s.number && (s.number - first) % by_ = 0, s)
  | .found p =>
      let (e?, s) := s.resolved p
      (e?.any fun e => (e.find? p.folds none s.line).isSome, s)
  | .plus _ | .multiple _ => (false, s)

/-- The number of the last line of a range that begins here, if it is known. -/
def rangeEnd? (s : State) : Address → Option Nat
  | .line n => some n
  | .plus n => some (s.number + n)
  | .multiple n => some (if n = 0 then s.number else (s.number / n + 1) * n)
  | _ => none

/-- Is the command at that place of the script meant? -/
def chooses (s : State) (place : Nat) (c : Command) : Bool × State :=
  let isFromStart := (c.first? matches some (.line 0)) && !s.closed.contains place
  match c.first?, c.second? with
  | none, _ => (true, s)
  | some first, none => s.isAt first
  | some first, some second =>
      let close (s : State) : State :=
        { s with ranges := s.ranges.filter fun r => r.1 ≠ place, closed := place :: s.closed }
      match s.ranges.lookup place with
      | some (some last) =>
          if s.number < last then (true, s) else (s.number = last, close s)
      | some none =>
          let (isEnd, s) := s.isAt second
          (true, if isEnd then close s else s)
      | none =>
          if isFromStart then
            let (isEnd, s) := s.isAt second
            (true, if isEnd then close s else { s with ranges := (place, none) :: s.ranges })
          else
            let (isStart, s) := s.isAt first
            if !isStart then (false, s)
            else
              match s.rangeEnd? second with
              | some n =>
                  (true, if s.number < n then { s with ranges := (place, some n) :: s.ranges }
                    else s)
              | none => (true, { s with ranges := (place, none) :: s.ranges })

/-! ## Substitution -/

def changed (c : Case) (text : Raw) : Raw :=
  match c with
  | .keep => text
  | .upper => text.map Char.toUpper
  | .lower => text.map Char.toLower

/-- The text that takes the place of a match. -/
def replacement (pieces : List Piece) (f : Regular.Found) : Raw :=
  let write (text : Raw) (all : Case) (next : Case) : Raw :=
    match text with
    | c :: rest => changed (if next = .keep then all else next) [c] ++ changed all rest
    | [] => []
  let step := fun (chunks, all, next) piece =>
    match piece with
    | .case c => (chunks, c, next)
    | .nextCase c => (chunks, all, c)
    | .text chars => (write chars all next :: chunks, all, if chars.isEmpty then next else .keep)
    | .group n =>
        let text := if n = 0 then f.text else (f.place.groups.lookup n).getD []
        (write text all next :: chunks, all, if text.isEmpty then next else .keep)
  (pieces.foldl step (([], .keep, .keep) : List Raw × Case × Case)).1.reverse.flatten

/-- Replaces matches, counted from a number on. An empty match right behind another one does not
count. Says whether one was replaced. -/
def substituted (fuel : Nat) (s : Substitution) (e : Regular) (count : Nat) (isBehind : Bool)
    (before? : Option Char) (text : Raw) : Raw × Bool :=
  match fuel with
  | 0 => (text, false)
  | fuel + 1 =>
      match e.find? s.pattern.folds before? text with
      | none => (text, false)
      | some f =>
          let counts := !(isBehind && f.text.isEmpty && f.before.isEmpty)
          let chosen := counts && (count = s.which || s.all && s.which < count)
          let new := if chosen then replacement s.pieces f else f.text
          if chosen && !s.all then (f.before ++ new ++ f.place.rest, true)
          else
            let (kept, before?, rest) := if f.text.isEmpty then
                (f.place.rest.take 1, f.place.rest.head?, f.place.rest.drop 1)
              else ([], f.place.before?, f.place.rest)
            if f.text.isEmpty && kept.isEmpty then (f.before ++ new, chosen)
            else
              let (others, more) := substituted fuel s e (if counts then count + 1 else count)
                (!f.text.isEmpty) before? rest
              (f.before ++ new ++ kept ++ others, chosen || more)

/-! ## Commands -/

/-- A line in which everything can be seen, broken where it is too long. -/
def listed (width : Nat) (text : Raw) : Raw :=
  let shown (c : Char) : Raw :=
    match c with
    | '\\' => ['\\', '\\']
    | '\x07' => ['\\', 'a']
    | '\x08' => ['\\', 'b']
    | '\x0c' => ['\\', 'f']
    | '\n' => ['\\', 'n']
    | '\r' => ['\\', 'r']
    | '\t' => ['\\', 't']
    | '\x0b' => ['\\', 'v']
    | _ =>
        if Shell.Pattern.isInClass "print" c then [c]
        else
          let digits := Nat.toDigits 8 c.toNat
          '\\' :: (List.replicate (3 - digits.length) '0' ++ digits)
  let step := fun (chunks, column) c =>
    let piece := shown c
    if 0 < width && width - 1 < column + piece.length then
      (piece :: ['\\', '\n'] :: chunks, piece.length)
    else (piece :: chunks, column + piece.length)
  (text.foldl step (([], 0) : List Raw × Nat)).1.reverse.flatten ++ ['$', '\n']

/-- Does an action on the line. -/
def act (s : State) (g : Setting) (place : Nat) (c : Command) : State × Next :=
  match c.action with
  | .substitute sub =>
      let (e?, s) := s.resolved sub.pattern
      match e? with
      | none => (s, .goOn)
      | some e =>
          let (text, done) := substituted (s.line.length + 2) sub e 1 false none s.line
          let s := { s with line := text, replaced := s.replaced || done }
          let s := if done && sub.prints then s.writeLine g text else s
          match sub.file? with
          | some path => (if done then s.writeLineTo g path text else s, .goOn)
          | none => (s, .goOn)
  | .replace source target =>
      ({ s with line := s.line.map (Exchange.replaced source target) }, .goOn)
  | .print => (s.writeLine g s.line, .goOn)
  | .printFirst =>
      if s.line.contains g.ending then
        (s.write g (s.line.takeWhile (· ≠ g.ending) ++ [g.ending]), .goOn)
      else (s.writeLine g s.line, .goOn)
  | .delete => (s, .cycle)
  | .deleteFirst =>
      match s.line.dropWhile (· ≠ g.ending) with
      | _ :: rest => ({ s with line := rest }, .restart)
      | [] => (s, .cycle)
  | .quit status prints => ({ s with quits := true }, .stop status prints)
  | .number => (s.write g (Raw.ofNat s.number ++ ['\n']), .goOn)
  | .append _ | .readFile _ => ({ s with appended := s.appended ++ [c.action] }, .goOn)
  | .insert text => (s.write g text, .goOn)
  | .change text =>
      let isInside := s.ranges.any fun r => r.1 = place
      (if isInside && !c.negated then s else s.write g text, .cycle)
  | .next =>
      if s.rest.isEmpty then (s, .stop 0 true)
      else
        let s := if g.quiet then s else s.writeLine g s.line
        ((s.read? g).getD s, .goOn)
  | .appendNext =>
      match s.read? g with
      | some next => ({ next with line := s.line ++ g.ending :: next.line }, .goOn)
      | none => (s, .stop 0 true)
  | .hold adds =>
      ({ s with held := if adds then s.held ++ g.ending :: s.line else s.line }, .goOn)
  | .recall adds =>
      ({ s with line := if adds then s.line ++ g.ending :: s.held else s.held }, .goOn)
  | .exchange => ({ s with line := s.held, held := s.line }, .goOn)
  | .empty => ({ s with line := [] }, .goOn)
  | .file => (s.write g (s.file ++ ['\n']), .goOn)
  | .list width? => (s.write g (listed (width?.getD g.width) s.line), .goOn)
  | .writeFile path => (s.writeLineTo g path s.line, .goOn)
  | .jump label none => (s, .jump label)
  | .jump label (some wanted) =>
      ({ s with replaced := false }, if s.replaced == wanted then .jump label else .goOn)
  | .label _ | .opening | .closing => (s, .goOn)

/-- A script whose commands have their places. -/
abbrev Placed := List (Command × Nat)

/-- The commands after the brace that closes a block. -/
def afterBlock (depth : Nat) : Placed → Placed
  | [] => []
  | (c, _) :: rest =>
      match c.action, depth with
      | .opening, _ => afterBlock (depth + 1) rest
      | .closing, 0 => rest
      | .closing, depth + 1 => afterBlock depth rest
      | _, _ => afterBlock depth rest

/-- The commands behind a label. No label stands for the end. -/
def behind (label : Raw) (script : Placed) : Placed :=
  if label.isEmpty then []
  else
    (script.dropWhile fun (c, _) => match c.action with
      | .label name => name ≠ label
      | _ => true).drop 1

/-- Applies commands to lines, until there are no more of both. None if that has no end. -/
def run (fuel : Nat) (g : Setting) (script rest : Placed) (s : State) : Option (State × Nat) :=
  match fuel with
  | 0 => none
  | fuel + 1 =>
      let print (s : State) : State := if g.quiet then s else s.writeLine g s.line
      let cycle (s : State) : Option (State × Nat) :=
        match s.read? g with
        | some s => run fuel g script script { s with replaced := false }
        | none => some (s.flush g, 0)
      match rest with
      | [] => cycle (print s)
      | (c, place) :: rest =>
          let (chosen, s) := s.chooses place c
          if s.failed then some (s, 1)
          else if chosen == c.negated then
            match c.action with
            | .opening => run fuel g script (afterBlock 0 rest) s
            | _ => run fuel g script rest s
          else
            match s.act g place c with
            | (s, .goOn) => if s.failed then some (s, 1) else run fuel g script rest s
            | (s, .cycle) => cycle s
            | (s, .restart) => run fuel g script script (s.flush g)
            | (s, .jump label) => run fuel g script (behind label script) s
            | (s, .stop status prints) =>
                some ((if prints then print s else s).flush g, status)

end State

/-- How many steps are taken at most. -/
def stepLimit : Nat := 1000000

/-- The paths that a script writes to. They are emptied at the start. -/
def targets (script : List Command) : List Raw :=
  script.filterMap fun c => match c.action with
    | .writeFile path => some path
    | .substitute s => s.file?
    | _ => none

/-- What becomes of lines. None if that has no end. -/
def edited (g : Setting) (script : List Command) (lines : List InputLine) :
    Option (State × Nat) :=
  let others := (targets script).filter (· ≠ State.standard)
  let s : State :=
    { line := [], ended := false, file := [], number := 0, rest := lines, held := []
      appended := [], output := ⟨[], false⟩, others := others.map (·, ⟨[], false⟩), ranges := []
      closed := [], replaced := false, lastPattern? := none, failed := false, quits := false }
  let script := script.zipIdx
  match s.read? g with
  | none => some (s, 0)
  | some s => s.run stepLimit g script script

/-- The lines of a file. -/
def inputLines (ending : Char) (file content : Raw) : List InputLine :=
  (Raw.pieces ending content).map fun piece =>
    ⟨piece.filter (· ≠ ending), piece.contains ending, file⟩

/-- Writes to files what a script left for them. -/
def saved (e : Effect) (s : State) : Effect :=
  s.others.foldl
    (fun e (path, written) =>
      match e.files.overwrite? path (Raw.toBytes written.text) with
      | some files => { e with files := files }
      | none => e)
    e

/-- The path of what a file was before, from the text behind the option. -/
def backup (ending path : Raw) : Raw :=
  if ending.contains '*' then
    let name := (path.reverse.takeWhile (· ≠ '/')).reverse
    let before := path.take (path.length - name.length)
    let changed := ending.flatMap fun c => if c = '*' then name else [c]
    if changed.contains '/' then changed else before ++ changed
  else path ++ ending

/-- Puts in the place of a file what becomes of it. Says whether the script goes on. -/
def inPlace (c : Call) (g : Setting) (script : List Command) (ending : Raw) (e : Effect)
    (path : Raw) : Effect × Bool :=
  match e.files.entry? path with
  | some (.file number) =>
      let content := (e.files.content? number).getD []
      match edited g script (inputLines g.ending path (Raw.ofBytes content)) with
      | none => (e.staying, false)
      | some (s, status) =>
          let e := saved e s
          let e := if ending.isEmpty then e
            else
              match e.files.overwrite? (backup ending path) content with
              | some files => { e with files := files }
              | none => e
          match e.files.overwrite? path (Raw.toBytes s.output.text) with
          | some files =>
              ({ e with files := files, status := max e.status status }, status = 0)
          | none => (e, false)
  | some _ =>
      (e.complain c 4 ("couldn\x27t edit ".toList ++ path ++ ": not a regular file".toList), false)
  | none =>
      (e.complain c 2 ("can\x27t read ".toList ++ path ++ ": ".toList ++ e.files.reason path), true)

/-- Does the output end within a line? -/
def isOpen (e : Effect) (ending : Char) : Bool :=
  let texts := e.said.filterMap fun
    | .out text => some text
    | .err _ => none
  texts.getLast?.any fun text => text.getLast? ≠ some ending

/-- Writes what becomes of lines. Says whether the script goes on. -/
def shown (g : Setting) (script : List Command) (lines : List InputLine) (e : Effect) :
    Effect × Bool :=
  match edited g script lines with
  | none => (e.staying, false)
  | some (s, status) =>
      let text := s.output.text
      let text := if !text.isEmpty && isOpen e g.ending then g.ending :: text else text
      let e := (saved e s).say text
      let asksLast := script.any fun c =>
        (c.first? matches some .last) || (c.second? matches some .last)
      let e := if s.quits && !(asksLast && s.rest.isEmpty) then e.settled else e
      (if status = 0 then e else { e with status := status }, s.rest.isEmpty)

/-- The script that the options give: in pieces, in files, or in the first operand. -/
def scriptOf (c : Call) (o : Options) : Except Raw (Raw × List Raw) := do
  let given := o.given.filter fun g => g.1 = Key.letter 'e' || g.1 = Key.letter 'f'
  let piece (g : Key × Raw) : Except Raw Raw :=
    if g.1 = Key.letter 'e' then .ok g.2
    else
      match c.read g.2 with
      | .ok text => .ok (if text.getLast? == some '\n' then text.dropLast else text)
      | .error reason => .error ("couldn\x27t open file ".toList ++ g.2 ++ ": ".toList ++ reason)
  match given, o.operands with
  | [], script :: paths => return (script, paths)
  | [], [] => return ([], [])
  | given, paths => return (['\n'].intercalate (← given.mapM piece), paths)

/-- Edits one file after the other, or all of them as one. -/
def overInputs (c : Call) (o : Options) (g : Setting) (script : List Command)
    (paths : List Raw) : Effect :=
  let start : Effect × List InputLine × Bool := (Effect.quiet c 0, [], true)
  let step := fun (e, lines, goesOn) (path, content?) =>
    if !goesOn then (e, lines, goesOn)
    else
      let e := Effect.afterPath e c path
      match content? with
      | .error reason =>
          if path = ['-'] || c.isDirectory path then
            let name := if path = ['-'] then "stdin".toList else path
            (e.complain c 4 ("read error on ".toList ++ name ++ ": ".toList ++ reason),
              lines, false)
          else
            (e.complain c 2 ("can\x27t read ".toList ++ path ++ ": ".toList ++ reason),
              lines, true)
      | .ok content =>
          let here := inputLines g.ending path content
          if o.has 's' then
            let (e, goesOn) := shown g script here e
            (e, [], goesOn)
          else (e, lines ++ here, true)
  let (e, lines, _) := (c.sources (orInput paths)).foldl step start
  if o.has 's' then e else (shown g script lines e).1

end Edit

def sed (c : Call) : Effect :=
  let options := known "bsnrzuEe:f:l:i::V:" <|
    "binary=b regexp-extended=r debug expression=e file=f in-place=i line-length=l"
    ++ " null-data=z zero-terminated=z quiet=n posix silent=n sandbox separate=s unbuffered=u"
    ++ " follow-symlinks"
  withOptions c 1 options fun o =>
    let isOne := !o.hasAny "ef" && o.operands.isEmpty
    match Edit.scriptOf c o with
    | .error message => .failing c 4 message
    | .ok (text, paths) =>
        let isQuiet := text.take 2 == "#n".toList
        match isOne, Edit.read (o.hasAny "Er") text with
        | true, _ => misused c 1 "no script".toList
        | false, .error (status, message) => .failing c status message
        | false, .ok script =>
            let g : Edit.Setting :=
              { quiet := o.has 'n' || isQuiet
                width := ((o.value? 'l').bind Shell.Integer.count?).getD 70
                ending := ending o, files := c.files }
            if !o.has 'i' then Edit.overInputs c o g script paths
            else
              (paths.foldl
                (fun (e, goesOn) path =>
                  if goesOn then Edit.inPlace c g script ((o.value? 'i').getD []) e path
                  else (e, false))
                (Effect.quiet c 0, true)).1

end SmtScript.Host.Utility
