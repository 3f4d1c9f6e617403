import SmtScript.Host.Shell.Pattern
import SmtScript.Host.Utility.Lines

/-!
# Counts

`wc` counts the lines, words and bytes of files, and the columns of their longest lines.
-/

namespace SmtScript.Host.Utility

/-- How a text goes on after a character: with how many words, how many columns in the line,
and how many in the longest one. -/
structure Measure where
  words : Nat
  inWord : Bool
  column : Nat
  longest : Nat

namespace Measure

/-- A character that can be printed takes a column, and is part of a word if it is no blank. -/
def step (m : Measure) (c : Char) : Measure :=
  if c = '\n' || c = '\r' || c = '\x0c' then
    { m with inWord := false, column := 0, longest := max m.longest m.column }
  else if c = '\t' then { m with inWord := false, column := (m.column / 8 + 1) * 8 }
  else if c = ' ' then { m with inWord := false, column := m.column + 1 }
  else if c = '\x0b' then { m with inWord := false }
  else if Shell.Pattern.isInClass "graph" c then
    { m with
      words := if m.inWord then m.words else m.words + 1
      inWord := true
      column := m.column + 1 }
  else m

def ofText (text : Raw) : Measure :=
  let m := text.foldl step ⟨0, false, 0, 0⟩
  { m with longest := max m.longest m.column }

end Measure

/-- The counts that are asked for, in their order. -/
def countsOf (kinds : List Char) (text : Raw) : List Nat :=
  let m := Measure.ofText text
  kinds.map fun
    | 'l' => text.count '\n'
    | 'w' => m.words
    | 'L' => m.longest
    | _ => text.length

/-- The counts of two texts together. -/
def together (kinds : List Char) (first second : List Nat) : List Nat :=
  (kinds.zip (first.zip second)).map fun (kind, m, n) => if kind = 'L' then max m n else m + n

/-- The width of the columns: that of the sum of all sizes, and more where a size is not known
before reading. -/
def countWidth (c : Call) (paths : List Raw) (kinds : List Char) : Nat :=
  let isPlain (path : Raw) : Bool :=
    if path = ['-'] then c.inputFile?.isSome else c.files.isFile path
  let isThere (path : Raw) : Bool :=
    if path = ['-'] then !c.inputIsClosed else c.files.exists? path
  let size (path : Raw) : Nat :=
    match isPlain path, c.read path with
    | true, .ok content => content.length
    | _, _ => 0
  let least := if paths.any fun path => isThere path && !isPlain path then 7 else 1
  if paths.length = 1 && kinds.length = 1 then 1
  else max least (Raw.ofNat (paths.foldl (fun n path => n + size path) 0)).length

/-- The files whose names are given in a file, with a null byte behind each. -/
def namedPaths (c : Call) (source : Raw) (operands : List Raw) : Except Effect (List Raw) :=
  match operands, c.read source with
  | extra :: _, _ =>
      let e := misused c 1 ("extra operand ".toList ++ Citation.escaped extra)
      let more := "file operands cannot be combined with --files0-from\n".toList
      .error { e with said := e.said.take 1 ++ Said.err more :: e.said.drop 1 }
  | [], .ok text => .ok (Raw.records '\x00' text)
  | [], .error reason =>
      .error (.failing c 1 ("cannot open ".toList ++ Citation.forShell source
        ++ " for reading: ".toList ++ reason))

/-- Why a name in a list of names is none. -/
def nameFault? (source? : Option Raw) (number : Nat) (path : Raw) : Option Raw :=
  source?.bind fun source =>
    if path.isEmpty then
      some (Citation.bare source ++ ':' :: Raw.ofNat number
        ++ ": invalid zero-length file name".toList)
    else if path = ['-'] && source = ['-'] then
      some "when reading file names from stdin, no file name of \x27-\x27 allowed".toList
    else none

/-- Counts in the files at paths, which can come from a list. The counts of standard input have no
name where no path is given. -/
def countAll (c : Call) (kinds : List Char) (source? : Option Raw) (named : Bool)
    (paths : List Raw) : Effect :=
  let isKnown := source?.all fun source =>
    if source = ['-'] then c.inputFile?.isSome else c.files.isFile source
  let width := if isKnown then countWidth c paths kinds else 1
  let row (counts : List Nat) (name : Raw) : Raw :=
    [' '].intercalate (counts.map fun n => pad false width (Raw.ofNat n)) ++ name ++ ['\n']
  let zeros := kinds.map fun _ => 0
  let show_ (e : Effect) (counts : List Nat) (path : Raw) : Effect :=
    e.say (row counts (if named then ' ' :: path else []))
  let step := fun (e, sums) ((path, content?), i) =>
    let e := Effect.afterPath e c path
    match nameFault? source? (i + 1) path, content? with
    | some fault, _ => (Effect.complain e c 1 fault, sums)
    | none, .ok content =>
        let counts := countsOf kinds content
        (show_ e counts path, together kinds sums counts)
    | none, .error reason =>
        let name := if named then Citation.bare path else "\x27standard input\x27".toList
        let e := e.complain c 1 (name ++ ": ".toList ++ reason)
        (if path = ['-'] || c.isDirectory path then show_ e zeros path else e, sums)
  let (e, sums) := (c.sources paths).zipIdx.foldl step (Effect.quiet c 0, zeros)
  (if 1 < paths.length then e.say (row sums " total".toList) else e).closing c paths "-"

/-- Counts lines, words and bytes, or what the options say. -/
def wc (c : Call) : Effect :=
  let options := known "cLlmw" "bytes=c chars=m lines=l words=w debug files0-from: max-line-length=L"
  withOptions c 1 options fun o =>
    let chosen := "lwmcL".toList.filter fun (l : Char) => o.has l
    let kinds := if chosen.isEmpty then "lwc".toList else chosen
    match o.value? "files0-from" with
    | none => countAll c kinds none (!o.operands.isEmpty) (orInput o.operands)
    | some source =>
        match namedPaths c source o.operands with
        | .error e => e
        | .ok paths =>
            let e := countAll c kinds (some source) true paths
            if c.isInput source then e.afterAll else e

end SmtScript.Host.Utility
