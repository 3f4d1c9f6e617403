import SmtScript.Host.Utility.Extent
import SmtScript.Host.Utility.Regular

/-!
# Search

`grep` chooses the lines in which one of several regular expressions matches, and shows them, the
matches, or how many there are.
-/

namespace SmtScript.Host.Utility

/-- What is searched for, and what is shown of a file. -/
structure Searching where
  pattern : Regular
  folds : Bool
  inverts : Bool
  most? : Option Nat
  before? : Option Nat
  after? : Option Nat
  counts : Bool
  onlyMatches : Bool
  numbers : Bool
  offsets : Bool
  tabs : Bool
  /-- Does a null byte end the names? -/
  nullNames : Bool
  ending : Char

/-- A line with its number and its place in the file. -/
structure SearchLine where
  text : Raw
  number : Nat
  offset : Nat
  chosen : Bool

namespace Searching

/-- The lines of a text. -/
def lines (s : Searching) (content : Raw) : List SearchLine :=
  let step := fun (lines, number, offset) piece =>
    let text := piece.filter (· ≠ s.ending)
    let chosen := (s.pattern.find? s.folds none text).isSome != s.inverts
    (SearchLine.mk text number offset chosen :: lines, number + 1, offset + piece.length)
  ((Raw.pieces s.ending content).foldl step ([], 1, 0)).1.reverse

/-- The lines up to the most that are chosen, with those behind that are not. -/
def limited (most : Nat) : List SearchLine → List SearchLine
  | [] => []
  | line :: others =>
      if !line.chosen then line :: limited most others
      else
        match most with
        | 0 => []
        | most + 1 => line :: limited most others

/-- Would more input than this change nothing? -/
def isSettled (s : Searching) (brief : Bool) (found : Bool) (content : Raw) : Bool :=
  brief && found || match s.most? with
    | none => false
    | some most =>
        let all := s.lines content
        let read := limited most all
        most ≤ (read.filter SearchLine.chosen).length
          && (s.after?.getD 0 = 0 || read.length < all.length)

/-- All matches in a line that are not empty, with their places. -/
def allMatches (s : Searching) (fuel : Nat) (before? : Option Char) (offset : Nat) (text : Raw) :
    List (Nat × Raw) :=
  match fuel with
  | 0 => []
  | fuel + 1 =>
      match s.pattern.find? s.folds before? text with
      | none => []
      | some f =>
          let here := offset + f.before.length
          if f.text.isEmpty then
            match f.place.rest with
            | [] => []
            | c :: rest => allMatches s fuel (some c) (here + 1) rest
          else
            (here, f.text)
              :: allMatches s fuel f.place.before? (here + f.text.length) f.place.rest

/-- What stands before a line: the name of the file, the number and the place. -/
def head (s : Searching) (title? : Option Raw) (mark : Char) (number offset : Nat) : Raw :=
  let name := title?.elim [] fun title => title ++ [if s.nullNames then '\x00' else mark]
  let head := name ++ (if s.numbers then Raw.ofNat number ++ [mark] else [])
    ++ (if s.offsets then Raw.ofNat offset ++ [mark] else [])
  if s.tabs && !head.isEmpty then head ++ ['\t'] else head

/-- A line as it is shown, chosen or as context. -/
def line (s : Searching) (title? : Option Raw) (l : SearchLine) : Raw :=
  if !s.onlyMatches then
    s.head title? (if l.chosen then ':' else '-') l.number l.offset ++ l.text ++ [s.ending]
  else if s.inverts || !l.chosen then []
  else
    (s.allMatches (l.text.length + 1) none l.offset l.text).flatMap fun (offset, text) =>
      s.head title? ':' l.number offset ++ text ++ [s.ending]

/-- The chosen lines, and those that stand near enough before or after one. -/
def near (before after : Nat) (lines : List SearchLine) : List SearchLine :=
  let forward := (lines.foldl
    (fun (kept, left) l =>
      if l.chosen then ((l, true) :: kept, after)
      else ((l, 0 < left) :: kept, left - 1))
    (([], 0) : List (SearchLine × Bool) × Nat)).1
  (forward.foldl
    (fun (kept, left) (l, isNear) =>
      if l.chosen then (l :: kept, before)
      else (if isNear || 0 < left then l :: kept else kept, left - 1))
    (([], 0) : List SearchLine × Nat)).1

/-- Lines with a mark where some between them are left out. With `next`, something was shown
before. -/
def grouped (s : Searching) (title? : Option Raw) (next : Bool) (lines : List SearchLine) : Raw :=
  let hasContext := s.before?.isSome || s.after?.isSome
  let step := fun (text, last) l =>
    let apart := hasContext && (match last with
      | some number => SearchLine.number l ≠ number + 1
      | none => next)
    (s.line title? l :: (if apart then "--\n".toList :: text else text), some l.number)
  (lines.foldl step (([], none) : List Raw × Option Nat)).1.reverse.flatten

end Searching

/-! ## Options -/

/-- The expression that a pattern with the options stands for. -/
def searched (o : Options) (pattern : Raw) : Except Raw Regular := do
  let e ← if o.has 'F' then pure (Regular.ofText pattern)
    else (Regular.read (.searching (o.hasAny "EP")) pattern).map Prod.fst
  if o.has 'x' then return .andThen (.anchor .lineStart) (.andThen e (.anchor .lineEnd))
  else if o.has 'w' then
    return .andThen (.anchor .apartBefore) (.andThen e (.anchor .apartAfter))
  else return e

/-- The patterns of a search and the files in which it looks. -/
def searchTarget (c : Call) (o : Options) : Except Raw (List Raw × List Raw) :=
  let given := o.values 'e'
  match o.value? 'f', o.operands with
  | some path, operands =>
      match c.read path with
      | .ok text => .ok (given ++ (Raw.lines text).map Raw.chomp, operands)
      | .error reason => .error (path ++ ": ".toList ++ reason)
  | none, pattern :: paths =>
      if given.isEmpty then .ok (Raw.split '\n' pattern, paths)
      else .ok (given.flatMap (Raw.split '\n'), pattern :: paths)
  | none, [] =>
      if given.isEmpty then .error [] else .ok (given.flatMap (Raw.split '\n'), [])

/-- What the options ask for, with an expression. -/
def Options.searching (o : Options) (pattern : Regular) : Searching :=
  let digits := o.letters.filter Char.isDigit
  let around? := if digits.isEmpty then (o.value? 'C').bind Shell.Integer.count?
    else some (Nat.ofDigitChars 10 digits 0)
  { pattern
    folds := o.hasAny "iy"
    inverts := o.has 'v'
    most? := (o.value? 'm').bind Shell.Integer.count?
    before? := ((o.value? 'B').bind Shell.Integer.count?).orElse fun _ => around?
    after? := ((o.value? 'A').bind Shell.Integer.count?).orElse fun _ => around?
    counts := o.has 'c'
    onlyMatches := o.has 'o'
    numbers := o.has 'n'
    offsets := o.has 'b'
    tabs := o.has 'T'
    nullNames := o.has 'Z'
    ending := ending o }

/-- The files at a path and, where it is a directory, below it. -/
def filesBelow (files : FileSystem) (path : Raw) : List Raw :=
  match files.locate? path, files.entry? path with
  | some loc, some .directory =>
      let below := files.entries.filter fun (other, entry) =>
        loc.isPrefixOf other && (entry matches .file _)
      (below.map fun (other, _) =>
        path ++ (other.drop loc.length).flatMap fun name => '/' :: name).mergeSort
          Raw.isBefore
  | _, _ => [path]

/-- Is the file one that the search looks at? -/
def isIncluded (o : Options) (path : Raw) : Bool :=
  let name := (path.reverse.takeWhile (· ≠ '/')).reverse
  let fits (pattern : Raw) : Bool :=
    Shell.Pattern.accepts (Shell.Pattern.ofMarked (pattern.map (·, false))) name
  let included := o.values "include"
  path = ['-'] || (included.isEmpty || included.any fits) && !(o.values "exclude").any fits

/-- How far a search has come. -/
structure SearchState where
  effect : Effect
  found : Bool
  /-- Was a line shown? -/
  shown : Bool

/-- Looks through a file, and shows what is asked for. -/
def searchFile (c : Call) (o : Options) (s : Searching) (titled : Bool) (state : SearchState)
    (path : Raw) (content? : Except Raw Raw) : SearchState :=
  let e := state.effect.afterPath c path
  let name := if path = ['-'] then (o.value? "label").getD "(standard input)".toList else path
  let isQuiet := o.hasAny "qlLc"
  match content? with
  | .error reason =>
      if o.has 'd' && o.value? 'd' == some "skip".toList && c.isDirectory path then state
      else if o.has 's' then { state with effect := { e with status := 2 } }
      else { state with effect := e.complain c 2 (name ++ ": ".toList ++ reason) }
  | .ok content =>
      if c.isOutput path && !isQuiet then
        { state with effect := e.complain c 2 (name ++ ": input file is also the output".toList) }
      else
        let isBinary := content.contains '\x00' && !o.hasAny "az"
        let lines := match s.most? with
          | some most => Searching.limited most (s.lines content)
          | none => s.lines content
        let count := if isBinary && o.has 'I' then 0
          else (lines.filter SearchLine.chosen).length
        let found := state.found || 0 < count
        let listed := name ++ [if s.nullNames then '\x00' else '\n']
        let title? := if titled then some name else none
        if o.has 'q' then ⟨e, found, state.shown⟩
        else if o.has 'l' then ⟨if 0 < count then e.say listed else e, found, state.shown⟩
        else if o.has 'L' then ⟨if count = 0 then e.say listed else e, found, state.shown⟩
        else if s.counts then
          let head := title?.elim [] fun title => title ++ [if s.nullNames then '\x00' else ':']
          ⟨e.say (head ++ Raw.ofNat count ++ ['\n']), found, state.shown⟩
        else if count = 0 then ⟨e, found, state.shown⟩
        else if isBinary then
          ⟨e.complain c e.status (name ++ ": binary file matches".toList), found, state.shown⟩
        else
          let near := Searching.near (s.before?.getD 0) (s.after?.getD 0) lines
          ⟨e.say (s.grouped title? state.shown near), found, true⟩

/-- With `-q`, a chosen line counts more than a failure. -/
def grep (standard : List Char) (c : Call) : Effect :=
  let options := known "0123456789A:B:C:D:EFGHILPTUVX:Zabcd:e:f:hilm:noqrRsuvwxyz" <|
    "basic-regexp=G extended-regexp=E fixed-regexp=F fixed-strings=F perl-regexp=P"
    ++ " after-context=A before-context=B binary-files: byte-offset=b context=C color::"
    ++ " colour=color:: count=c devices=D directories=d exclude: exclude-from: exclude-dir:"
    ++ " file=f files-with-matches=l files-without-match=L group-separator: include:"
    ++ " ignore-case=i no-ignore-case initial-tab=T label: line-buffered line-number=n"
    ++ " line-regexp=x max-count=m no-filename=h no-group-separator no-messages=s null=Z"
    ++ " null-data=z only-matching=o quiet=q recursive=r dereference-recursive=R regexp=e"
    ++ " invert-match=v silent=q text=a binary=U unix-byte-offsets=u with-filename=H"
    ++ " word-regexp=w"
  withOptions c 2 options fun o =>
    let kinds := (o.letters.filter "EFGP".toList.contains).eraseDups
    let o := { o with given := standard.map (Key.letter ·, []) ++ o.given }
    if 1 < kinds.length then .failing c 2 "conflicting matchers specified".toList
    else
    match searchTarget c o with
    | .error [] => { (Effect.quiet c 2) with said :=
        [.err "Usage: grep [OPTION]... PATTERNS [FILE]...\n".toList] }
    | .error message => .failing c 2 message
    | .ok (patterns, paths) =>
        match patterns.mapM (searched o) with
        | .error message => .failing c 2 message
        | .ok [] => (Effect.quiet c 1).afterAll
        | .ok (first :: others) =>
            let s := o.searching (others.foldl Regular.either first)
            let deep := o.hasAny "rR"
            let isBare := paths.isEmpty && deep
            let start := if isBare then [['.']] else orInput paths
            let isPlain := start.all fun path => !c.isDirectory path
            let paths := if deep then start.flatMap (filesBelow c.files) else start
            let paths := if isBare then paths.map (·.drop 2) else paths
            let titled := match o.last? ['H', 'h'] with
              | some key => key = 'H'
              | none => 1 < start.length || deep && !isPlain
            let state := (c.sources (paths.filter (isIncluded o))).foldl
              (fun state (path, content?) => searchFile c o s titled state path content?)
              (SearchState.mk (Effect.quiet c 0) false false)
            let state := if (paths.all c.isInput) && s.isSettled (o.hasAny "qlL") state.found c.input then
                { state with effect := state.effect.settled }
              else state
            let status := state.effect.status
            if state.found && (o.has 'q' || status = 0) then { state.effect with status := 0 }
            else { state.effect with status := if status = 0 then 1 else status }

end SmtScript.Host.Utility
