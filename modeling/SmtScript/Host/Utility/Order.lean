import SmtScript.Host.Utility.Amount
import SmtScript.Host.Utility.Order.Key

/-!
# Order of lines

`sort` puts the lines of files in order by keys. It can also tell whether they are in order, or put
files together that are.
-/

namespace SmtScript.Host.Utility

/-- Keeps the first of neighbours that are alike. -/
def withoutRepeats (same : Raw → Raw → Bool) : List Raw → List Raw
  | a :: b :: rest =>
      if same a b then withoutRepeats same (a :: rest) else a :: withoutRepeats same (b :: rest)
  | lines => lines
termination_by lines => lines.length

/-- The first line that should not follow the one before it, with its number. -/
def disorder? (fits : Raw → Raw → Bool) : Nat → List Raw → Option (Nat × Raw)
  | n, a :: b :: rest => if fits a b then disorder? fits (n + 1) (b :: rest) else some (n + 1, b)
  | _, _ => none

/-- What the options ask for. -/
structure Sorting where
  keys : List SortKey
  /-- The letters that count for all keys without letters. -/
  letters : List Char
  /-- Is it only looked whether the lines are in order? The letter that asks for it. -/
  check? : Option Char
  output? : Option Raw
  separator? : Option Char

namespace Sorting

def conflict (letters : List Char) : Raw :=
  "options \x27-".toList ++ letters ++ "\x27 are incompatible".toList

/-- The words that stand for letters. -/
def words : List (String × Char) :=
  [("general-numeric", 'g'), ("human-numeric", 'h'), ("month", 'M'), ("numeric", 'n'),
    ("random", 'R'), ("version", 'V')]

/-- The separator of fields that an option asks for, if it is one character. -/
def separator (text : Raw) : Except Raw Char :=
  match text with
  | [s] => .ok s
  | ['\\', '0'] => .ok '\x00'
  | [] => .error "empty tab".toList
  | text => .error ("multi-character tab ".toList ++ Citation.escaped text)

def checking (s : Sorting) (letter : Char) : Except Raw Sorting :=
  if s.check?.any (· ≠ letter) then .error (conflict ['c', 'C'])
  else .ok { s with check? := some letter }

/-- A size that changes nothing. -/
def sized (s : Sorting) (option units : String) (least : Nat) (text : Raw) : Except Raw Sorting :=
  match Amount.read false units text with
  | .error .unit =>
      let isShare := text.getLast? = some '%' && text.dropLast.all Char.isDigit
      if units.contains '%' && isShare then .ok s
      else .error (AmountFault.unit.ofOption option.toList text)
  | .error fault => .error (fault.ofOption option.toList text)
  | .ok n =>
      if least ≤ n then .ok s
      else if option = "--parallel" then .error "number in parallel must be nonzero".toList
      else .error (AmountFault.invalid.ofOption option.toList text)

/-- Goes on with an option. -/
def step (c : Call) (s : Sorting) (key : Key) (value : Raw) : Except Effect Sorting :=
  let done (result : Except Raw Sorting) : Except Effect Sorting := result.mapError (.failing c 2)
  match key with
  | .long "sort" => (meant c "--sort" words value).map fun l => { s with letters := s.letters ++ [l] }
  | .long "check" =>
      if value.isEmpty then done (s.checking 'c')
      else do
        let kinds := [("quiet", 'C'), ("silent", 'C'), ("diagnose-first", 'c')]
        done (s.checking (← meant c "--check" kinds value))
  | .long "parallel" => done (s.sized "--parallel" "" 1 value)
  | .long "batch-size" => done (s.sized "--batch-size" "" 2 value)
  | .long _ => .ok s
  | .letter 'k' => done ((SortKey.read value).map fun k => { s with keys := s.keys ++ [k] })
  | .letter 'o' =>
      if s.output?.any (· ≠ value) then done (.error "multiple output files specified".toList)
      else .ok { s with output? := some value }
  | .letter 't' => done do
      let separator ← separator value
      if s.separator?.any (· ≠ separator) then throw "incompatible tabs".toList
      return { s with separator? := some separator }
  | .letter 'S' => done (s.sized "-S" "EgGkKmMPtTYZb%" 0 value)
  | .letter l =>
      if l = 'c' || l = 'C' then done (s.checking l)
      else if SortKey.orderLetters.contains l then .ok { s with letters := s.letters ++ [l] }
      else .ok s

/-- The keys with the letters for all, or what does not fit together. -/
def finish (s : Sorting) : Except Raw Sorting :=
  let isPlain := s.letters.all (· = 'r')
  let keys := s.keys.map fun k => k.inheriting s.letters
  let all := if keys.isEmpty && !isPlain then [SortKey.whole s.letters] else keys
  match all.findSome? SortKey.conflict? with
  | some letters => .error (conflict letters)
  | none => .ok { s with keys := all }

def byKeys (s : Sorting) (a b : Raw) : Ordering :=
  s.keys.foldl (fun order k => order.then (k.compareLines s.separator? a b)) .eq

/-- The order of lines. Where the keys are alike, all of the lines counts, if that is wanted or there
are no keys. -/
def order (s : Sorting) (keysOnly : Bool) (a b : Raw) : Ordering :=
  let last := SortKey.compareTexts a b
  let last := if s.letters.contains 'r' then last.swap else last
  if s.keys.isEmpty then last
  else if keysOnly then s.byKeys a b
  else (s.byKeys a b).then last

end Sorting

/-- A place in an old form: the fields before it, the characters after a point, and letters. -/
def oldPlace? (text : Raw) : Option (Nat × Nat × Raw) :=
  let (fields, after) := Shell.Integer.digits 10 text
  let found? := match text.head?.any Char.isDigit, after with
    | false, _ => none
    | true, '.' :: more =>
        let (chars, after) := Shell.Integer.digits 10 more
        if more.head?.any Char.isDigit then some (fields, chars, after) else none
    | true, after => some (fields, 0, after)
  found?.filter fun (_, _, letters) => letters.all SortKey.orderLetters.contains

/-- An old form of a key: the fields before the start after a plus, and perhaps in the next word
those before the end after a dash. Gives the key, and whether the next word is part of it. -/
def oldKey? (word : Raw) (next? : Option Raw) : Option (Raw × Bool) :=
  let stop? := (next?.filter fun next => next.head? = some '-').bind fun next => oldPlace? (next.drop 1)
  (if word.head? = some '+' then oldPlace? (word.drop 1) else none).map fun (fields, chars, letters) =>
    let start := Raw.ofNat (fields + 1) ++ '.' :: Raw.ofNat (chars + 1) ++ letters
    match stop? with
    | some (fields, 0, letters) => (start ++ ',' :: Raw.ofNat (max 1 fields) ++ letters, true)
    | some (fields, chars, letters) =>
        (start ++ ',' :: Raw.ofNat (fields + 1) ++ '.' :: Raw.ofNat chars ++ letters, true)
    | none => (start, false)

/-- The words with keys in old forms in the form of today. -/
def oldKeys (previous : Raw) : List Raw → List Raw
  | [] => []
  | ['-', '-'] :: rest => ['-', '-'] :: rest
  | word :: rest =>
      let takesNext := ["-k", "-o", "-t", "-S", "-T"].any fun option => option.toList = previous
      match if takesNext then none else oldKey? word rest.head?, rest with
      | some (key, true), _ :: rest => ['-', 'k'] :: key :: oldKeys [] rest
      | some (key, _), rest => ['-', 'k'] :: key :: oldKeys [] rest
      | none, rest => word :: oldKeys word rest

/-- The first of the paths that cannot be read, and why. -/
def unreadable? (c : Call) (isCheck : Bool) (paths : List Raw) : Option Raw :=
  (c.sources paths).findSome? fun (path, content?) =>
    match content? with
    | .ok _ => none
    | .error reason =>
        let isRead := c.isDirectory path || path = ['-'] && (isCheck || !c.inputIsClosed)
        let what := if isRead then "read failed: "
          else if isCheck then "open failed: "
          else if path = ['-'] then "stat failed: "
          else "cannot read: "
        some (what.toList ++ Citation.bare path ++ ": ".toList ++ reason)

/-- Says nothing unless asked, if the lines are in order. -/
def checkOrder (c : Call) (isQuiet : Bool) (path : Raw) (lines : List Raw)
    (fits : Raw → Raw → Bool) : Effect :=
  let e := (Effect.quiet c 0).afterPath c path
  match disorder? fits 1 lines with
  | none => e
  | some (n, line) =>
      if isQuiet then { e with status := 1 }
      else e.complain c 1 (path ++ ':' :: Raw.ofNat n ++ ": disorder: ".toList ++ line)

/-- The lines in order. -/
def Sorting.result (s : Sorting) (c : Call) (o : Options) (paths lines : List Raw) : List Raw :=
  let fits (a b : Raw) : Bool := s.order (o.hasAny "su") a b != .gt
  let sorted :=
    if o.has 'm' then
      (c.sources paths).foldl
        (fun sorted (_, content?) =>
          match content? with
          | .ok content => sorted.merge (Raw.records (ending o) content) fits
          | .error _ => sorted)
        []
    else lines.mergeSort fits
  if o.has 'u' then withoutRepeats (fun a b => s.order true a b == .eq) sorted else sorted

/-- Sorts the files at paths. -/
def Sorting.run (s : Sorting) (c : Call) (o : Options) (operands : List Raw) : Effect :=
  let paths := orInput operands
  match s.check?, unreadable? c s.check?.isSome paths with
  | some letter, fault? =>
      if let some extra := paths[1]? then
        .failing c 2 ("extra operand ".toList ++ Citation.escaped extra
          ++ " not allowed with -".toList ++ [letter])
      else if s.output?.isSome then .failing c 2 (Sorting.conflict [letter, 'o'])
      else if let some message := fault? then .failing c 2 message
      else
        let (lines, _) := allRecords c (ending o) operands plainMessage
        checkOrder c (letter = 'C') (paths.headD []) lines fun a b =>
          let order := s.order (o.hasAny "su") a b
          if o.has 'u' then order == .lt else order != .gt
  | none, some message => .failing c 2 message
  | none, none =>
      let (lines, e) := allRecords c (ending o) operands plainMessage
      let result := (s.result c o paths lines).flatMap (· ++ [ending o])
      match s.output? with
      | none => e.say result
      | some path =>
          match e.files.overwrite? path (Raw.toBytes result) with
          | some files => { e with files := files }
          | none =>
              e.complain c 2 ("open failed: ".toList ++ Citation.bare path ++ ": ".toList
                ++ e.files.reason path)

def sort (c : Call) : Effect :=
  let options := known "bCcdfghik:mMno:rRsS:t:T:uVy::z" <|
    "ignore-leading-blanks=b check:: compress-program: debug dictionary-order=d"
    ++ " ignore-case=f files0-from: general-numeric-sort=g ignore-nonprinting=i key=k merge=m"
    ++ " month-sort=M numeric-sort=n human-numeric-sort=h version-sort=V random-sort=R"
    ++ " random-source: sort: output=o reverse=r stable=s batch-size: buffer-size=S"
    ++ " field-separator=t temporary-directory=T unique=u zero-terminated=z parallel:"
  let o := Options.read options false (oldKeys [] c.args)
  match o.over c 2 ⟨[], [], none, none, none⟩ (Sorting.step c) with
  | .error e => e
  | .ok s =>
      match s.finish, (o.value? "files0-from").map fun source => (source, c.read source) with
      | .error message, _ => .failing c 2 message
      | .ok s, none => s.run c o o.operands
      | .ok s, some (source, content?) =>
          match o.operands, content? with
          | extra :: _, _ =>
              let e := misused c 2 ("extra operand ".toList ++ Citation.escaped extra)
              let more := "file operands cannot be combined with --files0-from\n".toList
              { e with said := e.said.take 1 ++ .err more :: e.said.drop 1 }
          | [], .error reason =>
              .failing c 2 ("open failed: ".toList ++ Citation.bare source ++ ": ".toList ++ reason)
          | [], .ok names => s.run c o (Raw.records '\x00' names)

end SmtScript.Host.Utility
