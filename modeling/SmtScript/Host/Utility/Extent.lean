import SmtScript.Host.Utility.Amount
import SmtScript.Host.Utility.Lines
import SmtScript.Host.Utility.Quantity

/-!
# Beginnings and ends

`head` and `tail` write the first or the last lines or bytes of files, or all but those.
-/

namespace SmtScript.Host.Utility

/-- How much of a file is kept. -/
structure Extent where
  inBytes : Bool
  count : Nat
  /-- Does the count begin at the other end? -/
  turned : Bool

/-- How many lines or bytes a text asks for. -/
def countOf (inBytes : Bool) (text : Raw) : Except Raw Nat :=
  (Amount.read false "bkKmMGTPEZY" text).mapError fun fault =>
    fault.message (if inBytes then "number of bytes" else "number of lines") text

/-- The extent at the start that a text gives. A dash before it turns it. -/
def Extent.ofStart (inBytes : Bool) (text : Raw) : Except Raw Extent := do
  let turned := text.head? == some '-'
  let n ← countOf inBytes (if turned then text.drop 1 else text)
  return ⟨inBytes, n, turned⟩

/-- The extent at the end that a text gives, after another one. A plus before it turns it for good,
and a dash says nothing. -/
def Extent.ofEnd (before : Extent) (inBytes : Bool) (text : Raw) : Except Raw Extent := do
  let digits := if text.head? == some '-' then text.drop 1 else text
  let n ← countOf inBytes digits
  return ⟨inBytes, n, before.turned || text.head? == some '+'⟩

/-- Without options there are ten lines. -/
def Extent.usual : Extent :=
  ⟨false, 10, false⟩

/-- The first items, or the last ones. -/
def Extent.part {α : Type} (e : Extent) (fromEnd : Bool) (items : List α) : List α :=
  match fromEnd, e.turned with
  | false, false => items.take e.count
  | false, true => items.take (items.length - e.count)
  | true, false => items.drop (items.length - e.count)
  | true, true => items.drop (e.count - 1)

/-- The part of a content with records that end so. -/
def Extent.of (e : Extent) (fromEnd : Bool) (ending : Char) (content : Raw) : Raw :=
  if e.inBytes then e.part fromEnd content
  else (e.part fromEnd (Raw.pieces ending content)).flatten

/-! ## The old form -/

/-- What letters behind a count ask for: whether it counts bytes, the unit, and other options. -/
def oldLetters (inBytes : Bool) (unit : Raw) (others : List Raw) :
    Raw → Except Raw (Bool × Raw × List Raw)
  | [] => .ok (inBytes, unit, others.reverse)
  | l :: rest =>
      if l = 'c' then oldLetters true [] others rest
      else if l = 'l' then oldLetters false unit others rest
      else if "bkm".toList.contains l then oldLetters true [l] others rest
      else if "qvz".toList.contains l then oldLetters inBytes unit (['-', l] :: others) rest
      else .error ("invalid trailing option -- ".toList ++ [l])

/-- A count as the first word, with letters behind it that stand for options. -/
def oldHead (args : List Raw) : Except Raw (List Raw) :=
  match args with
  | ('-' :: d :: more) :: rest =>
      if !d.isDigit then .ok args
      else do
        let digits := (d :: more).takeWhile Char.isDigit
        let (inBytes, unit, others) ← oldLetters false [] [] ((d :: more).drop digits.length)
        return ['-', if inBytes then 'c' else 'n'] :: (digits ++ unit) :: (others ++ rest)
  | _ => .ok args

/-- A count as the first of at most two words. -/
def oldTail (args : List Raw) : List Raw :=
  let isLast (rest : List Raw) : Bool :=
    match rest with
    | [] => true
    | [path] => path.head? ≠ some '-' || path = ['-'] || path = ['-', '-']
    | [mark, _] => mark = ['-', '-']
    | _ => false
  match args with
  | (sign :: more) :: rest =>
      let digits := more.takeWhile Char.isDigit
      let letters := more.drop digits.length
      let kind? := letters.head?.filter "bcl".toList.contains
      let follows := (if kind?.isSome then letters.drop 1 else letters) == ['f']
      let fits := letters.length = kind?.toList.length + (if follows then 1 else 0)
      let isCount := if sign = '-' then !more.isEmpty && more ≠ ['c'] else sign = '+'
      let count := if digits.isEmpty then ['1', '0'] else digits
      let unit := if kind? = some 'b' then ['b'] else []
      if isLast rest && isCount && fits then
        ['-', if kind?.any (· ≠ 'l') then 'c' else 'n']
          :: ((if sign = '+' then ['+'] else []) ++ count ++ unit)
          :: ((if follows then [['-', 'f']] else []) ++ rest)
      else args
  | _ => args

/-! ## Files -/

/-- The beginnings or the ends of files, with titles where there are several. -/
def extents (c : Call) (fromEnd : Bool) (extent : Extent) (o : Options) : Effect :=
  let titled := match o.last? ['v', 'q'] with
    | some key => key = 'v'
    | none => 1 < o.operands.length
  let title (e : Effect) (path : Raw) : Raw :=
    let isNext := e.said.any fun
      | .out _ => true
      | .err _ => false
    let shown := if path = ['-'] then "standard input".toList else path
    if !titled then []
    else (if isNext then ['\n'] else []) ++ "==> ".toList ++ shown ++ " <==\n".toList
  let paths := orInput o.operands
  let e := (c.sources paths).foldl
    (fun e (path, content?) =>
      match content? with
      | .ok content =>
          let part := extent.of fromEnd (ending o) content
          let e := if !c.isInput path then e
            else if fromEnd || extent.turned then e.afterAll
            else
              let whole := if extent.inBytes then part.length
                else part.count (ending o)
              let e := { e with taken? := some part.length }
              if whole < extent.count then e.afterAll else e.settled
          e.say (title e path ++ part)
      | .error reason =>
          if path = ['-'] then
            let isSized := fromEnd || extent.turned
            let what := if c.inputIsClosed && isSized then "cannot fstat" else "error reading"
            let e := e.say (title e path)
            if !isSized && extent.count = 0 then e
            else e.complain c 1 ((what ++ " \x27standard input\x27: ").toList ++ reason)
          else if c.isDirectory path then
            (e.say (title e path)).complain c 1
              ("error reading ".toList ++ Citation.forShell path ++ ": ".toList ++ reason)
          else
            e.complain c 1 ("cannot open ".toList ++ Citation.forShell path ++ " for reading: ".toList
              ++ reason))
    (Effect.quiet c 0)
  e.closing c paths "-"

def head (c : Call) : Effect :=
  let options := known "c:n:qvz0123456789" <|
    "bytes=c lines=n -presume-input-pipe quiet=q silent=q verbose=v zero-terminated=z"
  let step (extent : Extent) (key : Key) (value : Raw) : Except Effect Extent :=
    match key with
    | .letter 'c' => (Extent.ofStart true value).mapError (.failing c 1)
    | .letter 'n' => (Extent.ofStart false value).mapError (.failing c 1)
    | .letter l =>
        if l.isDigit then .error (misused c 1 ("invalid trailing option -- ".toList ++ [l]))
        else .ok extent
    | _ => .ok extent
  match oldHead c.args with
  | .error message => misused c 1 message
  | .ok args =>
      let o := Options.read options false args
      match o.over c 1 Extent.usual step with
      | .error e => e
      | .ok extent => extents c false extent o

/-- With an option it goes on after the end, where more may come. -/
def tail (c : Call) : Effect :=
  let options := known "c:fFn:qs:vz0123456789" <|
    "bytes=c follow:: lines=n max-unchanged-stats: -disable-inotify pid:"
    ++ " -presume-input-pipe quiet=q retry silent=q sleep-interval=s verbose=v"
    ++ " zero-terminated=z"
  let counted (extent : Extent) (what : String) (value : Raw) : Except Effect Extent :=
    match Amount.read false "" value with
    | .ok _ => .ok extent
    | .error fault => .error (.failing c 1 (fault.message what value))
  let step (extent : Extent) (key : Key) (value : Raw) : Except Effect Extent :=
    match key with
    | .letter 'c' => (extent.ofEnd true value).mapError (.failing c 1)
    | .letter 'n' => (extent.ofEnd false value).mapError (.failing c 1)
    | .letter 's' =>
        if (Quantity.front? value).any fun (q, rest) => rest.isEmpty && !q.undefined && !q.negative then
          .ok extent
        else .error (.failing c 1 ("invalid number of seconds: ".toList ++ Citation.escaped value))
    | .long "follow" =>
        let words := [("descriptor", 0), ("name", 1)]
        if value.isEmpty then .ok extent
        else (meant c "--follow" words value).map fun _ => extent
    | .long "pid" => counted extent "PID" value
    | .long "max-unchanged-stats" =>
        counted extent "maximum number of unchanged stats between opens" value
    | .letter l =>
        if l.isDigit then
          .error (.failing c 1 ("option used in invalid context -- ".toList ++ [l]))
        else .ok extent
    | .long _ => .ok extent
  let o := Options.read options false (oldTail c.args)
  match o.over c 1 Extent.usual step with
  | .error e => e
  | .ok extent =>
      let follows := o.hasAny "fF" || o.has "follow"
      let isByName := match o.last? ['F', 'f', "follow"] with
        | some (.letter 'F') => true
        | some (.long _) => (o.value? "follow").any fun word => word.head? = some 'n'
        | _ => false
      let retries := o.has 'F' || o.has "retry"
      let warnings := (if retries && !follows then
          ["--retry ignored; --retry is useful only when following"]
        else if retries && !isByName then ["--retry only effective for the initial open"]
        else []) ++ (if o.has "pid" && !follows then
          ["PID ignored; --pid=PID is useful only when following"] else [])
      let start := warnings.foldl
        (fun e text => Effect.complain e c 0 ("warning: ".toList ++ text.toList)) (.quiet c 0)
      let paths := orInput o.operands
      if isByName && paths.contains ['-'] then
        start.complain c 1 "cannot follow \x27-\x27 by name".toList
      else if extent.count = 0 && !extent.turned && !follows then start
      else
        let e := extents c true extent o
        let e := { e with said := start.said ++ e.said }
        let waits := !o.operands.isEmpty || c.inputFile?.isSome
        if !follows || !waits then e
        else if !retries && !paths.any c.files.exists? && !paths.contains ['-'] then
          e.complain c 1 "no files remaining".toList
        else e.staying

end SmtScript.Host.Utility
