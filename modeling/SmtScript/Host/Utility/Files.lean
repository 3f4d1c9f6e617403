import SmtScript.Host.Mode
import SmtScript.Host.Utility.Names

/-!
# Changes of files

These make and remove files and directories. A failure with one path does not keep the others
from being handled.
-/

namespace SmtScript.Host.Utility

/-- A path and the paths to the directories that hold it. -/
def withParents (path : Raw) : List Raw :=
  let parts := Path.split path
  ((List.range parts.length).map fun n => ['/'].intercalate (parts.take (n + 1))).reverse.filter
    (· ≠ [])

def rmdir (c : Call) : Effect :=
  let options := known "pv" "ignore-fail-on-non-empty path=p parents=p verbose=v"
  withOptions c 1 options fun o =>
    if o.operands.isEmpty then misused c 1 "missing operand".toList
    else
      let one (e : Effect) (path : Raw) : Effect × Bool :=
        let files := e.files
        let e := if o.has 'v' then
            e.say ("rmdir: removing directory, ".toList ++ Citation.forShell path ++ ['\n'])
          else e
        let refused (reason : Raw) : Effect × Bool :=
          (e.complain c 1 ("failed to remove ".toList ++ Citation.forShell path ++ ": ".toList ++ reason),
            false)
        match files.place? path, files.entryItself? path with
        | some loc, some .directory =>
            if lastPart path = ['.'] then refused "Invalid argument".toList
            else if (files.names loc).isEmpty then ({ e with files := files.eraseAllAt loc }, true)
            else if o.has "ignore-fail-on-non-empty" then (e, false)
            else refused "Directory not empty".toList
        | _, some _ => refused "Not a directory".toList
        | _, none => refused (files.reason path)
      forEachPath c o.operands fun e path =>
        ((if o.has 'p' then withParents (withoutSlashes path) else [path]).foldl
          (fun (e, goesOn) path => if goesOn then one e path else (e, false)) (e, true)).1

/-- The directories that a path needs and that are not there yet, from the outermost on. -/
def missingParents (files : FileSystem) (path : Raw) : List Raw :=
  (withParents (withoutSlashes path)).reverse.filter fun path =>
    !files.exists? path && !isDots path

def mkdir (c : Call) : Effect :=
  let options := known "pm:vZ" "context:: mode=m parents=p verbose=v"
  withOptions c 1 options fun o =>
    let refused (e : Effect) (path reason : Raw) : Effect :=
      e.complain c 1 ("cannot create directory ".toList ++ Citation.escaped path ++ ": ".toList
        ++ reason)
    let say (e : Effect) (path : Raw) : Effect :=
      let text := "mkdir: created directory ".toList ++ Citation.forShell path ++ ['\n']
      if o.has 'v' then e.say text else e
    let asked := (o.value? 'm').getD "+".toList
    let usual := Mode.masked c.mask 0o777
    let mode := if o.has 'm' then (Mode.change? c.mask true 0o777 asked).getD usual else usual
    if o.operands.isEmpty then misused c 1 "missing operand".toList
    else if (Mode.change? c.mask true 0 asked).isNone then
      .failing c 1 ("invalid mode ".toList ++ Citation.escaped asked)
    else forEachPath c o.operands fun e path =>
      let bare := if path.all (· = '/') then path else withoutSlashes path
      if o.has 'p' && !path.isEmpty then
        let missing := missingParents e.files path
        let (made, files) := e.files.makeAll (e.files.start path) (Path.parts path)
        let files := missing.foldl
          (fun (files : FileSystem) other =>
            let mode := if other = missing.getLastD [] then mode else usual ||| 0o300
            (files.locate? other).elim files fun loc => files.withModeAt loc mode)
          files
        let e := { e with files := files }
        let wrong? := (withParents bare).reverse.find? fun path =>
          files.exists? path && files.entry? path ≠ some .directory
        match made, wrong? with
        | true, _ => missing.foldl say e
        | false, some wrong =>
            refused e wrong (if wrong = bare then "File exists" else "Not a directory").toList
        | false, none => refused e path (files.reason path)
      else
        match e.files.place? bare, e.files.entryItself? bare with
        | some loc, none =>
            say { e with files := (e.files.putAt loc .directory).withModeAt loc mode } path
        | _, some _ => refused e path "File exists".toList
        | none, none => refused e path (e.files.reason bare)

/-! ## Times -/

/-- The days from the first of January 1970 to a date. -/
def daysTo (year month day : Nat) : Int :=
  let year : Int := if month ≤ 2 then year - 1 else year
  let month := if month ≤ 2 then month + 9 else month - 3
  year * 365 + year / 4 - year / 100 + year / 400 + (153 * month + 2) / 5 + day - 719469

/-- The numbers in a text. -/
def numbersIn (text : Raw) : List Nat :=
  ((Raw.split ' ' (text.map fun c => if c.isDigit then c else ' ')).filter (· ≠ [])).map fun digits =>
    Nat.ofDigitChars 10 digits 0

/-- The nanoseconds from 1970 to a time: seconds after an at sign, or a date and perhaps a time. -/
def moment? (text : Raw) : Option Nat :=
  match text with
  | '@' :: seconds =>
      if seconds.all Char.isDigit && !seconds.isEmpty then
        some (Nat.ofDigitChars 10 seconds 0 * 1000000000)
      else none
  | _ =>
      match numbersIn text with
      | year :: month :: day :: time =>
          if year < 1970 then some 0
          else
            let seconds := time.getD 0 0 * 3600 + time.getD 1 0 * 60 + time.getD 2 0
            some ((daysTo year month day * 86400).toNat * 1000000000 + seconds * 1000000000)
      | _ => none

/-- The digits of a time with a point before the seconds, as a date and a time. Without a year it is
that of another time. -/
def stampText (now : Nat) (text : Raw) : Raw :=
  let digits := text.takeWhile (· ≠ '.')
  let seconds := text.drop (digits.length + 1)
  let digits := match digits.length with
    | 8 => Raw.ofNat (1970 + now / 31556952000000000) ++ digits
    | 10 => (if digits.head?.any fun d => '6' < d then "19" else "20").toList ++ digits
    | _ => digits
  let part (start count : Nat) : Raw := (digits.drop start).take count
  [' '].intercalate [part 0 4, part 4 2, part 6 2, part 8 2, part 10 2, seconds]

/-- The time that is asked for, of the ways to ask for one the one that counts. -/
def timeOf (c : Call) (o : Options) : Except Effect Nat :=
  let wrong (text : Raw) : Except Effect Nat :=
    .error (.failing c 1 ("invalid date format ".toList ++ Citation.escaped text))
  match o.value? 't', o.value? 'd', o.value? 'r' with
  | some _, some _, _ | some _, _, some _ =>
      .error (misused c 1 "cannot specify times from more than one source".toList)
  | some text, _, _ =>
      let digits := text.takeWhile (· ≠ '.')
      let parts := numbersIn (stampText c.files.stamp text)
      let isStamp := digits.all Char.isDigit && [8, 10, 12].contains digits.length
        && 1 ≤ parts.getD 1 0 && parts.getD 1 0 ≤ 12 && 1 ≤ parts.getD 2 0 && parts.getD 2 0 ≤ 31
        && parts.getD 3 0 < 24 && parts.getD 4 0 < 60 && parts.getD 5 0 ≤ 60
      match if isStamp then moment? (stampText c.files.stamp text) else none with
      | some time => .ok time
      | none => wrong text
  | none, some text, _ =>
      match moment? text with
      | some time => .ok time
      | none =>
          let words := ["now", "today", "yesterday", "tomorrow", ""]
          let isZone := text.length = 1 && text.all fun l => l.isAlpha && l.toLower ≠ 'j'
          let isHour := text.length ≤ 4 && Nat.ofDigitChars 10 (text.take 2) 0 < 24
          if text.any Char.isDigit && (isHour || !text.all Char.isDigit) || words.contains (String.ofList text) || isZone then
            .ok c.files.stamp
          else wrong text
  | none, none, some path =>
      match c.files.locate? path, c.files.exists? path with
      | some loc, true => .ok (c.files.changedAt loc)
      | _, _ =>
          .error (.failing c 1 ("failed to get attributes of ".toList ++ Citation.forShell path
            ++ ": ".toList ++ c.files.reason path))
  | none, none, none => .ok c.files.stamp

/-- Makes files, and gives them a time. A dash is no file but the output. -/
def touch (c : Call) : Effect :=
  let options := known "acfmhd:r:t:" "time: no-create=c date=d reference=r no-dereference=h"
  let o := Options.read options false c.args
  let words := [("atime", true), ("access", true), ("use", true), ("mtime", false), ("modify", false)]
  let checked := o.over c 1 () fun _ key value => do
    if key = .long "time" then
      let _ ← meant c "--time" words value
  match checked, timeOf c o with
  | .error e, _ => e
  | .ok _, .error e => e
  | .ok _, .ok time =>
      if o.operands.isEmpty then misused c 1 "missing file operand".toList
      else forEachPath c (o.operands.filter (· ≠ ['-'])) fun e path =>
        match e.files.locate? path, e.files.entry? path with
        | some loc, some _ => { e with files := e.files.withTimeAt loc time }
        | some loc, none =>
            if o.has 'c' then e
            else
              let files := e.files.create loc (Mode.masked c.mask 0o666) ByteArray.empty
              { e with files := files.withTimeAt loc time }
        | none, _ =>
            if o.has 'c' then e else cannot e c "touch".toList path (e.files.reason path)

/-! ## Pipes -/

/-- Makes pipes with names. -/
def mkfifo (c : Call) : Effect :=
  withOptions c 1 (known "m:Z" "context:: mode=m") fun o =>
    let usual := Mode.masked c.mask 0o666
    match o.operands, (o.value? 'm').map (Mode.change? c.mask false 0o666) with
    | [], _ => misused c 1 "missing operand".toList
    | _, some none => .failing c 1 "invalid mode".toList
    | paths, asked? =>
        let mode := (asked?.bind id).getD usual
        if 0o777 < mode then .failing c 1 "mode must specify only file permission bits".toList
        else forEachPath c paths fun e path =>
          match e.files.place? path, e.files.entryItself? path with
          | some loc, none =>
              let files := (e.files.putAt loc (.fifo e.files.next)).withModeAt loc mode
              { e with files := { files with next := files.next + 1 } }
          | _, some _ => cannot e c "create fifo".toList path "File exists".toList
          | none, none => cannot e c "create fifo".toList path (e.files.reason path)

end SmtScript.Host.Utility
