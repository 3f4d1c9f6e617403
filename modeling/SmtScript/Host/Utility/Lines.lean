import SmtScript.Host.Shell.Integer
import SmtScript.Host.Utility.Effect

/-!
# Utilities on lines

Most utilities read the files that they are given, or else their input, line by line. A line at
the end of a file is a line even where its line feed is missing.
-/

namespace SmtScript.Host.Utility

/-- Goes on with the content of each file, or of the input where there is none, and something
that changes from file to file. A file that cannot be read leaves a message. -/
def overFilesWith {α : Type} (c : Call) (paths : List Raw) (message : Raw → Raw → Raw) (first : α)
    (step : Effect → α → Raw → Effect × α) : Effect × α :=
  (c.sources (orInput paths)).foldl
    (fun (e, state) (path, content?) =>
      let e := Effect.afterPath e c path
      match content? with
      | .ok content => step e state content
      | .error reason => (e.complain c 1 (message path reason), state))
    (Effect.quiet c 0, first)

/-- Goes on with the content of each file, or of the input where there is none. -/
def overFiles (c : Call) (paths : List Raw) (message : Raw → Raw → Raw)
    (step : Effect → Raw → Effect) : Effect :=
  (overFilesWith c paths message () fun e _ content => (step e content, ())).1

/-- The path and the reason. -/
def plainMessage (path reason : Raw) : Raw :=
  Citation.bare path ++ ": ".toList ++ reason

/-- Goes on with the records of each file, and something that changes from file to file. -/
def overRecords {α : Type} (c : Call) (ending : Char) (paths : List Raw) (first : α)
    (step : α → List Raw → Raw × α) : Effect :=
  let (e, _) := overFilesWith c paths plainMessage first fun e state content =>
    let (text, next) := step state (Raw.records ending content)
    (e.say text, next)
  e.closing c (orInput paths) "-"

/-- The records of all files, and what came of reading them. -/
def allRecords (c : Call) (ending : Char) (paths : List Raw) (message : Raw → Raw → Raw) :
    List Raw × Effect :=
  let (e, records) := overFilesWith c paths message [] fun e records content =>
    (e, records ++ [Raw.records ending content])
  (records.flatten, e)

/-- The character that ends the records: a line feed, or the null byte where an option asks for
it. -/
def ending (o : Options) : Char :=
  if o.has 'z' then '\x00' else '\n'

/-! ## Other orders -/

/-- The text up to a separator, after what comes before it in reverse, and the text behind it. -/
def cutAt (separator before : Raw) (text : Raw) : Raw × Option Raw :=
  if separator.isPrefixOf text then (before.reverse, some (text.drop separator.length))
  else
    match text with
    | [] => (before.reverse, none)
    | c :: rest => cutAt separator (c :: before) rest

/-- The texts between separators. -/
def between (separator : Raw) (fuel : Nat) (text : Raw) : List Raw :=
  match fuel, cutAt separator [] text with
  | fuel + 1, (part, some rest) => part :: between separator fuel rest
  | _, (part, _) => [part]

/-- The records of a text in reverse, where a separator stands before each but the first, or behind
each but the last. Separators are looked for from the end. -/
def turned (separator : Raw) (isBefore : Bool) (text : Raw) : Raw :=
  let parts := (between separator.reverse text.length text.reverse).map List.reverse
  if isBefore then (parts.dropLast.flatMap (separator ++ ·)) ++ parts.getLastD []
  else parts.headD [] ++ (parts.drop 1).flatMap (· ++ separator)

/-- The records of each file in reverse. A separator can stand before its record, too. -/
def tac (c : Call) : Effect :=
  let options := known "brs:" "before=b regex=r separator=s"
  withOptions c 1 options fun o =>
    let given := (o.value? 's').getD ['\n']
    let separator := if given.isEmpty then ['\x00'] else given
    let message (path reason : Raw) : Raw :=
      if path = ['-'] then
        let shown := if reason = "Is a directory".toList then "Invalid argument".toList else reason
        "\x27standard input\x27: read error: ".toList ++ shown
      else if c.isDirectory path then
        Citation.bare path ++ ": read error: Invalid argument".toList
      else "failed to open ".toList ++ Citation.forShell path ++ " for reading: ".toList ++ reason
    let e := overFiles c o.operands message fun e content =>
      e.say (turned separator (o.has 'b') content)
    e.closing c (orInput o.operands) "-"

/-- Every line from its end to its start. What is no text, or nothing to read from, is tried again
and again. -/
def rev (c : Call) : Effect :=
  withOptions c 1 [] fun o =>
    let message (path reason : Raw) : Raw :=
      "cannot open ".toList ++ path ++ ": ".toList ++ reason
    let paths := o.operands.map fun path => if path = ['-'] then "./-".toList else path
    let isStuck := paths.any c.isDirectory || paths.isEmpty && c.inputFault?.isSome
    let e := overFiles c paths (fun path => message (if path = "./-".toList then ['-'] else path))
      fun e content =>
        let lines := Raw.lines (content.takeWhile fun c => c.toNat < 128)
        let e := e.say (lines.flatMap fun line =>
          (Raw.chomp line).reverse ++ line.filter (· = '\n'))
        if content.any fun c => 128 ≤ c.toNat then e.staying else e
    if isStuck then { e with finish := .stays } else e

end SmtScript.Host.Utility
