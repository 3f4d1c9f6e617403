import SmtScript.Host.Utility.Lines
import SmtScript.Host.Utility.Regular

/-!
# Numbers of lines

`nl` puts numbers before lines. A text has headers, bodies and footers, which special lines
separate. Each of these sections has its own style, which says what lines are counted.
-/

namespace SmtScript.Host.Utility

/-- Which lines are counted. -/
inductive LineStyle where
  | all
  | full
  | none
  | matching (pattern : Regular)

/-- The parts of a page. -/
inductive PageSection where
  | header
  | body
  | footer
deriving DecidableEq

/-- Where in its column a number stands. -/
inductive NumberPlace where
  | left
  | right
  /-- At the right, after zeros. -/
  | zeros

/-- How numbers are put before lines. -/
structure Numbering where
  header : LineStyle
  body : LineStyle
  footer : LineStyle
  first : Int
  step : Int
  width : Nat
  /-- Of so many empty lines, one is counted. -/
  joined : Nat
  place : NumberPlace
  separator : Raw
  mark : Raw
  /-- Do the numbers begin anew in each section? -/
  renews : Bool
  /-- Are there messages about styles? -/
  wrong : List Raw

namespace Numbering

def standard : Numbering :=
  { header := .none, body := .full, footer := .none, first := 1, step := 1, width := 6, joined := 1
    place := .right, separator := ['\t'], mark := ['\\', ':'], renews := true, wrong := [] }

def styleIn (n : Numbering) : PageSection → LineStyle
  | .header => n.header
  | .body => n.body
  | .footer => n.footer

/-- A number at the left, or at the right after blanks or zeros. -/
def aligned (n : Numbering) (number : Int) : Raw :=
  let digits := Raw.ofNat number.natAbs
  let sign : Raw := if number < 0 then ['-'] else []
  match n.place with
  | .left => pad true n.width (sign ++ digits)
  | .right => pad false n.width (sign ++ digits)
  | .zeros => sign ++ List.replicate (n.width - sign.length - digits.length) '0' ++ digits

/-- The section that a line begins, if it is one of the special lines. -/
def sectionAt? (n : Numbering) (line : Raw) : Option PageSection :=
  if n.mark.length < 2 || (line.take 2 != n.mark.take 2) then none
  else if line == n.mark ++ n.mark ++ n.mark then some .header
  else if line == n.mark ++ n.mark then some .body
  else if line == n.mark then some .footer
  else none

/-- What is known before a line: the section, the next number, and how many empty lines were not
counted. -/
structure At where
  page : PageSection
  next : Int
  blanks : Nat

/-- Is the line counted? Gives how many empty lines then wait. -/
def counts (n : Numbering) (place : At) (line : Raw) : Bool × Nat :=
  match n.styleIn place.page with
  | .none => (false, place.blanks)
  | .full => (!line.isEmpty, place.blanks)
  | .matching pattern => ((pattern.find? false none line).isSome, place.blanks)
  | .all =>
      if n.joined ≤ 1 then (true, place.blanks)
      else if !line.isEmpty || place.blanks + 1 = n.joined then (true, 0)
      else (false, place.blanks + 1)

/-- The lines with numbers, and what is known behind them. -/
def lines (n : Numbering) (place : At) : List Raw → Raw × At
  | [] => ([], place)
  | line :: others =>
      match n.sectionAt? line with
      | some page =>
          let next := if n.renews then n.first else place.next
          let (rest, last) := n.lines { place with page := page, next := next } others
          ('\n' :: rest, last)
      | none =>
          let (isCounted, blanks) := n.counts place line
          let next := if isCounted then place.next + n.step else place.next
          let (rest, last) := n.lines { place with next := next, blanks := blanks } others
          let before := if isCounted then n.aligned place.next ++ n.separator
            else List.replicate (n.width + n.separator.length) ' '
          (before ++ line ++ '\n' :: rest, last)

/-! ## Options -/

/-- A style as an option gives it, or none if there is no such style. -/
def style? (text : Raw) : Except Raw (Option LineStyle) :=
  match text with
  | 'a' :: _ => .ok (some .all)
  | 't' :: _ => .ok (some .full)
  | 'n' :: _ => .ok (some .none)
  | 'p' :: pattern => do return some (.matching (← Regular.read .loose pattern).1)
  | _ => .ok none

/-- A number within bounds. -/
def number (what : String) (least most : Int) (text : Raw) : Except Raw Int :=
  let message := ("invalid " ++ what ++ ": ").toList ++ Citation.escaped text
  let tooGreat := message ++ ": Value too large for defined data type".toList
  match Shell.Integer.front? true text with
  | some (n, []) =>
      if n < Shell.Integer.least || Shell.Integer.greatest < n then .error tooGreat
      else if least ≤ n && n ≤ most then .ok n
      else if 1073741823 < n.natAbs then .error tooGreat
      else .error (message ++ ": Numerical result out of range".toList)
  | _ => .error message

/-- Goes on with an option. Wrong styles are told only at the end. -/
def option (c : Call) (n : Numbering) (key : Key) (value : Raw) : Except Effect Numbering :=
  let fail (message : Raw) : Effect :=
    let e := Effect.quiet c 1
    (n.wrong.foldl (fun e message => e.complain c 1 message) e).complain c 1 message
  let whole (what : String) (least most : Int) : Except Effect Int :=
    (number what least most value).mapError fail
  let wrong (what : String) : Numbering :=
    let message := ("invalid " ++ what ++ ": ").toList ++ Citation.escaped value
    { n with wrong := n.wrong ++ [message] }
  let styled (what : String) (set : LineStyle → Numbering) : Except Effect Numbering := do
    match ← (style? value).mapError fail with
    | some style => return set style
    | none => return wrong what
  let all := Shell.Integer.greatest
  match key with
  | .letter 'h' => styled "header numbering style" fun style => { n with header := style }
  | .letter 'b' => styled "body numbering style" fun style => { n with body := style }
  | .letter 'f' => styled "footer numbering style" fun style => { n with footer := style }
  | .letter 'v' => do
      return { n with first := ← whole "starting line number" Shell.Integer.least all }
  | .letter 'i' => do
      return { n with step := ← whole "line number increment" Shell.Integer.least all }
  | .letter 'l' => do
      return { n with joined := (← whole "line number of blank lines" 1 all).toNat }
  | .letter 'w' => do
      return { n with width := (← whole "line number field width" 1 2147483647).toNat }
  | .letter 'p' => .ok { n with renews := false }
  | .letter 's' => .ok { n with separator := value }
  | .letter 'd' => .ok { n with mark := if value.length = 1 then value ++ [':'] else value }
  | .letter 'n' =>
      match String.ofList value with
      | "ln" => .ok { n with place := .left }
      | "rn" => .ok { n with place := .right }
      | "rz" => .ok { n with place := .zeros }
      | _ => .ok (wrong "line numbering format")
  | _ => .ok n

end Numbering

/-- Puts numbers before the lines of files. -/
def nl (c : Call) : Effect :=
  let options := known "b:d:f:h:i:l:n:ps:v:w:" <|
    "header-numbering=h body-numbering=b footer-numbering=f starting-line-number=v"
    ++ " line-increment=i no-renumber=p join-blank-lines=l number-separator=s number-width=w"
    ++ " number-format=n section-delimiter=d"
  match (Options.read options false c.args).over c 1 Numbering.standard (Numbering.option c) with
  | .error e => e
  | .ok n =>
      match n.wrong.reverse with
      | last :: before =>
          let e := before.reverse.foldl (fun e message => Effect.complain e c 1 message) (.quiet c 1)
          let last := misused c 1 last
          { last with said := e.said ++ last.said }
      | [] =>
          let paths := (Options.read options false c.args).operands
          overRecords c '\n' paths (Numbering.At.mk .body n.first 0) n.lines

end SmtScript.Host.Utility
