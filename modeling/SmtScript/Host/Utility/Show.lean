import SmtScript.Host.Utility.Effect

/-!
# Showing files

`cat` writes files one after the other, with numbers, with marks at the ends of the lines, or
with its unprintable bytes made visible.
-/

namespace SmtScript.Host.Utility

/-- A byte so that it can be seen: a control character as a caret and a letter, and one above
the letters after a mark. -/
def visible (c : Char) : Raw :=
  let low (n : Nat) : Raw :=
    if n < 32 then ['^', Char.ofNat (n + 64)]
    else if n = 127 then ['^', '?']
    else [Char.ofNat n]
  if c.toNat < 128 then low c.toNat else "M-".toList ++ low (c.toNat - 128)

/-- How lines are shown. -/
structure Showing where
  numbers : Bool
  skipsBlank : Bool
  squeezes : Bool
  ends : Bool
  tabs : Bool
  controls : Bool

/-- Where in the lines the writing is. -/
structure LinePlace where
  /-- The number of the last line. -/
  number : Nat
  /-- How many line feeds stand before, one less than that where the line has a text. -/
  feeds : Int
  /-- Does a carriage return stand before that is not yet written? How it looks depends on whether
  a line feed follows. -/
  returns : Bool

namespace Showing

/-- Does the showing of a carriage return depend on what follows? -/
def marksReturns (s : Showing) : Bool :=
  s.ends && !s.controls

def char (s : Showing) (c : Char) : Raw :=
  if c = '\t' then if s.tabs then visible c else [c]
  else if s.controls then visible c
  else [c]

def number (s : Showing) (place : LinePlace) (blank : Bool) : Raw × Nat :=
  if s.numbers && !(blank && s.skipsBlank) then
    (pad false 6 (Raw.ofNat (place.number + 1)) ++ ['\t'], place.number + 1)
  else ([], place.number)

/-- The text of a content, from a place on. -/
def text (s : Showing) (place : LinePlace) : Raw → Raw × LinePlace
  | [] => ([], place)
  | '\n' :: rest =>
      let feeds := place.feeds + 1
      if 2 ≤ feeds && s.squeezes then s.text { place with feeds := 2 } rest
      else
        let (mark, number) := if 0 < feeds then s.number place true else ([], place.number)
        let (others, last) := s.text ⟨number, min 2 feeds, false⟩ rest
        let before := if place.returns then visible '\r' else []
        (mark ++ before ++ (if s.ends then ['$'] else []) ++ '\n' :: others, last)
  | c :: rest =>
      let (mark, number) := if 0 ≤ place.feeds then s.number place false else ([], place.number)
      let waits := c = '\r' && s.marksReturns
      let (others, last) := s.text ⟨number, -1, waits⟩ rest
      let before := if place.returns then ['\r'] else []
      (before ++ mark ++ (if waits then [] else s.char c) ++ others, last)

end Showing

/-- Puts the files together. A file that the output goes to is left out, as it would never end. -/
def cat (c : Call) : Effect :=
  let options := known "AbeEnstTuv" <|
    "number-nonblank=b number=n squeeze-blank=s show-nonprinting=v show-ends=E"
    ++ " show-tabs=T show-all=A"
  withOptions c 1 options fun o =>
    let s : Showing :=
      { numbers := o.hasAny "nb", skipsBlank := o.has 'b', squeezes := o.has 's'
        ends := o.hasAny "AeE", tabs := o.hasAny "AtT", controls := o.hasAny "Aetv" }
    let isPlain := o.given.all fun g => g.1 = 'u'
    let step := fun (e, place) (path, content?) =>
      let e := Effect.afterPath e c path
      match content? with
      | .error reason => (e.complain c 1 (Citation.bare path ++ ": ".toList ++ reason), place)
      | .ok content =>
          if c.isOutput path && !(content.isEmpty && e.said.isEmpty) then
            (e.complain c 1 (Citation.bare path ++ ": input file is output file".toList), place)
          else if isPlain then (e.say content, place)
          else
            let (text, place) := s.text place content
            (e.say text, place)
    let paths := orInput o.operands
    let (e, place) := (c.sources paths).foldl step (Effect.quiet c 0, ⟨0, 0, false⟩)
    (if place.returns then e.say ['\r'] else e).closing c paths "closing standard input"

end SmtScript.Host.Utility
