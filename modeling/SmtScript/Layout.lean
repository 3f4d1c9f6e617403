import SmtScript.Term

/-!
# Layout

How the parts of a term are put together as text. A form with at most one child stays on
one line. A form with more children is written on one line or spread over several, one
child per line, as its mode says; left to itself it is spread when the line would hold no
line feed and more than 80 characters.
-/

namespace SmtScript

/-- Text under construction. -/
abbrev Text := List Char

namespace Layout

/-- Who chooses the layout of a form. -/
inductive Mode where
  /-- The form chooses by its width. -/
  | auto
  /-- All children on the line of the name. -/
  | inline
  /-- Each child on a line of its own. -/
  | spread
deriving DecidableEq

/-- The most characters that a form with several children has on one line. -/
def lineWidth : Nat := 80

def spaces (n : Nat) : Text :=
  List.replicate n ' '

/-! ## Forms and lists -/

/-- The children after the name, each behind a space. -/
def inlineForm (name : Text) (children : List Text) : Text :=
  '(' :: (name ++ children.flatMap (' ' :: ·) ++ [')'])

/-- The children after the name's line, each on its own line. The closing parenthesis has
the last line for itself. -/
def spreadForm (depth : Nat) (name : Text) (children : List Text) : Text :=
  let lines := children.flatMap fun child => spaces (2 * depth) ++ child ++ ['\n']
  '(' :: (name ++ '\n' :: lines ++ [')'])

/-- A text of several lines never counts as too wide. -/
def isTooWide (line : Text) : Bool :=
  !line.contains '\n' && lineWidth < line.length

def form (mode : Mode) (depth : Nat) (name : Text) (children : List Text) : Text :=
  match children with
  | _ :: _ :: _ =>
      match mode with
      | .inline => inlineForm name children
      | .spread => spreadForm depth name children
      | .auto =>
          if isTooWide (inlineForm name children) then spreadForm depth name children
          else inlineForm name children
  | _ => inlineForm name children

/-- A list stays on one line. -/
def list (items : List Text) : Text :=
  '(' :: ([' '].intercalate items ++ [')'])

def quoted (content : Text) : Text :=
  '"' :: (content ++ ['"'])

/-! ## Comments -/

/-- Puts the comment mark in front of every line. -/
def commentLines (text : Text) : Text :=
  ';' :: ' ' :: text.flatMap fun c => if c = '\n' then ['\n', ';', ' '] else [c]

/-- How far a comment is moved to the right. -/
def commentWidth (depth : Nat) : Nat :=
  2 * (depth - 1)

/-- Only the first line of a comment is moved to the right. A spaced comment has a line feed
before it and another after it, and there what follows is moved one place less. -/
def comment (depth : Nat) (c : Comment) : Text :=
  let block := spaces (commentWidth depth) ++ commentLines c.text.toList
  if c.spaced then '\n' :: (block ++ '\n' :: spaces (commentWidth depth - 1)) else block

end Layout

end SmtScript
