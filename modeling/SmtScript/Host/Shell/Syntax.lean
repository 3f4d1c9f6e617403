import SmtScript.Host.Raw

/-!
# Shell scripts

The commands of a shell. A word is made of parts. A part that is quoted is not split into
fields when it is expanded, and stands for itself in a pattern.
-/

namespace SmtScript.Host.Shell

inductive RedirectKind where
  | input
  | output
  /-- Output even to a file that is protected. -/
  | clobber
  | append
  | inputOutput
  /-- The target is the number of another stream, or `-` to close. -/
  | duplicate
deriving DecidableEq

/-- What is done with the value of a parameter. -/
inductive ParamOp where
  | value
  | length
  /-- A word where there is no value. -/
  | fallback
  /-- A word where there is a value. -/
  | replacement
  /-- A word where there is no value, which becomes the value. -/
  | assignment
  /-- The shell fails where there is no value. -/
  | demand
  /-- The value without the start that a pattern stands for. -/
  | cutFront (longest : Bool)
  /-- The value without the end that a pattern stands for. -/
  | cutBack (longest : Bool)
  /-- The value and the word, after which the text that it belongs to ends. -/
  | last
  /-- Nothing that a shell knows; it fails. -/
  | unknown
deriving DecidableEq

mutual

inductive Part where
  | text (chars : Raw) (quoted : Bool)
  /-- Quotation marks, which make a field even of nothing. -/
  | mark
  /-- With `orEmpty`, an empty value counts as none. -/
  | param (name : Raw) (op : ParamOp) (orEmpty : Bool) (word : List Part) (quoted : Bool)
  /-- What a script writes. -/
  | output (script : List Command) (quoted : Bool)
  /-- The value of an expression. -/
  | arithmetic (expression : List Part) (quoted : Bool)

inductive Redirect where
  | mk (stream : Nat) (kind : RedirectKind) (target : List Part)
  /-- The text that follows the line of the command, by its number among all such texts. -/
  | here (stream : Nat) (number : Nat)

inductive Command where
  | simple (line : Nat) (assignments : List (Raw × List Part)) (words : List (List Part))
      (redirects : List Redirect)
  | subshell (line : Nat) (body : List Command) (redirects : List Redirect)
  | group (body : List Command)
  /-- A compound command with redirections of its own. -/
  | redirected (line : Nat) (command : Command) (redirects : List Redirect)
  | pipeline (commands : List Command)
  | negate (command : Command)
  | andThen (first second : Command)
  | orElse (first second : Command)
  | branch (condition body otherwise : List Command)
  /-- Goes on as long as the condition ends with success, or with failure. -/
  | loop (condition body : List Command) (onSuccess : Bool)
  | forEach (line : Nat) (name : Raw) (items : List (List Part)) (body : List Command)
  /-- Runs what stands after the first pattern that accepts the subject. -/
  | choose (line : Nat) (subject : List Part) (cases : List (List (List Part) × List Command))
  /-- Makes a function. -/
  | define (name : Raw) (body : Command)
  /-- Goes on beside the shell. -/
  | job (line : Nat) (command : Command)

end

/-- Does nothing of a word count behind the part? -/
def Part.isLast : Part → Bool
  | .param _ op .. => op = .last
  | _ => false

abbrev Word := List Part

abbrev Script := List Command

/-- The texts that follow commands, by their numbers. -/
abbrev Bodies := List (Nat × Word)

/-- Built-in commands whose failure ends the shell. -/
def specialNames : List String :=
  [".", ":", "break", "continue", "eval", "exec", "exit", "export", "local", "readonly", "return",
    "set", "shift", "times", "trap", "unset"]

def isSpecial (name : Raw) : Bool :=
  specialNames.contains (String.ofList name)

end SmtScript.Host.Shell
