import SmtScript.Tree

/-!
# Reading scripts back

A script is read character by character as a list of s-expressions. Parentheses nest, quotes
enclose a string literal, a semicolon starts a comment, and blanks separate. Where a comment
ends is a parameter. The commands of a script are what is read at the top.
-/

namespace SmtScript

inductive SExpr where
  | symbol (text : Text)
  | string (content : Text)
  | list (items : List SExpr)

instance : Inhabited SExpr := ⟨.list []⟩

namespace SExpr

/-! ## The reader -/

def isBlank (c : Char) : Bool :=
  c == ' ' || c == '\t' || c == '\n' || c == '\r'

/-- What the reader is in the middle of. -/
inductive Token where
  | none
  | symbol (text : Text)
  | string (content : Text)
  | comment
deriving DecidableEq

structure Reading where
  /-- The lists around the innermost one, the nearer before the farther. -/
  outer : List (List SExpr)
  /-- The innermost list so far. -/
  items : List SExpr
  token : Token

namespace Reading

def start : Reading :=
  ⟨[], [], .none⟩

def push (r : Reading) (e : SExpr) : Reading :=
  ⟨r.outer, r.items ++ [e], .none⟩

/-- Ends a symbol under way. -/
def flush (r : Reading) : Reading :=
  match r.token with
  | .symbol text => r.push (.symbol text)
  | _ => r

def close? (r : Reading) : Option Reading :=
  match r.outer with
  | [] => none
  | items :: outer => some ⟨outer, items ++ [.list r.items], .none⟩

/-- A character outside of strings and comments. -/
def plain (r : Reading) (c : Char) : Option Reading :=
  if isBlank c then some r.flush
  else if c = '(' then some ⟨r.flush.items :: r.flush.outer, [], .none⟩
  else if c = ')' then r.flush.close?
  else if c = '"' then some { r.flush with token := .string [] }
  else if c = ';' then some { r.flush with token := .comment }
  else
    match r.token with
    | .symbol text => some { r with token := .symbol (text ++ [c]) }
    | _ => some { r with token := .symbol [c] }

def step (endsComment : Char → Bool) (r : Reading) (c : Char) : Option Reading :=
  match r.token with
  | .comment => if endsComment c then some { r with token := .none } else some r
  | .string content =>
      if c = '"' then some (r.push (.string content))
      else some { r with token := .string (content ++ [c]) }
  | .none | .symbol _ => r.plain c

def steps (endsComment : Char → Bool) (r : Reading) : Text → Option Reading
  | [] => some r
  | c :: rest => (r.step endsComment c).bind fun next => next.steps endsComment rest

/-- What was read, if no list and no string is left open. -/
def finish? (r : Reading) : Option (List SExpr) :=
  match r.outer, r.token with
  | _ :: _, _ | _, .string _ => none
  | [], _ => some r.flush.items

end Reading

/-- The s-expressions of a text, where comments end as given. -/
def readWith (endsComment : Char → Bool) (text : Text) : Option (List SExpr) :=
  (Reading.start.steps endsComment text).bind Reading.finish?

/-- Comments end at a line feed. -/
def read (text : Text) : Option (List SExpr) :=
  readWith (· == '\n') text

/-- Comments end at a line feed or a carriage return. -/
def readStrict (text : Text) : Option (List SExpr) :=
  readWith (fun c => c == '\n' || c == '\r') text

/-- Reading a text is reading its parts in turn. -/
theorem Reading.steps_append (endsComment : Char → Bool) (r : Reading) (a b : Text) :
    r.steps endsComment (a ++ b)
      = (r.steps endsComment a).bind fun next => next.steps endsComment b := by
  induction a generalizing r with
  | nil => rfl
  | cons c rest ih =>
      simp only [List.cons_append, steps]
      cases r.step endsComment c with
      | none => rfl
      | some next => exact ih next

end SExpr

/-! ## What a tree says -/

mutual

/-- The s-expressions that a tree stands for. A comment stands for none, and an expression for
what it holds. -/
def Tree.sexprs : Tree → List SExpr
  | .atom text => [.symbol text.toList]
  | .str content => [.string content.toList]
  | .list items => [.list (Tree.sexprsAll items)]
  | .comment _ => []
  | .stub _ => []
  | .form name children => [.list (.symbol name.toList :: Tree.sexprsAll children)]
  | .emptyExpr => []
  | .expr content => content.sexprs

def Tree.sexprsAll : List Tree → List SExpr
  | [] => []
  | t :: ts => t.sexprs ++ Tree.sexprsAll ts

end

end SmtScript
