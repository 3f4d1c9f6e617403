import SmtScript.Host.Raw

/-!
# Patterns

A pattern stands for texts. A star stands for any characters, a question mark for one, and
brackets for one of those that they list. Quoted characters stand for themselves.
-/

namespace SmtScript.Host.Shell

/-- Characters with a mark where they are quoted. -/
abbrev Marked := List (Char × Bool)

def Marked.text (cs : Marked) : Raw :=
  cs.map Prod.fst

namespace Pattern

/-- Characters that brackets list. -/
inductive Listed where
  | range (first last : Char)
  | named (name : String)
deriving DecidableEq

inductive Item where
  | char (c : Char)
  | one
  | many
  /-- One character of those that are listed, or of the others. -/
  | listed (negated : Bool) (lists : List Listed)
deriving DecidableEq

def classNames : List String :=
  ["alnum", "alpha", "blank", "cntrl", "digit", "graph", "lower", "print", "punct", "space",
    "upper", "xdigit"]

/-- Is the character in the class of that name? -/
def isInClass (name : String) (c : Char) : Bool :=
  match name with
  | "alpha" => c.isAlpha
  | "digit" => c.isDigit
  | "alnum" => c.isAlphanum
  | "upper" => c.isUpper
  | "lower" => c.isLower
  | "space" => c == ' ' || 9 ≤ c.toNat && c.toNat ≤ 13
  | "blank" => c == ' ' || c == '\t'
  | "cntrl" => c.toNat < 32 || c.toNat == 127
  | "print" => 32 ≤ c.toNat && c.toNat < 127
  | "graph" => 32 < c.toNat && c.toNat < 127
  | "punct" => 32 < c.toNat && c.toNat < 127 && !c.isAlphanum
  | "xdigit" => c.isDigit || 'a' ≤ c.toLower && c.toLower ≤ 'f'
  | _ => false

/-- Is the character listed, where bytes have places in ranges? -/
def Listed.accepts (place : Char → Int) (l : Listed) (c : Char) : Bool :=
  match l with
  | .range first last => place first ≤ place c && place c ≤ place last
  | .named name => isInClass name c

/-- The place of a byte as a word of eight bits with a sign. -/
def signedPlace (c : Char) : Int :=
  Int.bmod c.toNat 256

def Item.accepts (item : Item) (c : Char) : Bool :=
  match item with
  | .char d => c == d
  | .one | .many => true
  | .listed negated lists => (lists.any (·.accepts signedPlace c)) != negated

/-- The name of a class before a colon and a bracket, and what follows them. -/
def className? (cs : Marked) : Option (String × Marked) :=
  let name := String.ofList ((Marked.text cs).takeWhile Char.isAlpha)
  match cs.drop name.length with
  | (':', false) :: (']', false) :: rest =>
      if classNames.contains name then some (name, rest) else none
  | _ => none

/-- What is listed up to the closing bracket, and what follows. A bracket that comes first does
not close. -/
def lists? (fuel : Nat) (isFirst : Bool) (cs : Marked) : Option (List Listed × Marked) :=
  match fuel, cs with
  | 0, _ | _, [] => none
  | fuel + 1, (c, quoted) :: rest =>
      if c == ']' && !quoted && !isFirst then some ([], rest)
      else
        let next (l : Listed) (rest : Marked) : Option (List Listed × Marked) :=
          (lists? fuel false rest).map fun (lists, rest) => (l :: lists, rest)
        let single : Option (List Listed × Marked) :=
          match rest with
          | ('-', false) :: (last, lastQuoted) :: after =>
              if last == ']' && !lastQuoted then next (.range c c) rest
              else next (.range c last) after
          | _ => next (.range c c) rest
        match c, quoted, rest with
        | '[', false, (':', false) :: inner =>
            match className? inner with
            | some (name, after) => next (.named name) after
            | none => single
        | _, _, _ => single

/-- The characters in brackets, after the opening one, and what follows. -/
def bracketed? (cs : Marked) : Option (Item × Marked) :=
  match cs with
  | ('!', false) :: rest =>
      (lists? (rest.length + 1) true rest).map fun (lists, rest) => (.listed true lists, rest)
  | _ => (lists? (cs.length + 1) true cs).map fun (lists, rest) => (.listed false lists, rest)

/-- The items of a text. -/
def items (fuel : Nat) (cs : Marked) : List Item :=
  match fuel, cs with
  | 0, _ | _, [] => []
  | fuel + 1, ('*', false) :: rest => .many :: items fuel rest
  | fuel + 1, ('?', false) :: rest => .one :: items fuel rest
  | fuel + 1, ('[', false) :: rest =>
      match bracketed? rest with
      | some (item, rest) => item :: items fuel rest
      | none => .char '[' :: items fuel rest
  | fuel + 1, (c, _) :: rest => .char c :: items fuel rest

/-- A backslash that is not quoted quotes the next character. -/
def unescaped : Marked → Marked
  | ('\\', false) :: (c, _) :: rest => (c, true) :: unescaped rest
  | c :: rest => c :: unescaped rest
  | [] => []

def ofMarked (cs : Marked) : List Item :=
  let cs := unescaped cs
  items (cs.length + 1) cs

/-- Are the brackets that open before a text closed in it? The character that comes first does not
close them, and a slash leaves them open. -/
def isClosed (cs : Marked) : Bool :=
  let cs := if cs.head? == some ('!', false) then cs.drop 1 else cs
  cs.head?.any (fun c => c.1 ≠ '/')
    && ((cs.drop 1).takeWhile fun c => c.1 ≠ '/').contains (']', false)

/-- How many characters at the front stand for themselves. -/
def plainLength : Marked → Nat
  | [] => 0
  | (c, quoted) :: rest =>
      let isSpecial := c == '*' || c == '?' || c == '[' && isClosed rest
      if isSpecial && !quoted then 0 else plainLength rest + 1

/-- Is there anything in the text but characters that stand for themselves? -/
def isPattern (cs : Marked) : Bool :=
  plainLength cs < cs.length

/-- Does the pattern stand for the whole text? -/
def accepts (pattern : List Item) (text : Raw) : Bool :=
  match pattern, text with
  | [], text => text.isEmpty
  | .many :: rest, [] => accepts rest []
  | .many :: rest, c :: cs => accepts rest (c :: cs) || accepts (.many :: rest) cs
  | _ :: _, [] => false
  | item :: rest, c :: cs => item.accepts c && accepts rest cs
termination_by (text.length, pattern.length)

/-! ## Cutting texts -/

/-- The lengths at which a text can be cut, from none to all of it. -/
def cuts (text : Raw) : List Nat :=
  List.range (text.length + 1)

/-- The text without the shortest start, or the longest, for which the pattern stands. -/
def cutFront (pattern : List Item) (longest : Bool) (text : Raw) : Raw :=
  let order := if longest then (cuts text).reverse else cuts text
  match order.find? fun n => accepts pattern (text.take n) with
  | some n => text.drop n
  | none => text

/-- The text without the shortest end, or the longest, for which the pattern stands. -/
def cutBack (pattern : List Item) (longest : Bool) (text : Raw) : Raw :=
  let order := if longest then cuts text else (cuts text).reverse
  match order.find? fun n => accepts pattern (text.drop n) with
  | some n => text.take n
  | none => text

end Pattern

end SmtScript.Host.Shell
