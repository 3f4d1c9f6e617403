import SmtScript.Host.Shell.Integer
import SmtScript.Host.Utility.Effect
import SmtScript.Host.Utility.Regular
import SmtScript.Number.Decimal

/-!
# Expressions of words

`expr` calculates with words: whole numbers where both are, and else texts. Its status tells
whether the value counts as true.
-/

namespace SmtScript.Host.Utility

namespace Expression

/-- The words that are left, and the one before them. -/
structure Words where
  before : Raw
  rest : List Raw

abbrev Reader := StateT Words (Except Raw)

/-- The empty word and zeros are false. -/
def isTrue (value : Raw) : Bool :=
  match value with
  | [] => false
  | '-' :: digits => digits.isEmpty || !digits.all (· == '0')
  | digits => !digits.all (· == '0')

def number? (word : Raw) : Option Int :=
  match word with
  | '-' :: digits => (Shell.Integer.count? digits).map fun n => - Int.ofNat n
  | digits => (Shell.Integer.count? digits).map Int.ofNat

def ofBool (b : Bool) : Raw :=
  if b then ['1'] else ['0']

/-- The length of a match at the front, or the text of its first group. -/
def matched (text pattern : Raw) : Reader Raw :=
  match Regular.read .loose pattern with
  | .error message => throw message
  | .ok (e, groups) =>
      let hasGroup := 0 < groups
      match e.longest? false ⟨none, text, []⟩ with
      | some place =>
          return if hasGroup then (place.groups.lookup 1).getD []
            else Raw.ofNat (text.length - place.rest.length)
      | none => return if hasGroup then [] else ['0']

def compared (operator : Raw) (a b : Raw) : Bool :=
  let order := match number? a, number? b with
    | some m, some n => compare m n
    | _, _ => if a == b then .eq else if Raw.isBefore a b then .lt else .gt
  match String.ofList operator with
  | "<" => order == .lt
  | "<=" => order != .gt
  | "=" | "==" => order == .eq
  | "!=" => order != .eq
  | ">=" => order != .lt
  | _ => order == .gt

def calculated (operator : Raw) (a b : Raw) : Reader Raw :=
  match number? a, number? b with
  | some m, some n =>
      match operator with
      | ['+'] => return Decimal.signed (m + n)
      | ['-'] => return Decimal.signed (m - n)
      | ['*'] => return Decimal.signed (m * n)
      | _ =>
          if n = 0 then throw "division by zero".toList
          else return Decimal.signed (if operator = ['/'] then m.tdiv n else m.tmod n)
  | _, _ => throw "non-integer argument".toList

/-- The operators on two words, those that bind least first. -/
def levels : List (List String) :=
  [["|"], ["&"], ["<", "<=", "=", "==", "!=", ">=", ">"], ["+", "-"], ["*", "/", "%"], [":"]]

def combined (operator a b : Raw) : Reader Raw :=
  match operator with
  | ['|'] => return if isTrue a then a else if isTrue b then b else ['0']
  | ['&'] => return if isTrue a && isTrue b then a else ['0']
  | [':'] => matched a b
  | _ =>
      if ["+", "-", "*", "/", "%"].any fun o => o.toList == operator then calculated operator a b
      else return ofBool (compared operator a b)

def next : Reader Raw := do
  match ← get with
  | ⟨_, word :: rest⟩ =>
      set (Words.mk word rest)
      return word
  | ⟨before, []⟩ =>
      throw ("syntax error: missing argument after ".toList ++ Citation.escaped before)

/-- Takes the next word if it is one of some. -/
def nextOf? (words : List String) : Reader (Option Raw) := do
  match (← get).rest with
  | word :: _ => if words.contains (String.ofList word) then return some (← next) else return none
  | [] => return none

/-- Does the value of an operator not depend on what follows? -/
def settles (operator value : Raw) : Bool :=
  operator = ['|'] && isTrue value || operator = ['&'] && !isTrue value

mutual

/-- Reads an operation of a level. What the value does not depend on is only read. -/
def level (fuel : Nat) (live : Bool) (levels : List (List String)) : Reader Raw :=
  match fuel with
  | 0 => throw "syntax error".toList
  | fuel + 1 =>
      match levels with
      | [] => primary fuel live
      | here :: higher => do extend fuel live here higher (← level fuel live higher)

/-- Applies the operators of a level one after the other. -/
def extend (fuel : Nat) (live : Bool) (here : List String) (higher : List (List String))
    (first : Raw) : Reader Raw :=
  match fuel with
  | 0 => throw "syntax error".toList
  | fuel + 1 => do
      match ← nextOf? here with
      | some operator =>
          let second ← level fuel (live && !settles operator first) higher
          let value ← if live then combined operator first second else pure first
          extend fuel live here higher value
      | none => return first

def primary (fuel : Nat) (live : Bool) : Reader Raw :=
  match fuel with
  | 0 => throw "syntax error".toList
  | fuel + 1 => do
      let word ← next
      match String.ofList word with
      | "(" =>
          let value ← level fuel live levels
          match ← get with
          | ⟨_, [')'] :: rest⟩ =>
              set (Words.mk [')'] rest)
              return value
          | ⟨_, other :: _⟩ =>
              throw ("syntax error: expecting \x27)\x27 instead of ".toList ++ Citation.escaped other)
          | ⟨before, []⟩ =>
              throw ("syntax error: expecting \x27)\x27 after ".toList ++ Citation.escaped before)
      | ")" => throw "syntax error: unexpected \x27)\x27".toList
      | "length" => return Raw.ofNat (← primary fuel live).length
      | "match" =>
          let text ← primary fuel live
          let pattern ← primary fuel live
          if live then matched text pattern else return text
      | "index" =>
          let text ← primary fuel live
          let set ← primary fuel live
          return Raw.ofNat ((text.findIdx? set.contains).elim 0 (· + 1))
      | "substr" =>
          let text ← primary fuel live
          let start := number? (← primary fuel live)
          let count := number? (← primary fuel live)
          match start, count with
          | some start, some count =>
              if start ≤ 0 then return []
              else return (text.drop (start.toNat - 1)).take count.toNat
          | _, _ => return []
      | "+" => next
      | _ => return word

end

end Expression

def expr (c : Call) : Effect :=
  let words := match c.args with
    | ['-', '-'] :: rest => rest
    | args => args
  if words.isEmpty then misused c 2 "missing operand".toList
  else
    match (Expression.level (16 * words.length + 64) true Expression.levels).run ⟨[], words⟩ with
    | .error message => .failing c 2 message
    | .ok (value, ⟨_, []⟩) =>
        { Effect.saying c (value ++ ['\n']) with
          status := if Expression.isTrue value then 0 else 1 }
    | .ok (_, ⟨_, word :: _⟩) =>
        .failing c 2 ("syntax error: unexpected argument ".toList ++ Citation.escaped word)

end SmtScript.Host.Utility
