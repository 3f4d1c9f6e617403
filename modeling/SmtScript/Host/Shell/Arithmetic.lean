import SmtScript.Host.Shell.Integer
import SmtScript.Host.Shell.Reader

/-!
# Arithmetic in shell scripts

An expression has whole numbers of 64 bits, variables, which may be assigned to, signs,
parentheses, operators on two numbers, and a choice between two values. Operators that bind more
are applied first, and among equals the first one. What is not chosen has no effect.
-/

namespace SmtScript.Host.Shell.Arithmetic

inductive Token where
  | number (n : Int)
  | name (chars : Raw)
  | op (chars : Raw)
deriving DecidableEq

/-- All operators, longer ones first. -/
def operators : List Raw :=
  ["<<=", ">>=", "<<", ">>", "<=", ">=", "==", "!=", "&&", "||", "+=", "-=", "*=", "/=", "%=",
    "&=", "^=", "|=", "+", "-", "*", "/", "%", "<", ">", "=", "!", "&", "|", "^", "~", "?", ":",
    "(", ")"].map String.toList

def tokens? (fuel : Nat) (cs : Raw) : Option (List Token) :=
  match fuel with
  | 0 => none
  | fuel + 1 =>
      match cs with
      | [] => some []
      | c :: rest =>
          if Integer.isBlank c then tokens? fuel rest
          else if isNameStart c then
            let chars := cs.takeWhile isNameRest
            (tokens? fuel (cs.drop chars.length)).map (.name chars :: ·)
          else
            match Integer.unsigned cs with
            | some (n, rest) => (tokens? fuel rest).map (.number (Integer.clamp n) :: ·)
            | none =>
                match operators.find? fun op => op.isPrefixOf cs with
                | some op => (tokens? fuel (cs.drop op.length)).map (.op op :: ·)
                | none => (tokens? fuel []).map (.op [c] :: ·)

def truth (b : Bool) : Int :=
  if b then 1 else 0

def bitwise (f : BitVec 64 → BitVec 64 → BitVec 64) (a b : Int) : Int :=
  (f (BitVec.ofInt 64 a) (BitVec.ofInt 64 b)).toInt

/-- Why an expression has no value. -/
inductive Fault where
  | expression (message : Raw)
  /-- Something is wrong with the value of a variable. -/
  | value (message : Raw)
  /-- A quotient is too great, which no process outlives. -/
  | overflow

/-- The value of an operator on two numbers. -/
def combine (op : String) (a b : Int) : Except Fault Int :=
  let count := (b % 64).toNat
  let quotient (n : Int) : Except Fault Int :=
    if b = 0 then .error (.expression "division by zero".toList)
    else if a = Integer.least && b = -1 then .error .overflow
    else .ok n
  match op with
  | "==" => .ok (truth (a == b))
  | "!=" => .ok (truth (a != b))
  | "<" => .ok (truth (a < b))
  | "<=" => .ok (truth (a ≤ b))
  | ">" => .ok (truth (b < a))
  | ">=" => .ok (truth (b ≤ a))
  | "+" => .ok (Integer.wrap (a + b))
  | "-" => .ok (Integer.wrap (a - b))
  | "*" => .ok (Integer.wrap (a * b))
  | "/" => quotient (a.tdiv b)
  | "%" => quotient (a.tmod b)
  | "<<" => .ok (Integer.wrap (a * Nat.pow 2 count))
  | ">>" => .ok (a.fdiv (Nat.pow 2 count))
  | "&" => .ok (bitwise BitVec.and a b)
  | "|" => .ok (bitwise BitVec.or a b)
  | "^" => .ok (bitwise BitVec.xor a b)
  | _ => .ok b

/-- The operators on two numbers, those that bind least first. -/
def levels : List (List String) :=
  [["|"], ["^"], ["&"], ["==", "!="], ["<", "<=", ">", ">="], ["<<", ">>"], ["+", "-"],
    ["*", "/", "%"]]

/-- The operator of an assignment that also combines, without its equals sign. -/
def assignmentOp? (op : Raw) : Option String :=
  if op = ['='] then some "="
  else if op.getLast? = some '=' && !(["==", "!=", "<=", ">="].map String.toList).contains op then
    some (String.ofList op.dropLast)
  else none

/-- What is left of an expression, and the values of variables that it has assigned, the last one
first. -/
structure Working where
  tokens : List Token
  assigned : List (Raw × Int)

/-- What was assigned before a fault stays assigned. -/
abbrev Eval := ExceptT Fault (StateM Working)

def failure {α : Type} (message : String) : Eval α :=
  throw (.expression message.toList)

/-- Takes an operator if it is the next token. -/
def takes (op : String) : Eval Bool := do
  let w ← get
  match w.tokens with
  | .op chars :: rest =>
      if chars = op.toList then
        set { w with tokens := rest }
        return true
      else return false
  | _ => return false

/-- The value of a variable, from the expression itself or from the shell. -/
def valueOf (lookup : Raw → Except Raw Int) (name : Raw) : Eval Int := do
  match (← get).assigned.lookup name with
  | some n => return n
  | none =>
      match lookup name with
      | .ok n => return n
      | .error message => throw (.value message)

mutual

/-- An assignment, or a choice. -/
def assignment (fuel : Nat) (lookup : Raw → Except Raw Int) (counts : Bool) : Eval Int :=
  match fuel with
  | 0 => failure "too long"
  | fuel + 1 => do
      let w ← get
      match w.tokens with
      | .name name :: .op op :: rest =>
          match assignmentOp? op with
          | none => choice fuel lookup counts
          | some op =>
              set { w with tokens := rest }
              let value ← assignment fuel lookup counts
              if !counts then return value
              else
                let result ←
                  if op = "=" then pure value
                  else liftExcept (combine op (← valueOf lookup name) value)
                modify fun w => { w with assigned := (name, result) :: w.assigned }
                return result
      | _ => choice fuel lookup counts

def choice (fuel : Nat) (lookup : Raw → Except Raw Int) (counts : Bool) : Eval Int :=
  match fuel with
  | 0 => failure "too long"
  | fuel + 1 => do
      let condition ← disjunction fuel lookup counts
      if !(← takes "?") then return condition
      else
        let first ← assignment fuel lookup (counts && condition != 0)
        if !(← takes ":") then failure "expecting ':'"
        else
          let second ← choice fuel lookup (counts && condition == 0)
          return if condition != 0 then first else second

def disjunction (fuel : Nat) (lookup : Raw → Except Raw Int) (counts : Bool) : Eval Int :=
  match fuel with
  | 0 => failure "too long"
  | fuel + 1 => do
      let first ← conjunction fuel lookup counts
      if !(← takes "||") then return first
      else
        let second ← disjunction fuel lookup (counts && first == 0)
        return truth (first != 0 || second != 0)

def conjunction (fuel : Nat) (lookup : Raw → Except Raw Int) (counts : Bool) : Eval Int :=
  match fuel with
  | 0 => failure "too long"
  | fuel + 1 => do
      let first ← operation fuel lookup counts levels
      if !(← takes "&&") then return first
      else
        let second ← conjunction fuel lookup (counts && first != 0)
        return truth (first != 0 && second != 0)

/-- Operators on two numbers, of the levels that are given. -/
def operation (fuel : Nat) (lookup : Raw → Except Raw Int) (counts : Bool)
    (levels : List (List String)) : Eval Int :=
  match fuel with
  | 0 => failure "too long"
  | fuel + 1 =>
      match levels with
      | [] => primary fuel lookup counts
      | level :: higher => do
          extend fuel lookup counts level higher (← operation fuel lookup counts higher)

/-- Applies the operators of a level one after the other. -/
def extend (fuel : Nat) (lookup : Raw → Except Raw Int) (counts : Bool) (level : List String)
    (higher : List (List String)) (first : Int) : Eval Int :=
  match fuel with
  | 0 => failure "too long"
  | fuel + 1 => do
      let w ← get
      match w.tokens with
      | .op chars :: rest =>
          let op := String.ofList chars
          if !level.contains op then return first
          else
            set { w with tokens := rest }
            let second ← operation fuel lookup counts higher
            let value ← if counts then liftExcept (combine op first second) else pure second
            extend fuel lookup counts level higher value
      | _ => return first

def primary (fuel : Nat) (lookup : Raw → Except Raw Int) (counts : Bool) : Eval Int :=
  match fuel with
  | 0 => failure "too long"
  | fuel + 1 => do
      let w ← get
      match w.tokens with
      | .number n :: rest =>
          set { w with tokens := rest }
          return n
      | .name name :: rest =>
          set { w with tokens := rest }
          if counts then valueOf lookup name else return 0
      | .op op :: rest =>
          set { w with tokens := rest }
          match op with
          | ['('] =>
              let n ← assignment fuel lookup counts
              if ← takes ")" then return n else failure "expecting ')'"
          | ['-'] => return Integer.wrap (-(← primary fuel lookup counts))
          | ['+'] => primary fuel lookup counts
          | ['~'] => return -(← primary fuel lookup counts) - 1
          | ['!'] => return truth ((← primary fuel lookup counts) == 0)
          | _ => failure "expecting primary"
      | [] => failure "expecting primary"

end

/-- The value of an expression, and what it has assigned to variables, in order. What is wrong with
the expression is said together with its text; what is wrong with a variable is said alone. -/
def eval (lookup : Raw → Except Raw Int) (text : Raw) : Except Fault Int × List (Raw × Int) :=
  let tokens := (tokens? (text.length + 1) text).getD []
  let about (message : Raw) : Fault :=
    .value ("arithmetic expression: ".toList ++ message ++ ": \"".toList ++ text ++ ['"'])
  let (result, w) := (assignment (24 * text.length + 32) lookup true).run.run ⟨tokens, []⟩
  let result := match result with
    | .ok n => if w.tokens.isEmpty then .ok n else .error (about "expecting EOF".toList)
    | .error (.expression message) => .error (about message)
    | .error fault => .error fault
  (result, w.assigned.reverse)

end SmtScript.Host.Shell.Arithmetic
