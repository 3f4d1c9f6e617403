import SmtScript.Host.Utility.Effect
import SmtScript.Host.Shell.Integer

/-!
# Tests

`test` only has a status: whether something holds of texts, numbers or files. A word is an operator
where it can be one: one on two words between two words, and one on a single word before one.
-/

namespace SmtScript.Host.Utility

open Shell (Integer.whole?)

namespace Test

/-- Operators on one word. -/
def unary : List String :=
  ["-r", "-w", "-x", "-e", "-f", "-d", "-c", "-b", "-p", "-u", "-g", "-k", "-s", "-t", "-z", "-n",
    "-h", "-L", "-O", "-G", "-S"]

/-- Operators on two words. -/
def binary : List String :=
  ["=", "!=", "<", ">", "-eq", "-ne", "-ge", "-gt", "-le", "-lt", "-nt", "-ot", "-ef"]

def isOneOf (words : List String) (word : Raw) : Bool :=
  words.contains (String.ofList word)

/-- What a word is where it stands at the front. -/
inductive Role where
  | nothing
  | operand
  | unary
  | binary
  | negation
  | opening
  | closing
  | and
  | or
deriving DecidableEq

def role : List Raw → Role
  | [] => .nothing
  | word :: rest =>
      if word = ['!'] then .negation
      else if word = ['('] then if rest.isEmpty then .operand else .opening
      else if word = [')'] then .closing
      else if word = ['-', 'a'] then .and
      else if word = ['-', 'o'] then .or
      else if isOneOf binary word then .binary
      else if isOneOf unary word then
        match rest with
        | [] => .operand
        | [_] => .unary
        | next :: _ => if isOneOf binary next then .operand else .unary
      else .operand

/-- The word that was read last, and those after it. -/
structure Place where
  last : Raw
  rest : List Raw

abbrev Reader := StateT Place (Except Raw)

def failure {α : Type} (word message : Raw) : Reader α :=
  throw (word ++ ": ".toList ++ message)

/-- Goes on to the next word. -/
def advance : Reader Raw := do
  match (← get).rest with
  | word :: rest =>
      set (Place.mk word rest)
      return word
  | [] => return []

def number (word : Raw) : Reader Int :=
  match Integer.whole? true word with
  | some n => return n
  | none => throw ("Illegal number: ".toList ++ word)

def ofFile (files : FileSystem) (operator path : Raw) : Bool :=
  let isKind (kind : Entry → Bool) : Bool := (files.entry? path).any kind
  let hasBit (bit : Nat) : Bool :=
    files.exists? path && (files.locate? path).any fun loc => files.modeAt loc &&& bit ≠ 0
  match String.ofList operator with
  | "-r" | "-w" | "-e" | "-O" | "-G" => files.exists? path
  | "-x" => files.isExecutable path || files.entry? path == some .directory
  | "-f" => files.isFile path
  | "-d" => files.entry? path == some .directory
  | "-c" => isKind fun
      | .device (.stream _) => false
      | .device _ => true
      | _ => false
  | "-p" => isKind fun
      | .fifo _ => true
      | _ => false
  | "-u" => hasBit 0o4000
  | "-g" => hasBit 0o2000
  | "-k" => hasBit 0o1000
  | "-h" | "-L" =>
      match files.entryItself? path with
      | some (.link _) => true
      | _ => false
  | "-s" => match files.entry? path with
      | some (.file number) => (files.node? number).any fun node => node.content.size ≠ 0
      | some (.device _) | some (.fifo _) | none => false
      | some _ => true
  | _ => false

/-- When a file changed last. None if there is none. -/
def timeOf? (files : FileSystem) (path : Raw) : Option Nat :=
  ((files.locate? path).filter fun loc => (files.at? loc).isSome).map files.changedAt

/-- Do two paths lead to the same file? -/
def areSame (files : FileSystem) (first second : Raw) : Bool :=
  match files.number? first, files.number? second with
  | some m, some n => m == n
  | none, none =>
      files.exists? first && files.exists? second && files.locate? first == files.locate? second
  | _, _ => false

def ofOne (files : FileSystem) (operator word : Raw) : Reader Bool :=
  match operator with
  | ['-', 'z'] => return word.isEmpty
  | ['-', 'n'] => return !word.isEmpty
  | ['-', 't'] => do
      let _ ← number word
      return false
  | _ => return ofFile files operator word

def ofTwo (files : FileSystem) (first operator second : Raw) : Reader Bool :=
  match String.ofList operator with
  | "=" => return first == second
  | "!=" => return first != second
  | "<" => return first != second && Raw.isBefore first second
  | ">" => return first != second && Raw.isBefore second first
  | "-ef" => return areSame files first second
  | "-nt" => return match timeOf? files first, timeOf? files second with
      | some a, some b => b < a
      | some _, none => false
      | none, _ => false
  | "-ot" => return match timeOf? files first, timeOf? files second with
      | some a, some b => a < b
      | none, some _ => false
      | _, none => false
  | _ => do
      let m ← number first
      let n ← number second
      return match String.ofList operator with
        | "-eq" => m = n
        | "-ne" => m ≠ n
        | "-lt" => m < n
        | "-le" => m ≤ n
        | "-gt" => n < m
        | _ => n ≤ m

mutual

/-- Tests of which one has to hold. -/
def disjunction (fuel : Nat) (files : FileSystem) : Reader Bool :=
  match fuel with
  | 0 => return false
  | fuel + 1 => do
      let first ← conjunction fuel files
      if role (← get).rest = .or then
        let _ ← advance
        let second ← disjunction fuel files
        return first || second
      else return first

/-- Tests of which all have to hold. -/
def conjunction (fuel : Nat) (files : FileSystem) : Reader Bool :=
  match fuel with
  | 0 => return false
  | fuel + 1 => do
      let first ← negation fuel files
      if role (← get).rest = .and then
        let _ ← advance
        let second ← conjunction fuel files
        return first && second
      else return first

def negation (fuel : Nat) (files : FileSystem) : Reader Bool :=
  match fuel with
  | 0 => return false
  | fuel + 1 => do
      if role (← get).rest = .negation then
        let _ ← advance
        return !(← negation fuel files)
      else primary fuel files

def primary (fuel : Nat) (files : FileSystem) : Reader Bool :=
  match fuel with
  | 0 => return false
  | fuel + 1 => do
      match role (← get).rest with
      | .nothing => return false
      | .opening =>
          let _ ← advance
          let isEmpty := role (← get).rest = .closing
          let result ← if isEmpty then pure false else disjunction fuel files
          if role (← get).rest = .closing then
            let _ ← advance
            return result
          else throw "closing paren expected".toList
      | .unary =>
          let operator ← advance
          if (← get).rest.isEmpty then failure operator "argument expected".toList
          else ofOne files operator (← advance)
      | _ =>
          let first ← advance
          if role (← get).rest = .binary then
            let operator ← advance
            if (← get).rest.isEmpty then failure operator "argument expected".toList
            else ofTwo files first operator (← advance)
          else return !first.isEmpty

end

/-- All words have to be read. -/
def whole (files : FileSystem) (words : List Raw) : Except Raw Bool := do
  match words with
  | [] => return false
  | [first, operator, second] =>
      if isOneOf binary operator then
        let (result, _) ← (ofTwo files first operator second).run ⟨[], []⟩
        return result
      else general words
  | _ => general words
where
  general (words : List Raw) : Except Raw Bool := do
    let (result, place) ← (disjunction (8 * words.length + 8) files).run ⟨[], words⟩
    if place.rest.isEmpty then return result
    else
      let named := if place.last.isEmpty then [] else place.last ++ ": ".toList
      throw (named ++ "unexpected operator".toList)

/-- With three or four words, the first may turn the others around, or hold them together with
the last. What is turned around stays so. -/
def holds (fuel : Nat) (files : FileSystem) (turned : Bool) (words : List Raw) : Except Raw Bool :=
  match fuel with
  | 0 => .ok false
  | fuel + 1 =>
      let isLong := words.length = 3 || words.length = 4
      let isBinary := words.length = 3 && (words[1]?).any (isOneOf binary)
      if isLong && !isBinary && words.head? == some ['('] && words.getLast? == some [')'] then
        holds fuel files turned (words.drop 1).dropLast
      else if isLong && !isBinary && words.head? == some ['!'] then
        holds fuel files true (words.drop 1)
      else (whole files words).map (· != turned)

end Test

def testWords (c : Call) (words : List Raw) : Effect :=
  match Test.holds (words.length + 1) c.files false words with
  | .ok true => .quiet c 0
  | .ok false => .quiet c 1
  | .error message => .failing c 2 message

def test (c : Call) : Effect :=
  testWords c c.args

/-- A test in brackets. What closes it only has to begin with a bracket. -/
def bracket (c : Call) : Effect :=
  if c.args.getLast?.any fun word => word.head? == some ']' then testWords c c.args.dropLast
  else .failing c 2 "missing ]".toList

end SmtScript.Host.Utility
