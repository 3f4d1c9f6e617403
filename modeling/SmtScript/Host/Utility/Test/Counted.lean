import SmtScript.Host.Utility.Test

/-!
# Tests by the number of words

The program `test` first counts its words: up to four of them are read by their number, and only
more as a whole. Where a stretch is held together, its words are counted, too. Numbers may be of
any size, and `-l` before a word makes its length a number.
-/

namespace SmtScript.Host.Utility.Test.Counted

/-- What is looked at: all words, and what stands behind them. -/
structure Scene where
  files : FileSystem
  words : List Raw
  behind? : Option Raw

/-- Reads words from a place on. What is wrong ends it. -/
abbrev Reader := ReaderT Scene (StateT Nat (Except Raw))

def failure {α : Type} (message : String) (word : Raw) : Reader α :=
  throw (message.toList ++ Citation.escaped word)

/-- Fails because there are no more words. -/
def beyond {α : Type} : Reader α := do
  failure "missing argument after " ((← read).words.getLastD [])

/-- The word so far from here, or what stands behind the last one. -/
def word? (ahead : Nat) : Reader (Option Raw) := do
  let scene ← read
  let place := (← get) + ahead
  return if place = scene.words.length then scene.behind? else scene.words[place]?

def wordAt (ahead : Nat) : Reader Raw := do
  return (← word? ahead).getD []

/-- How many words are left. -/
def left : Reader Nat := do
  return (← read).words.length - (← get)

/-- Goes over so many words. -/
def skip (count : Nat) : Reader Unit :=
  modify (· + count)

/-- Goes to the next word, of which there has to be one. -/
def advance : Reader Unit := do
  skip 1
  if (← left) = 0 then beyond

/-- Operators on two words. -/
def binary : List String :=
  ["=", "!=", "==", "-nt", "-ot", "-ef", "-eq", "-ne", "-lt", "-le", "-gt", "-ge"]

def isBinary (word : Raw) : Bool :=
  binary.contains (String.ofList word)

def isBlank (c : Char) : Bool :=
  c == ' ' || c == '\t'

/-- A whole number of any size, with blanks around it. -/
def number (word : Raw) : Reader Int := do
  let start := word.dropWhile isBlank
  let (negative, digits) := match start with
    | '-' :: digits => (true, digits)
    | '+' :: digits => (false, digits)
    | digits => (false, digits)
  let here := digits.takeWhile Char.isDigit
  if here.isEmpty || !(digits.drop here.length).all isBlank then failure "invalid integer " word
  else
    let n := Int.ofNat (Nat.ofDigitChars 10 here 0)
    return if negative then -n else n

/-- An operator between two words. With `firstLength`, what stands here is the mark for a length
before them. -/
def compare (firstLength : Bool) : Reader Bool := do
  if firstLength then skip 1
  let secondLength := 3 < (← left) && (← wordAt 2) == ['-', 'l']
  let first ← wordAt 0
  let operator := String.ofList (← wordAt 1)
  let second ← wordAt (if secondLength then 3 else 2)
  let numeric (word : Raw) (asLength : Bool) : Reader Int :=
    if asLength then return Int.ofNat word.length else number word
  let files := (← read).files
  let compareFiles (result : Bool) : Reader Bool :=
    if firstLength || secondLength then throw (operator.toList ++ " does not accept -l".toList)
    else return result
  if ["=", "==", "!="].contains operator then
    let shift := if secondLength then 1 else 0
    let isSame := (← wordAt shift) == (← wordAt (2 + shift))
    skip (3 + shift)
    return isSame == (operator != "!=")
  else
    skip (if secondLength then 4 else 3)
    match operator with
    | "-ef" => compareFiles (areSame files first second)
    | "-nt" => compareFiles (match timeOf? files first, timeOf? files second with
        | some a, some b => b < a
        | some _, none => true
        | none, _ => false)
    | "-ot" => compareFiles (match timeOf? files first, timeOf? files second with
        | some a, some b => a < b
        | none, some _ => true
        | _, none => false)
    | _ =>
        let m ← numeric first firstLength
        let n ← numeric second secondLength
        return match operator with
          | "-eq" => m = n
          | "-ne" => m ≠ n
          | "-lt" => m < n
          | "-le" => m ≤ n
          | "-gt" => n < m
          | _ => n ≤ m

/-- A dash with one letter. -/
def isSwitch (word : Raw) : Bool :=
  word.length = 2 && word.head? == some '-'

/-- An operator on the word after it. -/
def ofOne : Reader Bool := do
  let operator ← wordAt 0
  if !"erwxNOGfdsScbpLhugktnz".toList.contains (operator.getLastD ' ') then
    throw (Citation.escaped operator ++ ": unary operator expected".toList)
  else
    advance
    let word ← wordAt 0
    skip 1
    match operator with
    | ['-', 'n'] => return !word.isEmpty
    | ['-', 'z'] => return word.isEmpty
    | ['-', 't'] =>
        let _ ← number word
        return false
    | _ => return ofFile (← read).files operator word

/-- A word by itself. -/
def oneWord : Reader Bool := do
  let word ← wordAt 0
  skip 1
  return !word.isEmpty

def twoWords : Reader Bool := do
  let word ← wordAt 0
  if word = ['!'] then
    skip 1
    return !(← oneWord)
  else if isSwitch word then ofOne
  else beyond

/-- How many words are held together from here on: those before the closing one, of which there are
four at most, or all that are left. -/
def heldWords : Reader Nat := do
  let scene ← read
  let here := scene.words.drop (← get)
  let inside := ((here.drop 1).takeWhile (· ≠ [')'])).length + 1
  return if inside ≤ 4 then inside else here.length

mutual

def threeWords (fuel : Nat) : Reader Bool :=
  match fuel with
  | 0 => return false
  | fuel + 1 => do
      let first ← wordAt 0
      let second ← wordAt 1
      if isBinary second then compare false
      else if first = ['!'] then
        advance
        return !(← twoWords)
      else if first = ['('] && (← wordAt 2) == [')'] then
        skip 1
        let result ← oneWord
        skip 1
        return result
      else if second = ['-', 'a'] || second = ['-', 'o'] then disjunction fuel
      else throw (Citation.escaped second ++ ": binary operator expected".toList)

/-- So many words. -/
def counted (fuel count : Nat) : Reader Bool :=
  match fuel with
  | 0 => return false
  | fuel + 1 => do
      let first ← wordAt 0
      if count = 1 then oneWord
      else if count = 2 then twoWords
      else if count = 3 then threeWords fuel
      else if count = 4 && first = ['!'] then
        advance
        return !(← threeWords fuel)
      else if count = 4 && first = ['('] && (← wordAt 3) == [')'] then
        skip 1
        let result ← twoWords
        skip 1
        return result
      else disjunction fuel

/-- Tests of which one has to hold. -/
def disjunction (fuel : Nat) : Reader Bool :=
  match fuel with
  | 0 => return false
  | fuel + 1 => do
      if (← left) = 0 then beyond
      let first ← conjunction fuel
      if (← left) ≠ 0 && (← wordAt 0) == ['-', 'o'] then
        advance
        let second ← disjunction fuel
        return first || second
      else return first

/-- Tests of which all have to hold. -/
def conjunction (fuel : Nat) : Reader Bool :=
  match fuel with
  | 0 => return false
  | fuel + 1 => do
      let first ← single fuel
      if (← left) ≠ 0 && (← wordAt 0) == ['-', 'a'] then
        advance
        let second ← conjunction fuel
        return first && second
      else return first

def single (fuel : Nat) : Reader Bool :=
  match fuel with
  | 0 => return false
  | fuel + 1 => do
      let word ← wordAt 0
      let count ← left
      if count = 0 then beyond
      else if word = ['!'] then
        advance
        return !(← single fuel)
      else if word = ['('] then
        advance
        let result ← counted fuel (← heldWords)
        match ← word? 0 with
        | some [')'] =>
            skip 1
            return result
        | some other => failure "\x27)\x27 expected, found " other
        | none => throw "\x27)\x27 expected".toList
      else if 4 ≤ count && word = ['-', 'l'] && isBinary (← wordAt 2) then compare true
      else if 3 ≤ count && isBinary (← wordAt 1) then compare false
      else if isSwitch word then ofOne
      else oneWord

end

/-- All words have to be read. -/
def holds (scene : Scene) : Except Raw Bool :=
  let body : Reader Bool := do
    let result ← counted (8 * scene.words.length + 8) scene.words.length
    if (← left) = 0 then return result else failure "extra argument " (← wordAt 0)
  if scene.words.isEmpty then .ok false else Prod.fst <$> (body.run scene).run 0

end SmtScript.Host.Utility.Test.Counted

namespace SmtScript.Host.Utility

def countedWords (c : Call) (words : List Raw) (behind? : Option Raw) : Effect :=
  match Test.Counted.holds ⟨c.files, words, behind?⟩ with
  | .ok true => .quiet c 0
  | .ok false => .quiet c 1
  | .error message => .failing c 2 message

/-- A test as a program. -/
def testProgram (c : Call) : Effect :=
  countedWords c c.args none

/-- A test in brackets as a program. -/
def bracketProgram (c : Call) : Effect :=
  if c.args.getLast? = some [']'] then countedWords c c.args.dropLast (some [']'])
  else .failing c 2 ("missing ".toList ++ Citation.escaped [']'])

end SmtScript.Host.Utility
