import SmtScript.Host.Raw

/-!
# Texts in messages

A message cites a text in quotation marks. What would be unclear in them is escaped, either by
backslashes or as a shell would read it.
-/

namespace SmtScript.Host.Citation

/-- In quotation marks, as it is. -/
def plain (text : Raw) : Raw :=
  '\x27' :: text ++ ['\x27']

def isPrintable (c : Char) : Bool :=
  ' ' ≤ c && c ≤ '~'

/-- The letter that stands for a control character behind a backslash. -/
def letter? (c : Char) : Option Char :=
  ("abtnvfr".toList)[c.toNat - 7]?.filter fun _ => 7 ≤ c.toNat

/-- A character that cannot be printed: a backslash with a letter or with three octal digits. -/
def escape (c : Char) : Raw :=
  match letter? c with
  | some l => ['\\', l]
  | none =>
      let digits := Nat.toDigits 8 c.toNat
      '\\' :: List.replicate (3 - digits.length) '0' ++ digits

/-- In quotation marks, with backslashes. -/
def escaped (text : Raw) : Raw :=
  plain (text.flatMap fun c =>
    if c = '\\' || c = '\x27' then ['\\', c]
    else if isPrintable c then [c]
    else escape c)

/-- Characters that a shell takes for something else. -/
def isSpecial (c : Char) : Bool :=
  "!\"$&()*;<=>?[\\^\x60|".toList.contains c

/-- Characters that a shell takes for something else in front of a word. -/
def isSpecialFront (c : Char) : Bool :=
  c = '#' || c = '~'

/-- Can a text with single quotation marks stand in double ones? -/
def fitsDouble (text : Raw) : Bool :=
  let isFit (c : Char) : Bool := isPrintable c && !isSpecial c && c ≠ '\x7b' && c ≠ '\x7d'
  text.contains '\x27' && text.all isFit && !(text.drop 1).any isSpecialFront

/-- The inside of quotation marks for a shell. What cannot be printed stands in marks of its own,
which may be open. -/
def inner (isOpen : Bool) : Raw → Raw
  | [] => []
  | c :: rest =>
      if c = '\x27' then "\x27\\\x27\x27".toList ++ inner false rest
      else if isPrintable c then (if isOpen then "\x27\x27".toList else []) ++ c :: inner false rest
      else (if isOpen then [] else "\x27$\x27".toList) ++ escape c ++ inner true rest

/-- In quotation marks, so that a shell reads the text. -/
def forShell (text : Raw) : Raw :=
  if fitsDouble text then '"' :: text ++ ['"'] else plain (inner false text)

/-- As it is if a shell reads the text so. -/
def word (text : Raw) : Raw :=
  let isClear (c : Char) : Bool := isPrintable c && !isSpecial c && c ≠ ' ' && c ≠ '\x27'
  let isBrace := text = ['\x7b'] || text = ['\x7d']
  if text.all isClear && !text.isEmpty && !text.head?.any isSpecialFront && !isBrace then text
  else forShell text

/-- As it is if a shell reads the text so and no colon could be taken for its end. -/
def bare (text : Raw) : Raw :=
  if text.contains ':' then forShell text else word text

end SmtScript.Host.Citation
