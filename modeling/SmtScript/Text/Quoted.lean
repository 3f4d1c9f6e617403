import SmtScript.Text.Printable

/-!
# Quoted text

A text in double quotes, on one line. A quote or a backslash has a backslash before it, the
common control characters have short escapes, and every other character that is not printable
is written as its code point in hexadecimal.
-/

namespace SmtScript.Text

/-- The code point in braces, in lower case and without leading zeros. -/
def codePoint (c : Char) : List Char :=
  ['\\', 'u', '\x7b'] ++ Nat.toDigits 16 c.toNat ++ ['\x7d']

/-- The letter of a short escape. -/
def shortEscape? (c : Char) : Option Char :=
  if c = '"' then some '"'
  else if c = '\\' then some '\\'
  else if c = '\n' then some 'n'
  else if c = '\t' then some 't'
  else if c = '\r' then some 'r'
  else if c = '\x00' then some '0'
  else none

def escape (c : Char) : List Char :=
  match shortEscape? c with
  | some letter => ['\\', letter]
  | none => if isPrintable c then [c] else codePoint c

def quote (text : List Char) : List Char :=
  '"' :: (text.flatMap escape ++ ['"'])

def quoted (s : String) : String :=
  String.ofList (quote s.toList)

end SmtScript.Text
