import SmtScript.Text.Utf8

/-!
# Raw text

Shells and utilities work on bytes. A raw text holds each byte as the character with that
number, so that ASCII text is written as usual. Nothing says that the bytes are UTF-8.
-/

namespace SmtScript.Host

open Utf8 (Bytes)

abbrev Raw := List Char

namespace Raw

def ofBytes (bytes : Bytes) : Raw :=
  bytes.map fun b => Char.ofNat b.toNat

def toBytes (raw : Raw) : Bytes :=
  raw.map fun c => UInt8.ofNat c.toNat

/-- The bytes of a text in UTF-8. -/
def ofText (text : List Char) : Raw :=
  ofBytes (Utf8.encode text)

/-- The characters of the bytes, read leniently. -/
def text (raw : Raw) : List Char :=
  Utf8.decode (toBytes raw)

def ofNat (n : Nat) : Raw :=
  Nat.toDigits 10 n

/-- The order by bytes. -/
def isBefore : Raw → Raw → Bool
  | [], _ => true
  | _ :: _, [] => false
  | a :: as, b :: bs => a.toNat < b.toNat || a == b && isBefore as bs

/-- The pieces that an ending cuts a text into, each with its ending, if it has one. -/
def pieces (ending : Char) (raw : Raw) : List Raw :=
  raw.foldr
    (fun c pieces =>
      if c = ending then [c] :: pieces
      else
        match pieces with
        | [] => [[c]]
        | piece :: others => (c :: piece) :: others)
    []

/-- The pieces without their endings. -/
def records (ending : Char) (raw : Raw) : List Raw :=
  (pieces ending raw).map fun piece => piece.filter (· ≠ ending)

/-- The lines, each with its line feed, if it has one. -/
def lines : Raw → List Raw :=
  pieces '\n'

/-- Without the line feed at the end of a line. -/
def chomp (line : Raw) : Raw :=
  line.filter (· ≠ '\n')

/-- The parts between separators, one more than there are separators. -/
def split (separator : Char) (raw : Raw) : List Raw :=
  raw.foldr
    (fun c parts =>
      if c = separator then [] :: parts
      else
        match parts with
        | [] => [[c]]
        | part :: others => (c :: part) :: others)
    [[]]

end Raw

end SmtScript.Host
