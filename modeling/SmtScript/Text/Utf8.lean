/-!
# UTF-8

Text is encoded character by character. Bytes are decoded leniently: a well-formed sequence gives
its character, and where none begins, the longest start of one, or else a single byte, gives
one replacement character.
-/

namespace SmtScript.Utf8

abbrev Bytes := List UInt8

def encode (text : List Char) : Bytes :=
  text.flatMap String.utf8EncodeChar

/-- The replacement character. -/
def replacement : Char := '\uFFFD'

/-- A sequence under way: the bits read so far, how many bytes are missing, and the range of
the next one. Later bytes have the range of all continuation bytes. -/
structure Pending where
  value : Nat
  missing : Nat
  low : Nat
  high : Nat
deriving DecidableEq

/-- The sequence that a byte begins. The range of the second byte keeps out overlong forms,
surrogates and numbers above the last code point. -/
def lead? (byte : Nat) : Option Pending :=
  if byte < 0xC2 then none
  else if byte < 0xE0 then some ⟨byte - 0xC0, 1, 0x80, 0xBF⟩
  else if byte < 0xF0 then
    some ⟨byte - 0xE0, 2, if byte = 0xE0 then 0xA0 else 0x80, if byte = 0xED then 0x9F else 0xBF⟩
  else if byte < 0xF5 then
    some ⟨byte - 0xF0, 3, if byte = 0xF0 then 0x90 else 0x80, if byte = 0xF4 then 0x8F else 0xBF⟩
  else none

/-- What a byte does between sequences: the characters it gives, and the sequence it begins. -/
def opening (byte : Nat) : List Char × Option Pending :=
  if byte < 0x80 then ([Char.ofNat byte], none)
  else
    match lead? byte with
    | some p => ([], some p)
    | none => ([replacement], none)

/-- What a byte does within a sequence. A byte out of range ends it and begins anew. -/
def resume (p : Pending) (byte : Nat) : List Char × Option Pending :=
  if p.low ≤ byte ∧ byte ≤ p.high then
    let value := p.value * 64 + (byte - 0x80)
    if p.missing = 1 then ([Char.ofNat value], none)
    else ([], some ⟨value, p.missing - 1, 0x80, 0xBF⟩)
  else
    let (chars, next) := opening byte
    (replacement :: chars, next)

def decodeFrom : Option Pending → Bytes → List Char
  | none, [] => []
  | some _, [] => [replacement]
  | state, byte :: rest =>
      let (chars, next) :=
        match state with
        | none => opening byte.toNat
        | some p => resume p byte.toNat
      chars ++ decodeFrom next rest

/-- The characters of any bytes. -/
def decode (bytes : Bytes) : List Char :=
  decodeFrom none bytes

def ofString (s : String) : Bytes :=
  encode s.toList

def toString (bytes : Bytes) : String :=
  String.ofList (decode bytes)

end SmtScript.Utf8
