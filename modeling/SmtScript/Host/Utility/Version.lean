import SmtScript.Host.Raw

/-!
# Order of versions

Names with numbers in them are compared so that each run of digits counts as a number. What looks
like endings of a name counts only where the names are alike before them. A tilde comes before
everything, even before the end.
-/

namespace SmtScript.Host.Utility.Version

/-- The rank of what comes next if it is no digit: the end, a tilde, letters, then the rest. -/
def rank (text : Raw) : Int :=
  match text with
  | [] => -1
  | c :: _ =>
      if c.isDigit then 0
      else if c.isAlpha then c.toNat
      else if c = '~' then -2
      else c.toNat + 256

/-- Compares what comes before the next digits. Gives what follows in both where it is alike. -/
def compareSigns (fuel : Nat) (a b : Raw) : Ordering × Raw × Raw :=
  match fuel with
  | 0 => (.eq, a, b)
  | fuel + 1 =>
      let isSign (text : Raw) : Bool := text.head?.any fun c => !c.isDigit
      if !isSign a && !isSign b then (.eq, a, b)
      else if rank a ≠ rank b then (compare (rank a) (rank b), a, b)
      else compareSigns fuel (a.drop 1) (b.drop 1)

/-- Compares the runs of signs and of digits one after the other. -/
def compareRuns (fuel : Nat) (a b : Raw) : Ordering :=
  match fuel with
  | 0 => .eq
  | fuel + 1 =>
      if a.isEmpty && b.isEmpty then .eq
      else
        let (order, a, b) := compareSigns (a.length + b.length + 1) a b
        let digits (text : Raw) : Raw := text.takeWhile Char.isDigit
        let number (text : Raw) : Nat := Nat.ofDigitChars 10 (digits text) 0
        let rest (text : Raw) : Raw := text.drop (digits text).length
        (order.then (compare (number a) (number b))).then (compareRuns fuel (rest a) (rest b))

/-- What comes after an ending: a point, a letter or a tilde, and then letters, digits and tildes.
None if the text does not begin with one. -/
def afterEnding? (text : Raw) : Option Raw :=
  match text with
  | '.' :: c :: rest =>
      if c.isAlpha || c = '~' then some (rest.dropWhile fun c => c.isAlphanum || c = '~') else none
  | _ => none

/-- Does a text consist of endings only? -/
def isEndings (fuel : Nat) (text : Raw) : Bool :=
  match fuel, afterEnding? text with
  | _, none => text.isEmpty
  | 0, some _ => false
  | fuel + 1, some rest => isEndings fuel rest

/-- A name without the endings behind its first character. -/
def withoutEndings : Raw → Raw
  | [] => []
  | c :: rest => c :: if isEndings rest.length rest then [] else withoutEndings rest

/-- What comes before all other names, by rank: nothing, one point, two points, and what begins with
a point. -/
def group (name : Raw) : Nat :=
  match name with
  | [] => 0
  | ['.'] => 1
  | ['.', '.'] => 2
  | '.' :: _ => 3
  | _ => 4

def compare (a b : Raw) : Ordering :=
  let whole (a b : Raw) : Ordering := compareRuns (a.length + b.length + 1) a b
  if group a ≠ group b then Ord.compare (group a) (group b)
  else (whole (withoutEndings a) (withoutEndings b)).then (whole a b)

end SmtScript.Host.Utility.Version
