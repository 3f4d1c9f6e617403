import SmtScript.Host.Utility.Amount
import SmtScript.Host.Utility.Order.Key

/-!
# Neighbours that are alike

`uniq` shows one of several neighbours that are alike, how many there are, or all of them in
groups. Lines can be alike although some fields or characters differ.
-/

namespace SmtScript.Host.Utility

/-- The runs of neighbours that are alike. -/
def runs (same : Raw → Raw → Bool) : List Raw → List (List Raw)
  | [] => []
  | line :: rest =>
      match runs same rest with
      | (next :: run) :: others =>
          if same line next then (line :: next :: run) :: others
          else [line] :: (next :: run) :: others
      | others => [line] :: others

/-- Where empty lines stand between groups. -/
inductive Spacing where
  | none
  | before
  | between
  | after
  | both
deriving DecidableEq

namespace Spacing

/-- The groups with the empty lines. -/
def apply (s : Spacing) (ending : Char) (groups : List Raw) : Raw :=
  if groups.isEmpty then []
  else
    match s with
    | none => groups.flatten
    | before => groups.flatMap (ending :: ·)
    | between => [ending].intercalate groups
    | after => groups.flatMap (· ++ [ending])
    | both => ending :: groups.flatMap (· ++ [ending])

end Spacing

/-- What the options ask for. -/
structure Repeats where
  skippedFields : Nat
  skippedChars : Nat
  width? : Option Nat
  /-- Was the number of fields given in the old form, digit by digit? -/
  isOld : Bool
  counts : Bool
  /-- Are lines left out that are alone? -/
  onlyRepeated : Bool
  /-- Are lines left out that are not alone? -/
  onlyAlone : Bool
  /-- Are all lines shown that are alike, and what stands between them? -/
  all? : Option Spacing
  groups? : Option Spacing

namespace Repeats

def none : Repeats :=
  ⟨0, 0, Option.none, false, false, false, false, Option.none, Option.none⟩

/-- A number behind an option. One that is too great is the greatest. -/
def number (what : String) (text : Raw) : Except Raw Nat :=
  match Amount.read false "" text with
  | .ok n => .ok n
  | .error .tooGreat => .ok amountLimit
  | .error _ => .error (text ++ ": invalid number of ".toList ++ what.toList)

/-- Goes on with an option. -/
def step (c : Call) (r : Repeats) (key : Key) (value : Raw) : Except Effect Repeats :=
  let number (what : String) : Except Effect Nat := (number what value).mapError (.failing c 1)
  match key with
  | .letter 'f' => do
      return { r with skippedFields := ← number "fields to skip", isOld := false }
  | .letter 's' => do return { r with skippedChars := ← number "bytes to skip" }
  | .letter 'w' => do return { r with width? := some (← number "bytes to compare") }
  | .letter 'c' => .ok { r with counts := true }
  | .letter 'd' => .ok { r with onlyRepeated := true }
  | .letter 'D' => .ok { r with onlyRepeated := true, all? := some .none }
  | .letter 'u' => .ok { r with onlyAlone := true }
  | .letter l =>
      if !l.isDigit then .ok r
      else
        let before := if r.isOld then r.skippedFields else 0
        .ok { r with skippedFields := min amountLimit (before * 10 + (l.toNat - 48)), isOld := true }
  | .long "all-repeated" => do
      let words := [("none", Spacing.none), ("prepend", .before), ("separate", .between)]
      let spacing ← if value.isEmpty then .ok Spacing.none else meant c "--all-repeated" words value
      return { r with onlyRepeated := true, all? := some spacing }
  | .long "group" => do
      let words := [("prepend", Spacing.before), ("append", .after), ("separate", .between),
        ("both", .both)]
      let spacing ← if value.isEmpty then .ok Spacing.between else meant c "--group" words value
      return { r with groups? := some spacing }
  | .long _ => .ok r

/-- What does not fit together. -/
def fault? (r : Repeats) : Option String :=
  let chooses := r.counts || r.onlyRepeated || r.onlyAlone
  if r.groups?.isSome && chooses then some "--group is mutually exclusive with -c/-d/-D/-u"
  else if r.all?.isSome && r.counts then
    some "printing all duplicated lines and repeat counts is meaningless"
  else Option.none

/-- What lines have to share to be alike. -/
def key (r : Repeats) (folds : Bool) (line : Raw) : Raw :=
  let rest := (SortKey.dropFields Option.none r.skippedFields line).drop r.skippedChars
  let kept := match r.width? with
    | some width => rest.take width
    | Option.none => rest
  if folds then kept.map Char.toLower else kept

/-- What is shown of lines. -/
def text (r : Repeats) (folds : Bool) (ending : Char) (lines : List Raw) : Raw :=
  let all := runs (fun a b => r.key folds a == r.key folds b) lines
  let whole (run : List Raw) : Raw := run.flatMap (· ++ [ending])
  let kept := all.filter fun run =>
    (!r.onlyRepeated || 1 < run.length) && (!r.onlyAlone || run.length = 1)
  let first (run : List Raw) : Raw :=
    (if r.counts then pad false 7 (Raw.ofNat run.length) ++ [' '] else [])
      ++ run.headD [] ++ [ending]
  match r.groups?, r.all? with
  | some spacing, _ => spacing.apply ending (all.map whole)
  | _, some spacing =>
      if r.onlyAlone then spacing.apply ending ((all.filter (1 < ·.length)).map fun run => whole (run.drop 1))
      else spacing.apply ending (kept.map whole)
  | _, _ => kept.flatMap first

end Repeats

/-- An old form of an option: a number of characters after a plus. -/
def oldSkips (previous : Raw) : List Raw → List Raw
  | [] => []
  | ['-', '-'] :: rest => ['-', '-'] :: rest
  | word :: rest =>
      let takesNext := ["-f", "-s", "-w"].any fun option => option.toList = previous
      match word with
      | '+' :: digits =>
          if !takesNext && !digits.isEmpty && digits.all Char.isDigit then
            ['-', 's'] :: digits :: oldSkips [] rest
          else word :: oldSkips word rest
      | _ => word :: oldSkips word rest

def uniq (c : Call) : Effect :=
  let options := known "0123456789cDdf:is:uw:z" <|
    "count=c repeated=d all-repeated:: group:: ignore-case=i unique=u skip-fields=f"
    ++ " skip-chars=s check-chars=w zero-terminated=z"
  let o := Options.read options false (oldSkips [] c.args)
  match o.over c 1 Repeats.none (Repeats.step c), o.operands[2]? with
  | .error e, _ => e
  | .ok _, some extra => misused c 1 ("extra operand ".toList ++ Citation.escaped extra)
  | .ok r, none =>
      match r.fault? with
      | some message => misused c 1 message.toList
      | none =>
          let message (path reason : Raw) : Raw :=
            if path = ['-'] || c.isDirectory path then
              "error reading ".toList ++ Citation.forShell path ++ ": ".toList ++ reason
            else plainMessage path reason
          let (lines, e) := allRecords c (ending o) (o.operands.take 1) message
          let text := r.text (o.has 'i') (ending o) lines
          match e.status, o.operands[1]?.filter (· ≠ ['-']) with
          | 0, none => e.say text
          | 0, some path =>
              match e.files.overwrite? path (Raw.toBytes text) with
              | some files => { e with files := files }
              | none => e.complain c 1 (Citation.bare path ++ ": ".toList ++ e.files.reason path)
          | _, _ => e

end SmtScript.Host.Utility
