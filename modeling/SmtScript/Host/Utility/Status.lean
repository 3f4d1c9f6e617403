import SmtScript.Host.Utility.Format
import SmtScript.Host.Utility.Listing

/-!
# What is known about files

`stat` tells what is known about files in a form that it is given.
-/

namespace SmtScript.Host.Utility

/-- The kind of an entry among the bits of its mode. -/
def kindBits (found : Option Entry) : Nat :=
  match found with
  | some .directory => 0o40000
  | some (.link _) => 0o120000
  | some (.fifo _) => 0o10000
  | some (.device _) => 0o20000
  | _ => 0o100000

/-- What a letter stands for. -/
def statPart? (files : FileSystem) (path : Raw) (loc : Location) (letter : Char) : Option Raw :=
  let row := rowOf ⟨[], [], none⟩ files loc path
  let mode := row.mode
  let size := match files.at? loc with
    | some (.link target) => target.length
    | some (.device _) => 0
    | _ => sizeAt files loc
  match letter with
  | 'a' => some (Nat.toDigits 8 mode)
  | 'A' => some (row.kind :: Mode.text mode)
  | 'b' => some (Raw.ofNat (row.blocks * 2))
  | 'B' => some "512".toList
  | 'f' => some (Nat.toDigits 16 (kindBits (files.at? loc) + mode))
  | 'F' => some (kindName files loc).toList
  | 'g' | 'u' => some ['0']
  | 'G' | 'U' => some "root".toList
  | 'h' => some (Raw.ofNat row.links)
  | 'n' => some path
  | 'N' => some (match files.at? loc with
      | some (.link target) => Citation.forShell path ++ " -> ".toList ++ Citation.forShell target
      | _ => Citation.forShell path)
  | 'o' => some "4096".toList
  | 's' => some (Raw.ofNat size)
  | 'w' | 'x' | 'y' | 'z' => some (timeText row.changed)
  | 'X' | 'Y' | 'Z' => some (Raw.ofNat (row.changed / 1000000000))
  | '%' => some ['%']
  | _ => none

/-- A form with what is known in the place of letters behind percent signs. -/
def statText (fuel : Nat) (files : FileSystem) (path : Raw) (loc : Location) (form : Raw) : Raw :=
  match fuel, form with
  | 0, _ | _, [] => []
  | fuel + 1, '%' :: rest =>
      let flags := rest.takeWhile fun c => c.isDigit || c = '-'
      match rest.drop flags.length with
      | letter :: after =>
          let text := (statPart? files path loc letter).getD ['?']
          let width := Nat.ofDigitChars 10 (flags.filter Char.isDigit) 0
          let zeros := flags.head? = some '0'
          let text := if zeros then List.replicate (width - text.length) '0' ++ text
            else pad (flags.head? = some '-') width text
          text ++ statText fuel files path loc after
      | [] => '%' :: flags
  | fuel + 1, c :: rest => c :: statText fuel files path loc rest

def stat (c : Call) : Effect :=
  let options := known "c:Lft" "dereference=L file-system=f format=c printf: terse=t cached:"
  withOptions c 1 options fun o =>
    if o.operands.isEmpty then misused c 1 "missing operand".toList
    else forEachPath c o.operands fun e path =>
      let place? := if o.has 'L' then c.files.locate? path else c.files.place? path
      match place?.filter fun loc => (c.files.at? loc).isSome with
      | none => cannot e c "statx".toList path (c.files.reason path)
      | some loc =>
          let form := ((o.value? "printf").orElse fun _ => o.value? 'c').getD "%n".toList
          let form := if o.has "printf" then (unescape true (form.length + 1) form).1 else form
          e.say (statText (form.length + 1) c.files path loc form
            ++ if o.has "printf" then [] else ['\n'])

end SmtScript.Host.Utility
