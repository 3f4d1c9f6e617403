import SmtScript.Host.Mode
import SmtScript.Host.Utility.Names

/-!
# Changes of permissions

`chmod` gives files other permissions. A change that takes something away looks like options.
-/

namespace SmtScript.Host.Utility

/-- A change of permissions, and what is said about it. -/
structure Permission where
  /-- The change. Without one the permissions are those of another file. -/
  change? : Option Raw
  model? : Option Raw
  deep : Bool
  /-- Is nothing said about failures? -/
  quiet : Bool
  /-- Is it said what becomes of each file? -/
  verbose : Bool
  /-- Is it said what changes? -/
  tells : Bool

namespace Permission

/-- The letters that may stand in a change after a dash. -/
def modeLetters : String :=
  "rwxXstugoa,+=01234567"

def options : List Known :=
  known "Rcfv" "changes=c recursive=R no-preserve-root preserve-root quiet=f silent=f verbose=v reference:"
    ++ modeLetters.toList.map fun l => ⟨l, none, .optional⟩

/-- Goes on with an option. -/
def step (p : Permission) (key : Key) (value : Raw) : Except Effect Permission :=
  match key with
  | .letter 'R' => .ok { p with deep := true }
  | .letter 'c' => .ok { p with tells := true, verbose := false }
  | .letter 'f' => .ok { p with quiet := true }
  | .letter 'v' => .ok { p with tells := true, verbose := true }
  | .letter l =>
      let before := p.change?.elim [] fun text => text ++ [',']
      .ok { p with change? := some (before ++ '-' :: l :: value) }
  | .long "reference" => .ok { p with model? := some value }
  | .long _ => .ok p

/-- Goes on with a failure. -/
def refused (p : Permission) (c : Call) (e : Effect) (message : Raw) : Effect :=
  if p.quiet then { e with status := 1 } else e.complain c 1 message

/-- Changes the permissions of what is at a location. A change that was given as options has to do
without the mask what it does with it. -/
def atPlace (p : Permission) (c : Call) (mode : Raw) (e : Effect) (path : Raw) (loc : Location) :
    Effect :=
  let directory := e.files.isDirectoryAt loc
  let old := e.files.modeAt loc
  let changed (mask : Nat) : Nat := (Mode.change? mask directory old mode).getD old
  let new := changed c.mask
  let shown (mode : Nat) : Raw := Mode.digits mode ++ " (".toList ++ Mode.text mode ++ [')']
  let e := { e with files := e.files.withModeAt loc new }
  let about := "mode of ".toList ++ Citation.forShell path
  let e := if old ≠ new && p.tells then
      e.say (about ++ " changed from ".toList ++ shown old ++ " to ".toList ++ shown new ++ ['\n'])
    else if p.verbose then e.say (about ++ " retained as ".toList ++ shown old ++ ['\n'])
    else e
  let kept := new - (new &&& changed 0)
  if p.change?.isSome && kept ≠ 0 then
    p.refused c e (Citation.bare path ++ ": new permissions are ".toList ++ Mode.text new
      ++ ", not ".toList ++ Mode.text (changed 0))
  else e

/-- Changes the permissions at a location and of what is below it, but for links. -/
def below (p : Permission) (c : Call) (mode : Raw) (fuel : Nat) (e : Effect) (path : Raw)
    (loc : Location) : Effect :=
  match fuel with
  | 0 => e
  | fuel + 1 =>
      let e := p.atPlace c mode e path loc
      if !e.files.isDirectoryAt loc then e
      else
        (namesIn e.files loc).foldl
          (fun e name =>
            match Effect.files e |>.at? (loc ++ [name]) with
            | none | some (.link _) => e
            | some _ => p.below c mode fuel e (withoutSlashes path ++ '/' :: name) (loc ++ [name]))
          e

/-- Goes on with a file that cannot be found. -/
def lost (p : Permission) (c : Call) (e : Effect) (path : Raw) : Effect :=
  let e := p.refused c e ("cannot access ".toList ++ Citation.forShell path ++ ": ".toList
    ++ e.files.reason path)
  if p.verbose then e.say (Citation.forShell path ++ " could not be accessed\n".toList) else e

/-- Changes the permissions of what is at a path. -/
def one (p : Permission) (c : Call) (mode : Raw) (e : Effect) (path : Raw) : Effect :=
  let files := e.files
  match files.locate? path with
  | none => p.lost c e path
  | some loc =>
      if (files.at? loc).isSome then
        if p.deep then p.below c mode (files.entries.length + 1) e path loc
        else p.atPlace c mode e path loc
      else if (files.entryItself? path).isSome then
        p.refused c e ("cannot operate on dangling symlink ".toList ++ Citation.forShell path)
      else p.lost c e path

/-- The change and the paths. Only where the change is no option it is among the operands. -/
def run (p : Permission) (c : Call) (operands : List Raw) : Effect :=
  let mode? := p.change?.orElse fun _ => operands.head?
  let paths := if p.change?.isSome || p.model?.isSome then operands else operands.drop 1
  let none := misused c 1 "missing operand".toList
  match p.model?, mode?, paths with
  | some path, _, paths =>
      if p.change?.isSome then
        misused c 1 "cannot combine mode and --reference options".toList
      else if paths.isEmpty then none
      else
        match c.files.locate? path, c.files.exists? path with
        | some loc, true =>
            let mode := Nat.toDigits 8 (c.files.modeAt loc)
            forEachPath c paths (p.one c (List.replicate (5 - mode.length) '0' ++ mode))
        | _, _ =>
            .failing c 1 ("failed to get attributes of ".toList ++ Citation.forShell path
              ++ ": ".toList ++ c.files.reason path)
  | .none, .none, _ => none
  | .none, some mode, [] =>
      if p.change?.isSome then none
      else misused c 1 ("missing operand after ".toList ++ Citation.escaped mode)
  | .none, some mode, paths =>
      if (Mode.change? c.mask false 0 mode).isNone then
        misused c 1 ("invalid mode: ".toList ++ Citation.escaped mode)
      else forEachPath c paths (p.one c mode)

end Permission

def chmod (c : Call) : Effect :=
  let o := Options.read Permission.options false c.args
  match o.over c 1 ⟨none, none, false, false, false, false⟩ Permission.step with
  | .error e => e
  | .ok p => p.run c o.operands

end SmtScript.Host.Utility
