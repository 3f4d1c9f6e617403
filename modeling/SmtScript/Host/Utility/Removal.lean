import SmtScript.Host.Utility.Question

/-!
# Removals

`rm` removes files and, where that is asked for, directories with all that is in them. It may ask
before each of them: a directory stays where something in it does.
-/

namespace SmtScript.Host.Utility

/-- How things are removed. -/
structure Removal where
  /-- Are directories removed with all that is in them? -/
  deep : Bool
  /-- Are directories removed that are empty? -/
  hollow : Bool
  /-- Is nothing said about what is not there? -/
  lenient : Bool
  verbose : Bool
  asksEach : Bool
  /-- Is there one question before many removals? -/
  asksOnce : Bool
  /-- May all that there is be removed? -/
  unbound : Bool

namespace Removal

/-- Goes on with an option. -/
def step (c : Call) (r : Removal) (key : Key) (value : Raw) : Except Effect Removal :=
  match key with
  | .letter 'f' => .ok { r with lenient := true, asksEach := false, asksOnce := false }
  | .letter 'i' => .ok { r with lenient := false, asksEach := true, asksOnce := false }
  | .letter 'I' => .ok { r with lenient := false, asksEach := false, asksOnce := true }
  | .letter 'r' | .letter 'R' => .ok { r with deep := true }
  | .letter 'd' => .ok { r with hollow := true }
  | .letter 'v' => .ok { r with verbose := true }
  | .long "no-preserve-root" => .ok { r with unbound := true }
  | .long "preserve-root" => .ok { r with unbound := false }
  | .long "interactive" => do
      let words := [("never", 0), ("no", 0), ("none", 0), ("once", 1), ("always", 2), ("yes", 2)]
      let often ← if value.isEmpty then pure 2 else meant c "--interactive" words value
      return { r with asksEach := often = 2, asksOnce := often = 1 }
  | _ => .ok r

/-- Says what was removed. -/
def said (r : Removal) (what : String) (path : Raw) (e : Effect) : Effect :=
  if r.verbose then e.say (what.toList ++ Citation.forShell path ++ ['\n']) else e

/-- Asks about something, if questions are wanted and there is a reason for one. -/
def agreed (r : Removal) (c : Call) (needed : Bool) (question : String) (path : Raw) :
    StateM Dialog Bool := do
  if !r.asksEach || !needed then return true
  else
    let (agrees, d) := (← get).ask c (question.toList ++ ' ' :: Citation.forShell path)
    set d
    return agrees

/-- Removes what is at a location. Gives whether it is gone. -/
def run (r : Removal) (c : Call) (fuel : Nat) (path : Raw) (loc : Location) : StateM Dialog Bool :=
  match fuel with
  | 0 => return false
  | fuel + 1 => do
      let files := (← get).effect.files
      if !files.isDirectoryAt loc then
        if !(← r.agreed c true ("remove " ++ kindName files loc) path) then return false
        modify fun d => d.map fun e => r.said "removed " path { e with files := e.files.eraseAt loc }
        return true
      else
        let names := namesIn files loc
        if !(← r.agreed c (!names.isEmpty) "descend into directory" path) then return false
        let mut isEmpty := true
        for name in names do
          if !(← r.run c fuel (withoutSlashes path ++ '/' :: name) (loc ++ [name])) then
            isEmpty := false
        if !(← r.agreed c isEmpty "remove directory" path) then isEmpty := false
        if !isEmpty then return false
        modify fun d => d.map fun e =>
          r.said "removed directory " path { e with files := e.files.eraseAllAt loc }
        return true

/-- Removes what is at a path. -/
def one (r : Removal) (c : Call) (d : Dialog) (path : Raw) : Dialog :=
  let files := d.effect.files
  let fuel := files.entries.length + 1
  let refused (reason : Raw) : Dialog := d.map fun e => cannot e c "remove".toList path reason
  let isLink := path.getLast? = some '/'
    && (files.entryItself? (withoutSlashes path) matches some (.link _))
  match files.place? path, files.entryItself? path with
  | some loc, some .directory =>
      if isLink then refused Fault.notDirectory.text
      else if !r.deep && !r.hollow then refused "Is a directory".toList
      else if r.deep && isDots path then
        d.map fun e => e.complain c 1
          ("refusing to remove \x27.\x27 or \x27..\x27 directory: skipping ".toList
            ++ Citation.forShell path)
      else if r.deep && !r.unbound && loc.isEmpty then
        let same := (if path = ['/'] then "" else " (same as \x27/\x27)").toList
        d.map fun e =>
          (e.complain c 1
            ("it is dangerous to operate recursively on ".toList ++ Citation.forShell path
              ++ same)).complain c 1 "use --no-preserve-root to override this failsafe".toList
      else if !r.deep && !(files.names loc).isEmpty then refused "Directory not empty".toList
      else ((r.run c fuel path loc).run d).2
  | some loc, some _ => ((r.run c fuel path loc).run d).2
  | _, _ => if r.lenient then d else refused (files.reason path)

end Removal

def rm (c : Call) : Effect :=
  let options := known "dfirvIR" <|
    "force=f interactive:: one-file-system no-preserve-root preserve-root::"
    ++ " -presume-input-tty recursive=r dir=d verbose=v"
  let o := Options.read options false c.args
  match o.over c 1 ⟨false, false, false, false, false, false, false⟩ (Removal.step c) with
  | .error e => e
  | .ok r =>
      if o.operands.isEmpty then
        if r.lenient then .quiet c 0 else misused c 1 "missing operand".toList
      else
        let count := o.operands.length
        let question := "remove ".toList ++ Raw.ofNat count
          ++ (if count = 1 then " argument" else " arguments").toList
          ++ (if r.deep then " recursively" else "").toList
        let (agrees, d) := if r.asksOnce && (r.deep || 3 < count) then (Dialog.start c).ask c question
          else (true, Dialog.start c)
        if agrees then (o.operands.foldl (r.one c) d).effect else d.effect

end SmtScript.Host.Utility
