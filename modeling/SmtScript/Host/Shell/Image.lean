import SmtScript.Host.Shell.Variable

/-!
# What a path runs

A path leads to an installed program, to a script that names the program that reads it, or to plain
text, which only a shell can take for a script.
-/

namespace SmtScript.Host.Shell

/-- Why a path cannot be run. -/
inductive Refusal where
  /-- It leads nowhere, or too many scripts name each other. -/
  | fault (reason : Fault)
  | denied
  /-- Somebody has it open for writing. -/
  | busy
  /-- There is too much to hand on. -/
  | tooMany
  /-- It is neither a program nor a text. -/
  | format
deriving DecidableEq

namespace Refusal

def text : Refusal → Raw
  | .fault reason => reason.text
  | .denied => "Permission denied".toList
  | .busy => "Text file busy".toList
  | .tooMany => "Argument list too long".toList
  | .format => "Exec format error".toList

/-- Is there nothing at the path? -/
def isAbsence (r : Refusal) : Bool :=
  r = .fault .missing || r = .fault .notDirectory

/-- The status of a shell that could not run the path. -/
def shellStatus : Refusal → Nat
  | .fault _ => 127
  | _ => 126

/-- The reason in the words of a shell. -/
def shellText (r : Refusal) : Raw :=
  if r.isAbsence then "not found".toList else r.text

/-- The status of a program that could not run another one. -/
def status (r : Refusal) : Nat :=
  if r = .fault .missing then 127 else 126

end Refusal

inductive Image where
  /-- An installed program, how it is called, and its arguments. -/
  | program (name : String) (called : Raw) (args : List Raw)
  | plain
  | refused (reason : Refusal)

/-- How many files are looked at until one is no script. -/
def interpreterLimit : Nat := 6

def imageAt (fuel : Nat) (files : FileSystem) (path called : Raw) (args : List Raw) : Image :=
  match fuel with
  | 0 => .refused (.fault .circular)
  | fuel + 1 =>
      match files.entry? path with
      | some (.program name) => .program name called args
      | some (.file number) =>
          if !files.isExecutable path then .refused .denied
          else if files.busy.contains number then .refused .busy
          else
            match interpreter? ((files.content? number).getD []) with
            | some (interpreter, arg?) =>
                imageAt fuel files interpreter interpreter (arg?.toList ++ path :: args)
            | none => .plain
      | some _ => .refused .denied
      | none =>
          .refused (.fault (match files.resolve true path with
            | .error reason => reason
            | .ok _ => .missing))

/-- What a path runs with arguments, called by a name. -/
def Image.of (files : FileSystem) (path called : Raw) (args : List Raw) : Image :=
  imageAt interpreterLimit files path called args

/-- The files as the process sees them, with those that some process has open for writing. -/
def Machine.forRunning (m : Machine) : FileSystem :=
  let written := m.toWorld.streams.filterMap fun s => if s.2.writes then s.2.file? else none
  { m.here with busy := written ++ m.files.busy }

/-! ## Names of programs -/

/-- So many bytes tell whether a file is a text. -/
def textFront : Nat := 128

/-- Is there a byte at the front of the first line that is in no text? -/
def isBinary (content : Raw) : Bool :=
  ((content.take textFront).takeWhile (· ≠ '\n')).any fun c =>
    c.toNat ≤ 8 || 16 ≤ c.toNat && c.toNat < 32 && c.toNat ≠ 27 || c.toNat = 127

/-- What a path runs for a shell, which takes only texts for scripts. -/
def Image.forShell (files : FileSystem) (path : Raw) : Image :=
  match Image.of files path path [] with
  | .plain =>
      match files.entry? path with
      | some (.file number) =>
          if isBinary (Raw.ofBytes ((files.content? number).getD [])) then .refused .format else .plain
      | _ => .plain
  | image => image

/-- The first of several paths that can be run, or why none can. With `stops`, only what is not
there and what is no program is passed by. Otherwise it is a shell that looks for it. -/
def firstRunnable (files : FileSystem) (stops : Bool) (found : Refusal) :
    List Raw → Except Refusal Raw
  | [] => .error found
  | path :: others =>
      match if stops then Image.of files path path [] else Image.forShell files path with
      | .refused reason =>
          if reason.isAbsence then
            firstRunnable files stops (if found.isAbsence then reason else found) others
          else if stops && reason ≠ .denied then .error reason
          else firstRunnable files stops reason others
      | _ => .ok path

namespace Machine

/-- The path of a program: that which was found before, or that which the search path leads to.
Programs that are looked for in other directories are not remembered. -/
def programPath? (m : Machine) (places? : Option (List Raw)) (name : Raw) : Option Raw :=
  match places?, m.found.lookup name with
  | some places, _ => m.here.findProgram? places name
  | none, some (path, false) => some path
  | none, _ => m.here.findProgram? m.directories name

/-- The path of a script: one with a slash as it is, another one where the search path leads to a
file. -/
def scriptPath? (m : Machine) (name : Raw) : Option Raw :=
  if name.contains '/' then some name
  else
    (FileSystem.candidates m.directories name).find? fun path =>
      match m.here.entry? path with
      | some (.file _) => true
      | _ => false

/-- The most bytes of an argument or a variable, with the zero at its end. -/
def wordLimit : Nat := 131072

/-- The most bytes of all of them together, with the places where they stand. -/
def wordsLimit : Nat := 2097152

/-- Can the arguments be handed on, and the variables with them? -/
def canHandOn (m : Machine) (args : List Raw) : Bool :=
  let words := args.map List.length ++ m.environment.map fun v => v.1.length + v.2.length + 1
  words.all (· < wordLimit) && words.foldl (fun n length => n + length + 9) 0 < wordsLimit

/-- Why the search path leads to no program of a name. -/
def whyNotFound (m : Machine) (places? : Option (List Raw)) (name : Raw) : Refusal :=
  (FileSystem.candidates (places?.getD m.directories) name).foldl
    (fun reason path =>
      match m.here.resolve true path with
      | .error fault => if Refusal.isAbsence (.fault fault) then reason else .fault fault
      | .ok loc => if (m.here.at? loc).isSome then .denied else reason)
    (.fault .missing)

/-- The path that is run for a name, from the one on that was found. -/
def runnable (m : Machine) (places? : Option (List Raw)) (found? : Option Raw) (name : Raw)
    (args : List Raw) : Except Refusal Raw :=
  let paths := FileSystem.candidates (places?.getD m.directories) name
  let paths := match found? with
    | some path => path :: (paths.dropWhile (· ≠ path)).drop 1
    | none => paths
  match firstRunnable m.forRunning false (.fault .missing) paths with
  | .ok path => if m.canHandOn (name :: args) then .ok path else .error .tooMany
  | refused => refused

/-- The path of the program of a name, or why it cannot be started. Without a search path the
usual one counts. -/
def launchable (m : Machine) (name : Raw) (args : List Raw) : Except Refusal Raw :=
  let directories := match m.value? "PATH" with
    | some _ => m.directories
    | none => FileSystem.searchPath
  let paths := if name.isEmpty then [] else FileSystem.candidates directories name
  match firstRunnable m.forRunning true (.fault .missing) paths with
  | .ok path => if m.canHandOn (name :: args) then .ok path else .error .tooMany
  | refused => refused

end Machine

end SmtScript.Host.Shell
