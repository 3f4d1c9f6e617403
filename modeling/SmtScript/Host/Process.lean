import SmtScript.Host.Shell.Run
import SmtScript.Solver.Supervision

/-!
# Programs on a host

A program that is started on a host becomes the first of its processes, and leaves the files as they
are when it is over.
-/

namespace SmtScript.Host

open SmtScript.Solver.Supervision (Life)
open Shell

namespace FileSystem

/-- More turns than processes take. -/
def turnLimit : Nat := Nat.pow 2 60

/-- The most bytes of an argument. -/
def argumentLimit : Nat := 131071

/-- Can the text be handed to a process? -/
def isArgument (text : Raw) : Bool :=
  !text.contains '\x00' && text.length ≤ argumentLimit

/-- The world that the first process finds: nothing to read, and output to whoever started it. -/
def world (fs : FileSystem) : World where
  files := fs
  clock := 0
  streams := [(0, .ofSource .nowhere true true false), (1, .ofSource .answer false true false)]
  pipes := []
  processes :=
    [{ id := World.firstProcess
       parent := World.firstProcess - 1
       group := World.firstProcess - 1
       streams := [(0, 0), (1, 1), (2, 0)]
       ignored := []
       caught := []
       pending := []
       held := []
       stopped := false
       fate? := none
       bounds := standardBounds
       working := fs.working
       used := 0
       niceness := 0 }]
  output := []
  nextProcess := World.firstProcess + 1
  nextStream := 2
  nextPipe := 0

/-- The shell that any process starts with. -/
def shell (fs : FileSystem) : Shell where
  id := World.firstProcess
  shell := World.firstProcess
  name := "sh".toList
  args := []
  vars := [("PATH".toList, ⟨some "/usr/local/bin:/usr/bin:/bin".toList, true, false⟩),
    ("HOME".toList, ⟨some "/root".toList, true, false⟩)]
  functions := []
  bodies := []
  nextBody := 0
  aliases := []
  found := []
  options := []
  directory := directoryText fs.working
  status := 0
  inner := 0
  traps := []
  deaf := []
  before? := none
  lastJob? := none
  jobs := []
  mask := 0o022
  saved := []
  loops := 0
  calls := 0
  scripts := 0
  tested := false
  line := 0
  command := []
  optionIndex := 1
  optionPlace := 0
  stalled := false
  spoilt := false

/-- What the first process did, as whoever started it sees it. One that was killed counts as still
running if the limit was reached before nobody could answer any more. -/
def lifeOf (o : Outcome) : Life :=
  let ending? : Option Solver.Ending :=
    match (o.world.process? World.firstProcess).bind Process.fate? with
    | some (.exited status) => some (.exited status)
    | _ => if o.struck then none else some .killed
  ⟨Raw.toBytes o.world.output.reverse.flatten, ending?⟩

/-- What a process does that runs a program. -/
def task (fs : FileSystem) (path called : Raw) (args : List Raw) : Task :=
  runProgram endless path called args ⟨fs.shell, fs.world⟩ finished

/-- Runs a program, with a time limit in nanoseconds. None if it cannot be started or does not
end. -/
def start? (fs : FileSystem) (program : Raw) (args : List Raw) (limit? : Option Nat) :
    Option (Life × FileSystem) :=
  if !(program :: args).all isArgument then none
  else
    match fs.findProgram? searchPath program with
    | none => none
    | some path =>
        match Image.of fs path program args with
        | .program .. =>
            let (w, waiting) := (fs.task path program args).after []
            (w.run turnLimit World.firstProcess limit? false waiting).map fun o =>
              (lifeOf o, { o.world.files with working := fs.working })
        | .plain | .refused _ => none

end FileSystem

end SmtScript.Host
