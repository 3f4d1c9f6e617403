import SmtScript.Solver.Error
import SmtScript.Solver.System
import SmtScript.Stack

/-!
# Runners

A runner answers what a solver says about a script in a file. The script is written to the file
that the runner names, which stays, or to a temporary file, which does not. The runner
is asked only if all of the script has been written.
-/

namespace SmtScript.Solver

open Host (FileSystem)
open Host.FileSystem (Target)

/-- Why there is no answer. -/
inductive Error where
  /-- The script has no text. -/
  | halt (halt : Halt)
  /-- A file could not be made, written or read, or a process could not be started. -/
  | io
  | runner (error : RunnerError)

/-- An answer, and the files after it was given. -/
abbrev Outcome := Except Error String × FileSystem

/-- A path as the files of a host know it. -/
def pathOf (text : String) : Host.Raw :=
  Host.Raw.ofText text.toList

structure Runner where
  name : String
  outputFile? : Option String
  suffix : String
  /-- Asks about the script in a file. -/
  run : String → FileSystem → Outcome

/-- Answers with the text of the file itself. -/
def Runner.echo (name : String) (outputFile? : Option String) (suffix : String) : Runner where
  name := name
  outputFile? := outputFile?
  suffix := suffix
  run := fun problem files =>
    match files.readText? (pathOf problem) with
    | some text => (.ok text, files)
    | none => (.error .io, files)

/-- The usual end of a temporary file's name. -/
def standardSuffix : String := ".smt2"

/-- What came of a script. -/
structure Report where
  /-- The file that the runner was asked about, if it was asked. -/
  problem? : Option String
  answer : Except Error String
  files : FileSystem

namespace Runner

/-- What stands before the tag in the name of a temporary file. -/
def temporaryStem (r : Runner) : List Char :=
  "smtlib-".toList ++ r.name.toList ++ ['-']

def refused (files : FileSystem) : Report :=
  ⟨none, .error .io, files⟩

/-- Asks about a file. -/
def ask (r : Runner) (problem : String) (files : FileSystem) : Report :=
  let (answer, files) := r.run problem files
  ⟨some problem, answer, files⟩

/-- Asks about a file that stays open for writing until there is an answer. -/
def askWhileOpen (r : Runner) (problem : String) (files : FileSystem) : Report :=
  let report := r.ask problem (files.holding (pathOf problem))
  { report with files := report.files.withBusy files.busy }

end Runner

namespace System

/-! ## A file that stays -/

/-- Writes the script to a file, through a buffer. The directories on the way are made. Gives the
files when all of it was written, or when something failed. -/
def save (s : System) (path script : String) (files : FileSystem) :
    Except FileSystem FileSystem :=
  let (made, files) := files.makeParent (pathOf path)
  if !made then .error files
  else
    match s.open? (pathOf path) FileSystem.standardMode files with
    | none => .error files
    | some (target, files) =>
        let (buffered, held, files) := s.buffer target (Utf8.ofString script) files
        if !buffered then .error (s.close target held files)
        else
          let (flushed, held, files) := s.flush target held files
          if !flushed then .error (s.close target held files) else .ok files

def runInPlace (s : System) (r : Runner) (path script : String) (files : FileSystem) : Report :=
  match s.save path script files with
  | .error left => Runner.refused left
  | .ok written => r.askWhileOpen path written

/-! ## A temporary file -/

/-- Makes a new file. Gives its path, and what is open. -/
def create? (s : System) (r : Runner) (files : FileSystem) :
    Option (String × Target × FileSystem) :=
  match s.temporaries.freshPath? files r.temporaryStem r.suffix.toList with
  | none => none
  | some path =>
      let name := String.ofList path
      match s.open? (pathOf name) FileSystem.privateMode files with
      | none => none
      | some (target, files) => some (name, target, files)

/-- Writes the script to what is open. Gives the files when all of it was written, or when something
failed. -/
def fill (s : System) (target : Target) (script : String) (files : FileSystem) :
    Except FileSystem FileSystem :=
  let (left, files) := s.writeAll target (Utf8.ofString script) files
  if !left.isEmpty then .error files
  else if !s.flushes files target then .error files
  else .ok files

/-- The file is erased after the answer, and also if there is none. -/
def runTemporary (s : System) (r : Runner) (script : String) (files : FileSystem) : Report :=
  match s.create? r files with
  | none => Runner.refused files
  | some (name, target, files) =>
      let report := match s.fill target script files with
        | .error left => Runner.refused left
        | .ok written => r.askWhileOpen name written
      { report with files := report.files.erase (pathOf name) }

/-! ## Scripts and stacks -/

def runScript (s : System) (r : Runner) (script : String) (files : FileSystem) : Report :=
  match r.outputFile? with
  | some path => s.runInPlace r path script files
  | none => s.runTemporary r script files

/-- Only a stack that has a text touches files. -/
def runStack (s : System) (r : Runner) (stack : Stack) (g : Graph) (files : FileSystem) : Report :=
  match stack.serialize g with
  | .error h => ⟨none, .error (.halt h), files⟩
  | .ok script => s.runScript r script files

end System

end SmtScript.Solver
