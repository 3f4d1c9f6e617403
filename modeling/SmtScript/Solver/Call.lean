import SmtScript.Solver.Config
import SmtScript.Solver.Runner

/-!
# Calling a solver

An executable that the system has found, with its configuration, is a runner. It is started on a
file, its output is read as text, and only an exit code of 0 makes an answer.
-/

namespace SmtScript.Solver

open Host (FileSystem)

structure Executable where
  location : String
  config : Config

namespace Executable

/-- The stem of the file name, for messages and for the names of temporary files. -/
def name (e : Executable) : String :=
  match Path.fileName? e.location.toList with
  | some name => String.ofList (Path.stem name)
  | none => "solver"

/-- What a verdict means to the caller. -/
def answer (tool : String) (timeout? : Option Duration) :
    Option Supervision.Verdict → Except Error String
  | some (.exited 0 output) => .ok (Utf8.toString output)
  | some (.exited code output) =>
      .error (.runner (.unexpectedResult tool code (Utf8.toString output)))
  | some .timedOut =>
      match timeout? with
      | some timeout => .error (.runner (.timeout tool timeout))
      | none => .error .io
  | some (.signalled output) => .error (.runner (.signal tool (Utf8.toString output)))
  | some .unreadable | none => .error .io

end Executable

namespace System

def find (s : System) (config : Config) (files : FileSystem) : Except RunnerError Executable :=
  match s.executable? files config.executable with
  | some path => .ok ⟨path, config⟩
  | none => .error (.notFound config.executable)

def run (s : System) (e : Executable) (problem : String) (files : FileSystem) : Outcome :=
  if !files.isFile (pathOf problem) then (.error (.runner (.notAFile problem)), files)
  else
    let args := (e.config.extraArgs ++ [problem]).map pathOf
    let limit? := e.config.timeout?.map Duration.nanoseconds
    match s.start? files (pathOf e.location) args limit? with
    | none => (.error .io, files)
    | some (life, files) =>
        let verdict? := Supervision.verdict? limit?.isSome life
        (Executable.answer e.name e.config.timeout? verdict?, files)

def runner (s : System) (e : Executable) : Runner where
  name := e.name
  outputFile? := e.config.outputFile?
  suffix := standardSuffix
  run := s.run e

end System

end SmtScript.Solver
