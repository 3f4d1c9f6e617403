import SmtScript.Duration
import SmtScript.Json

/-!
# The configuration of a solver

How a solver is called: which executable, with what arguments before the script's path, for how
long, and where the script is written. A configuration can be read from JSON, as an object or
as the array of its four values, and is written as an object.
-/

namespace SmtScript.Solver

structure Config where
  /-- A name that is looked up, or a path. -/
  executable : String
  /-- Where the script is written, if not to a temporary file. -/
  outputFile? : Option String
  extraArgs : List String
  /-- When the solver is killed. -/
  timeout? : Option Duration
deriving DecidableEq

namespace Config

def standard : Config :=
  ⟨"z3", none, [], none⟩

/-! ## Setters -/

inductive Setting where
  | executable (path : String)
  | outputFile (path : String)
  | extraArgs (args : List String)
  | timeout (timeout : Duration)

/-- A later setting replaces an earlier one of the same kind. -/
def set (c : Config) : Setting → Config
  | .executable path => { c with executable := path }
  | .outputFile path => { c with outputFile? := some path }
  | .extraArgs args => { c with extraArgs := args }
  | .timeout timeout => { c with timeout? := some timeout }

/-! ## JSON -/

def durationToJson (d : Duration) : Json :=
  .obj [("secs", .integer d.seconds), ("nanos", .integer d.subsecond)]

def toJson (c : Config) : Json :=
  .obj [
    ("executable", .str c.executable),
    ("output_file", match c.outputFile? with
      | none => .null
      | some path => .str path),
    ("extra_args", .arr (c.extraArgs.map .str)),
    ("timeout", match c.timeout? with
      | none => .null
      | some d => durationToJson d)]

/-- One more than the greatest number of 32 bits. -/
def nanosLimit : Nat := 4294967296

/-- Seconds have 64 bits and nanoseconds 32; what is past a second is carried over. -/
def durationOfParts? (seconds nanos : Json) : Option Duration := do
  Duration.ofParts? (← seconds.nat? Duration.secondsLimit) (← nanos.nat? nanosLimit)

/-- An object with just the two fields, or an array of the two numbers. -/
def durationOfJson? : Json → Option Duration
  | .arr [seconds, nanos] => durationOfParts? seconds nanos
  | .obj fields => do
      if !fields.all (fun field => field.1 == "secs" || field.1 == "nanos") then none
      else durationOfParts? (← (Json.obj fields).field? "secs") (← (Json.obj fields).field? "nanos")
  | _ => none

/-- Null stands for no value. -/
def optional? {α : Type} (read : Json → Option α) : Json → Option (Option α)
  | .null => some none
  | value => (read value).map some

def ofValues? (executable outputFile extraArgs timeout : Json) : Option Config := do
  return {
    executable := ← executable.str?
    outputFile? := ← optional? Json.str? outputFile
    extraArgs := ← (← extraArgs.items?).mapM Json.str?
    timeout? := ← optional? durationOfJson? timeout }

/-- In an object, two fields may be absent, and fields of other names do not matter. -/
def ofJson? : Json → Option Config
  | .arr [executable, outputFile, extraArgs, timeout] =>
      ofValues? executable outputFile extraArgs timeout
  | .obj fields => do
      let field (name : String) := (Json.obj fields).field? name
      ofValues? (← field "executable") ((field "output_file").getD .null)
        (← field "extra_args") ((field "timeout").getD .null)
  | _ => none

end Config

end SmtScript.Solver
