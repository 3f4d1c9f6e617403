import SmtScript.Duration
import SmtScript.Text.Quoted

/-!
# Errors of running a solver

Names of files are quoted and durations are exact, so that a message stays readable whatever it
is about.
-/

namespace SmtScript.Solver

inductive RunnerError where
  /-- No executable of that name. -/
  | notFound (path : String)
  /-- The configuration is not valid. -/
  | config (text : String)
  /-- What is to be solved is not a file. -/
  | notAFile (path : String)
  | noStdout (tool : String)
  | timeout (tool : String) (limit : Duration)
  | signal (tool stdout : String)
  | unexpectedResult (tool : String) (returnCode : Int) (stdout : String)
deriving DecidableEq

def RunnerError.message : RunnerError → String
  | .notFound path => "couldn't find the solver " ++ Text.quoted path
  | .config text => text
  | .notAFile path => Text.quoted path ++ " is not a file"
  | .noStdout tool => "couldn't build the stdout handle of " ++ tool
  | .timeout tool limit => tool ++ " ran out of time (" ++ String.ofList limit.text ++ ")"
  | .signal tool stdout => tool ++ " terminated by signal.\nstdout:\n" ++ stdout
  | .unexpectedResult tool returnCode stdout =>
      "unexpected behaviour while running " ++ tool ++ ":\nreturn code: "
        ++ String.ofList (Decimal.signed returnCode) ++ "\nstdout:\n" ++ stdout

end SmtScript.Solver
