import SmtScript.Host.Utility.Column
import SmtScript.Host.Utility.Count
import SmtScript.Host.Utility.Dump
import SmtScript.Host.Utility.Edit
import SmtScript.Host.Utility.Expression
import SmtScript.Host.Utility.Files
import SmtScript.Host.Utility.Format.Strict
import SmtScript.Host.Utility.Link
import SmtScript.Host.Utility.Listing
import SmtScript.Host.Utility.Numbering
import SmtScript.Host.Utility.Order
import SmtScript.Host.Utility.Permission
import SmtScript.Host.Utility.Removal
import SmtScript.Host.Utility.Repeat
import SmtScript.Host.Utility.Search
import SmtScript.Host.Utility.Sequence
import SmtScript.Host.Utility.Show
import SmtScript.Host.Utility.Status
import SmtScript.Host.Utility.Test.Counted
import SmtScript.Host.Utility.Transfer
import SmtScript.Host.Utility.Wait

/-!
# Utilities by name

A host has the utilities installed as programs; some are part of a shell, too.
-/

namespace SmtScript.Host.Utility

/-- Writes the path of the working directory, on request as it was gone to. -/
def workingDirectory (c : Call) : Effect :=
  let options := known "LP" "logical=L physical=P"
  withOptions c 1 options fun o =>
    let warned := if o.operands.isEmpty then Effect.quiet c 0
      else .failing c 0 "ignoring non-option arguments".toList
    let here := c.files.working
    let text := FileSystem.Location.text here
    let given := (c.environment.lookup "PWD".toList).getD []
    let isLogical := o.last? ['L', 'P'] = some (.letter 'L')
    if here.any fun name => name.head? = some FileSystem.buriedMark then
      warned.complain c 1 "couldn\x27t find directory entry in \x27..\x27 with matching i-node".toList
    else if isLogical && Path.isAbsolute given && c.files.locate? given == some here then
      warned.say (given ++ ['\n'])
    else warned.say ((if text.isEmpty then ['/'] else text) ++ ['\n'])

/-- Writes the variables that a process was given, or the values of some. -/
def printenv (c : Call) : Effect :=
  withFrontOptions c 2 (known "0" "null=0") fun o =>
      let ending := if o.has '0' then '\x00' else '\n'
      if o.operands.isEmpty then
        .saying c (c.environment.flatMap fun v => v.1 ++ '=' :: v.2 ++ [ending])
      else
        let values := o.operands.map fun name => c.environment.lookup name
        let e := Effect.saying c (values.flatMap fun v => (v.map (· ++ [ending])).getD [])
        { e with status := if values.all Option.isSome then 0 else 1 }

/-- The utilities that are programs of their own. -/
def installed : List (String × (Call → Effect)) :=
  [("true", fun c => .quiet c 0), ("false", fun c => .quiet c 1), ("echo", echo),
    ("printf", printfProgram), ("test", testProgram), ("[", bracketProgram), ("pwd", workingDirectory),
    ("printenv", printenv), ("sleep", sleep), ("basename", basename), ("dirname", dirname),
    ("ls", ls), ("rm", rm), ("rmdir", rmdir), ("mkdir", mkdir), ("touch", touch), ("chmod", chmod),
    ("cp", cp), ("mv", mv), ("ln", ln), ("readlink", readlink),
    ("mkfifo", mkfifo), ("stat", stat), ("cat", cat), ("tac", tac), ("rev", rev), ("nl", nl),
    ("head", head), ("tail", tail), ("wc", wc), ("sort", sort),
    ("uniq", uniq), ("cut", cut), ("tr", tr), ("seq", seq), ("yes", yes), ("grep", grep []),
    ("egrep", grep ['E']), ("fgrep", grep ['F']), ("sed", sed), ("expr", expr),
    ("od", od)]

/-- The utilities that are part of a shell. -/
def builtin : List (String × (Call → Effect)) :=
  [("true", fun c => .quiet c 0), ("false", fun c => .quiet c 1), ("echo", echoEscapes),
    ("printf", printf), ("test", test), ("[", bracket)]

end SmtScript.Host.Utility
