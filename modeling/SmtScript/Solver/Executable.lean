import SmtScript.Host.Process
import SmtScript.Solver.Call

/-!
# Solvers on a host

On a host, names are looked up in its search path, a temporary file gets the first name that is
free, and a process is one of a shell or of a utility. Files take whatever is written to them. Only
installed programs are not to be written to.
-/

namespace SmtScript.Solver

open Host (FileSystem)

def System.host : System where
  executable? := fun files called => (files.executable? called.toList).map String.ofList
  temporaries := FileSystem.temporaries
  admits := fun files path =>
    match files.entry? path with
    | some (.program _) => false
    | _ => true
  takes? := fun _ _ bytes => some bytes.length
  flushes := fun _ _ => true
  start? := FileSystem.start?

namespace Executable

def find (config : Config) (files : FileSystem) : Except RunnerError Executable :=
  System.host.find config files

def runner (e : Executable) : Runner :=
  System.host.runner e

end Executable

namespace Runner

def runScript (r : Runner) (script : String) (files : FileSystem) : Report :=
  System.host.runScript r script files

def runStack (r : Runner) (stack : Stack) (g : Graph) (files : FileSystem) : Report :=
  System.host.runStack r stack g files

/-- Is the path that of a temporary file of the runner? What stands before the tag and what
stands after it may overlap. -/
def isTemporary (r : Runner) (path : String) : Bool :=
  Path.isAbsolute path.toList
    && FileSystem.temporaryDirectory.isPrefixOf (Path.parts path.toList)
    && (Path.fileName? path.toList).any fun name =>
      r.temporaryStem.isPrefixOf name && r.suffix.toList.isSuffixOf name

end Runner

end SmtScript.Solver
