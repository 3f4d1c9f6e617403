import SmtScript.Host.Utility

/-!
# Programs of a host

A program is named by a path, or by a name alone, which is looked up in the directories of the
search path. A script says in its first line which program reads it.
-/

namespace SmtScript.Host

open Utf8 (Bytes)

namespace FileSystem

def searchPath : List Raw :=
  ["/usr/local/bin".toList, "/usr/bin".toList, "/bin".toList]

/-- Where a program may be. -/
def candidates (directories : List Raw) (program : Raw) : List Raw :=
  if program.contains '/' then [program]
  else directories.map fun dir => if dir.isEmpty then program else dir ++ '/' :: program

def findProgram? (fs : FileSystem) (directories : List Raw) (program : Raw) : Option Raw :=
  (candidates directories program).find? fs.isExecutable

/-- The path of an executable that is called by its name or by a path. A path of several parts starts
from the working directory, and then only those count that say something. -/
def executable? (fs : FileSystem) (called : List Char) : Option (List Char) :=
  let isExecutable (path : List Char) : Bool := fs.isExecutable (Raw.ofText path)
  if Path.isCompound called then
    let path := if Path.isAbsolute called then called
      else Location.text (fs.working ++ Path.parts called)
    if isExecutable path then some path else none
  else (searchPath.map fun dir => dir ++ '/' :: called).find? isExecutable

end FileSystem

/-- So many bytes of a script are looked at for the program that reads it. -/
def headLimit : Nat := 256

def isLineBlank (c : Char) : Bool :=
  c == ' ' || c == '\t'

/-- The program at the front of a line, and what follows the blanks behind it if there are any. -/
def programAndArgument (line : Raw) : Raw × Option Raw :=
  let line := line.dropWhile isLineBlank
  let program := line.takeWhile fun c => !isLineBlank c && c ≠ '\x00'
  let after := line.drop program.length
  (program, if after.head?.any isLineBlank then
    some ((after.dropWhile isLineBlank).takeWhile (· ≠ '\x00')) else none)

/-- The program that the first line of a script names, with at most one argument. Where the line is
not over within the first bytes, it may lose some of the argument, but not of the program. -/
def interpreter? (content : Bytes) : Option (Raw × Option Raw) :=
  let head := Raw.ofBytes (content.take headLimit)
  match head with
  | '#' :: '!' :: rest =>
      let line := rest.takeWhile (· ≠ '\n')
      let found :=
        if line.length < rest.length then
          let (program, arg?) := programAndArgument (line.reverse.dropWhile isLineBlank).reverse
          (program, arg?.filter (· ≠ []))
        else if head.length < headLimit then programAndArgument line
        else
          let whole := (line.dropWhile isLineBlank).any fun c => isLineBlank c || c = '\x00'
          if whole then programAndArgument line.dropLast else ([], none)
      if found.1.isEmpty then none else some found
  | _ => none

/-- The programs that are installed: a shell, some that run others, some that write as they read,
and the utilities. -/
def installedPrograms : List String :=
  ["sh", "dash", "env", "timeout", "nohup", "nice", "tee"]
    ++ Utility.installed.map Prod.fst

/-- Nanoseconds from 1970 to the start. -/
def startTime : Nat := 1780000000000000000

/-- A host with the usual directories, the utilities, a shell, and an empty working directory. -/
def FileSystem.standard : FileSystem :=
  let directories := [["tmp"], ["dev"], ["dev", "fd"], ["usr"], ["usr", "bin"], ["usr", "local"],
    ["usr", "local", "bin"], ["root"], ["etc"], ["tmp", "work"]]
  let programs := installedPrograms.map fun name => (["usr", "bin", name], Entry.program name)
  let devices := [("null", Device.null), ("full", .full), ("zero", .zero), ("random", .zero),
    ("urandom", .zero), ("stdin", .stream 0), ("stdout", .stream 1), ("stderr", .stream 2)]
  let streams := (List.range 10).map fun n =>
    (["dev", "fd", Nat.repr n], Entry.device (.stream n))
  let entries := directories.map (·, Entry.directory) ++ programs
    ++ devices.map (fun (name, device) => (["dev", name], Entry.device device)) ++ streams
    ++ [(["bin"], .link "usr/bin".toList)]
  { entries := entries.map fun (loc, e) => (loc.map String.toList, e)
    nodes := []
    traits := [(["tmp".toList], ⟨0o1777, 0⟩), (["root".toList], ⟨0o700, 0⟩)]
    next := 0
    working := ["tmp".toList, "work".toList]
    moves := []
    now := startTime
    busy := [] }

end SmtScript.Host
