import SmtScript.Host.Shell.Option

/-!
# The working directory

A shell remembers by which path it came to its directory. A way back along that path is not the
way that the links on it would lead.
-/

namespace SmtScript.Host.Shell

/-- The path of a location, from the root. -/
def directoryText (loc : Location) : Raw :=
  let text := FileSystem.Location.text loc
  if text.isEmpty then ['/'] else text

/-- The path of a directory that can be reached from the root. -/
def directory? (loc : Location) : Option Raw :=
  if loc.any fun name => name.head? = some FileSystem.buriedMark then none
  else some (directoryText loc)

/-- The path of the working directory, or nothing with a message. -/
def physicalDirectory : Act Raw := do
  match directory? (← get).working with
  | some path => return path
  | none =>
      warn "getcwd() failed: No such file or directory".toList
      return []

/-- The path to a directory from another one, without dots. -/
def pathFrom (directory path : Raw) : Raw :=
  let start := if Path.isAbsolute path then [] else Path.parts directory
  let parts := (Path.parts path).foldl
    (fun parts part => if part = ['.', '.'] then parts.dropLast else parts ++ [part]) start
  let root := match path with
    | '/' :: '/' :: c :: _ => if c = '/' then ['/'] else ['/', '/']
    | ['/', '/'] => ['/', '/']
    | _ => ['/']
  root ++ ['/'].intercalate parts

/-- Goes to a directory. Says whether that was possible. -/
def enter (physical : Bool) (path : Raw) : Act Bool := do
  let m ← get
  let logical := pathFrom m.directory path
  let target := if physical then path else logical
  match (m.here.locate? target).filter m.files.isDirectoryAt with
  | none => return false
  | some loc =>
      let stale := m.found.map fun (name, path, _) => (name, path, true)
      let m := m.adjustSelf fun p => { p with working := loc }
      set { m with found := stale }
      let directory ← if physical then physicalDirectory else pure logical
      modify fun m => { m with directory := directory }
      assignExported "OLDPWD".toList m.directory
      assignExported "PWD".toList directory
      return true

/-- Goes to the first of some directories that there is. Says whether its path is to be told. -/
def enterFirst (physical : Bool) (path : Raw) : List Raw → Act (Option Bool)
  | [] => return none
  | place :: others => do
      let whole := if place.isEmpty then path else place ++ '/' :: path
      let m ← get
      if (m.here.entry? whole) = some .directory then
        return if ← enter physical whole then some (!place.isEmpty) else none
      else enterFirst physical path others

/-- Does the path start from the root or from a directory on the way to the working one? -/
def isFixed (path : Raw) : Bool :=
  match Path.split path with
  | first :: _ => first = [] || first = ['.'] || first = ['.', '.']
  | [] => true

def changeDirectory (args : List Raw) : Act Nat := do
  let (given, args) ← options "LP" args
  let physical := (given.getLast?.map Prod.fst) == some 'P'
  let m ← get
  let (path, tells) := match args with
    | ['-'] :: _ => ((m.value? "OLDPWD").getD [], true)
    | path :: _ => (path, false)
    | [] => ((m.value? "HOME").getD [], false)
  let done? ← do
    let direct := if path.isEmpty then ['.'] else path
    if isFixed path && !path.isEmpty then
      pure (if ← enter physical direct then some false else none)
    else
      match ← enterFirst physical direct (Raw.split ':' ((m.value? "CDPATH").getD [])) with
      | some tells => pure (some tells)
      | none => pure (if ← enter physical direct then some false else none)
  match done? with
  | none => failWith ("can\x27t cd to ".toList ++ if path.isEmpty then ['.'] else path)
  | some other =>
      if tells || other then
        let _ ← emit 1 ((← get).directory ++ ['\n'])
      return 0

/-- Writes the path of the working directory. -/
def showDirectory (args : List Raw) : Act Nat := do
  let (given, _) ← options "LP" args
  let m ← get
  let physical := (given.getLast?.map Prod.fst) == some 'P'
  let path ← if physical then physicalDirectory else pure m.directory
  let _ ← emit 1 (path ++ ['\n'])
  return 0

end SmtScript.Host.Shell
