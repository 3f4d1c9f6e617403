import SmtScript.Host.Utility.Effect

/-!
# Names of files

A path has a last part, and a part before that. Trailing slashes belong to neither.
-/

namespace SmtScript.Host.Utility

/-- The last part of a path. -/
def lastPart (path : Raw) : Raw :=
  match (Path.split path).filter (· ≠ []) with
  | [] => if path.isEmpty then [] else ['/']
  | parts => parts.getLastD []

def withoutEnding (ending name : Raw) : Raw :=
  if ending ≠ name && ending.isSuffixOf name then name.take (name.length - ending.length) else name

def basename (c : Call) : Effect :=
  let options := known "as:z" "multiple=a suffix=s zero=z"
  withFrontOptions c 1 options fun o =>
    let ending := if o.has 'z' then ['\x00'] else ['\n']
    match o.operands, o.has 'a' || o.has 's' with
    | [], _ => misused c 1 "missing operand".toList
    | paths, true =>
        .saying c (paths.flatMap fun path =>
          withoutEnding ((o.value? 's').getD []) (lastPart path) ++ ending)
    | [path], false => .saying c (lastPart path ++ ending)
    | [path, tail], false => .saying c (withoutEnding tail (lastPart path) ++ ending)
    | _ :: _ :: extra :: _, false =>
        misused c 1 ("extra operand ".toList ++ Citation.escaped extra)

def withoutSlashes (path : Raw) : Raw :=
  (path.reverse.dropWhile (· = '/')).reverse

/-- A path without its last part. -/
def directoryPart (path : Raw) : Raw :=
  let before := ((withoutSlashes path).reverse.dropWhile (· ≠ '/')).reverse
  if !(withoutSlashes before).isEmpty then withoutSlashes before
  else if path.head? == some '/' then ['/'] else ['.']

def dirname (c : Call) : Effect :=
  withOptions c 1 (known "z" "zero=z") fun o =>
    let ending := if o.has 'z' then ['\x00'] else ['\n']
    if o.operands.isEmpty then misused c 1 "missing operand".toList
    else .saying c (o.operands.flatMap fun path => directoryPart path ++ ending)

/-- Is the last part of a path a dot or two? -/
def isDots (path : Raw) : Bool :=
  lastPart path == ['.'] || lastPart path == ['.', '.']

/-! ## What names stand for -/

/-- The size of what is at a location. -/
def sizeAt (files : FileSystem) (loc : Location) : Nat :=
  match files.at? loc with
  | some (.file number) => ((files.node? number).map fun node => node.content.size).getD 0
  | some .directory => 4096
  | _ => 0

/-- What is at a location, in words. -/
def kindName (files : FileSystem) (loc : Location) : String :=
  match files.at? loc with
  | some .directory => "directory"
  | some (.link _) => "symbolic link"
  | some (.fifo _) => "fifo"
  | some (.device _) => "character special file"
  | _ => if sizeAt files loc = 0 then "regular empty file" else "regular file"

/-- The names in a directory, in order. -/
def namesIn (files : FileSystem) (loc : Location) : List Raw :=
  (files.names loc).mergeSort Raw.isBefore

/-! ## One after the other -/

/-- Does something with each path, one after the other. -/
def forEachPath (c : Call) (paths : List Raw) (step : Effect → Raw → Effect) : Effect :=
  paths.foldl step (Effect.quiet c 0)

/-- The failure of an action on a path. -/
def cannot (e : Effect) (c : Call) (action path reason : Raw) : Effect :=
  e.complain c 1 ("cannot ".toList ++ action ++ [' '] ++ Citation.forShell path ++ ": ".toList ++ reason)

end SmtScript.Host.Utility
