import SmtScript.Host.Raw
import SmtScript.Number.Decimal
import SmtScript.Path

/-!
# Files of a host

A host has a tree of directories with files, devices, links and installed programs in it, and a
working directory from which relative paths start. What a file holds is kept apart from its names:
a file can have several, and keeps its content when one is taken away. A path is followed part by
part; each part but the last has to be a directory or lead to one, and so has the last where a
slash follows it.
-/

namespace SmtScript.Host

open Utf8 (Bytes)

/-- The names on the way from the root. -/
abbrev Location := List Raw

inductive Device where
  /-- Takes everything and holds nothing. -/
  | null
  /-- Takes nothing. -/
  | full
  /-- Takes everything and holds zeros without end. -/
  | zero
  /-- A stream of whoever opens it. -/
  | stream (number : Nat)
deriving DecidableEq

inductive Entry where
  | directory
  /-- A file by the number of what it holds. -/
  | file (node : Nat)
  /-- A pipe with a name. -/
  | fifo (number : Nat)
  /-- Leads to another path. -/
  | link (target : Raw)
  | device (device : Device)
  /-- A program that is not a script, by its name. -/
  | program (name : String)
deriving DecidableEq

/-- What a file holds. -/
structure Node where
  content : ByteArray
  /-- Who may read, write and run the file. -/
  mode : Nat
  /-- When the content changed last. -/
  changed : Nat

/-- What is known about a directory or a pipe besides. -/
structure Trait where
  mode : Nat
  /-- When it changed last. -/
  changed : Nat

structure FileSystem where
  entries : List (Location × Entry)
  nodes : List (Nat × Node)
  /-- The traits of directories and pipes that are not the usual ones. -/
  traits : List (Location × Trait)
  /-- The number of the next file or pipe. -/
  next : Nat
  working : Location
  /-- The places that directories left and have got instead. -/
  moves : List (Location × Location)
  /-- Nanoseconds since the start. -/
  now : Nat
  /-- The files that somebody outside has open for writing. -/
  busy : List Nat

/-- Why a path leads nowhere. -/
inductive Fault where
  | missing
  | notDirectory
  | tooLong
  /-- Links lead to each other. -/
  | circular
deriving DecidableEq

def Fault.text : Fault → Raw
  | .missing => "No such file or directory".toList
  | .notDirectory => "Not a directory".toList
  | .tooLong => "File name too long".toList
  | .circular => "Too many levels of symbolic links".toList

namespace FileSystem

/-! ## Locations -/

/-- The root is always there. -/
def at? (fs : FileSystem) (loc : Location) : Option Entry :=
  if loc.isEmpty then some .directory else fs.entries.lookup loc

def isDirectoryAt (fs : FileSystem) (loc : Location) : Bool :=
  fs.at? loc == some .directory

/-- How often the time of a change is looked up. -/
def timeStep : Nat := 4000000

/-- The time that a change gets. -/
def stamp (fs : FileSystem) : Nat :=
  fs.now / timeStep * timeStep

/-- The permissions of a file that can be run, and of a directory. -/
def runnableMode : Nat := 0o755

/-- The permissions that a new file usually gets. -/
def standardMode : Nat := 0o644

/-- The permissions that a temporary file gets. -/
def privateMode : Nat := 0o600

def traitAt (fs : FileSystem) (loc : Location) : Trait :=
  (fs.traits.lookup loc).getD ⟨runnableMode, 0⟩

def putTrait (fs : FileSystem) (loc : Location) (t : Trait) : FileSystem :=
  { fs with traits := (loc, t) :: fs.traits.filter fun other => other.1 ≠ loc }

/-- Says that the directory of a location has changed. -/
def touched (fs : FileSystem) (loc : Location) : FileSystem :=
  fs.putTrait loc.dropLast { fs.traitAt loc.dropLast with changed := fs.stamp }

def putAt (fs : FileSystem) (loc : Location) (e : Entry) : FileSystem :=
  let isNew := (fs.at? loc).isNone
  let fs := { fs with entries := (loc, e) :: fs.entries.filter fun entry => entry.1 ≠ loc }
  let fs := if isNew then fs.touched loc else fs
  match e with
  | .directory => if isNew then fs.putTrait loc ⟨runnableMode, fs.stamp⟩ else fs
  | .fifo _ => if isNew then fs.putTrait loc ⟨standardMode, fs.stamp⟩ else fs
  | _ => fs

def eraseAt (fs : FileSystem) (loc : Location) : FileSystem :=
  let fs : FileSystem :=
    { fs with
      entries := fs.entries.filter fun entry => entry.1 ≠ loc
      traits := fs.traits.filter fun other => other.1 ≠ loc }
  fs.touched loc

/-- The most bytes of a name. -/
def nameLimit : Nat := 255

/-- The most bytes of a path that leads anywhere. -/
def pathLimit : Nat := 4095

/-- The most links on the way to a file. -/
def linkLimit : Nat := 40

/-- More steps than any path has with its links. -/
def stepLimit : Nat := linkLimit * (pathLimit + 1) + pathLimit + 2

/-- Names that begin so are those of directories that were removed. No path names them, but
somebody may work in them. -/
def buriedMark : Char := '\x00'

/-- Was the directory removed? -/
def isBuried (loc : Location) : Bool :=
  (loc.getLastD []).head? = some buriedMark

/-- Follows the parts of a path. The last need not exist, unless it is in a directory that was
removed; it is followed if it is a link and `last` says so. -/
def walk (fs : FileSystem) (last : Bool) (links steps : Nat) (loc : Location) (parts : List Raw) :
    Except Fault Location :=
  match steps with
  | 0 => .error .circular
  | steps + 1 =>
      match parts with
      | [] => .ok loc
      | part :: rest =>
          match fs.at? loc with
          | some .directory =>
              if part = [] ∨ part = ['.'] then fs.walk last links steps loc rest
              else if part = ['.', '.'] then fs.walk last links steps loc.dropLast rest
              else if nameLimit < part.length then .error .tooLong
              else if isBuried loc then .error .missing
              else
                match fs.at? (loc ++ [part]) with
                | some (.link target) =>
                    if rest.isEmpty && !last then .ok (loc ++ [part])
                    else if links = 0 then .error .circular
                    else
                      let start := if Path.isAbsolute target then [] else loc
                      fs.walk last (links - 1) steps start (Path.split target ++ rest)
                | _ => fs.walk last links steps (loc ++ [part]) rest
          | none => .error .missing
          | some _ => .error .notDirectory

/-- Where a path starts. -/
def start (fs : FileSystem) (path : Raw) : Location :=
  if Path.isAbsolute path then [] else fs.working

/-- The location that a path leads to. The empty path leads nowhere, nor does one that is too
long or has a zero byte in it. -/
def resolve (fs : FileSystem) (last : Bool) (path : Raw) : Except Fault Location :=
  if path = [] ∨ path.contains '\x00' then .error .missing
  else if pathLimit < path.length then .error .tooLong
  else fs.walk last linkLimit stepLimit (fs.start path) (Path.split path)

def locate? (fs : FileSystem) (path : Raw) : Option Location :=
  (fs.resolve true path).toOption

/-- The location of the last part itself, even if it is a link. -/
def place? (fs : FileSystem) (path : Raw) : Option Location :=
  (fs.resolve false path).toOption

/-! ## Questions -/

def entry? (fs : FileSystem) (path : Raw) : Option Entry :=
  (fs.locate? path).bind fs.at?

/-- What is at a path, even if it is a link. -/
def entryItself? (fs : FileSystem) (path : Raw) : Option Entry :=
  (fs.place? path).bind fs.at?

def exists? (fs : FileSystem) (path : Raw) : Bool :=
  (fs.entry? path).isSome

/-- Devices and directories are no files. -/
def isFile (fs : FileSystem) (path : Raw) : Bool :=
  match fs.entry? path with
  | some (.file _) | some (.program _) => true
  | _ => false

def node? (fs : FileSystem) (number : Nat) : Option Node :=
  fs.nodes.lookup number

/-- Has anybody the right to run a file with these permissions? -/
def isRunnable (mode : Nat) : Bool :=
  mode % 2 = 1 || mode / 8 % 2 = 1 || mode / 64 % 2 = 1

def isExecutable (fs : FileSystem) (path : Raw) : Bool :=
  match fs.entry? path with
  | some (.file number) => (fs.node? number).any fun node => isRunnable node.mode
  | some (.program _) => true
  | _ => false

/-- The most bytes that are ever read at once of what has no end. -/
def endlessLimit : Nat := 1048576

/-- The content of a file by its number. -/
def content? (fs : FileSystem) (number : Nat) : Option Bytes :=
  (fs.node? number).map fun node => node.content.data.toList

def read? (fs : FileSystem) (path : Raw) : Option Bytes :=
  match fs.entry? path with
  | some (.file number) => fs.content? number
  | some (.device .zero) | some (.device .full) => some (List.replicate endlessLimit 0)
  | some (.device _) => some []
  | _ => none

/-- The content of a file that holds text. -/
def readText? (fs : FileSystem) (path : Raw) : Option String :=
  match fs.read? path with
  | some content =>
      let text := Utf8.toString content
      if Utf8.ofString text = content then some text else none
  | none => none

/-- The names in a directory. -/
def names (fs : FileSystem) (loc : Location) : List Raw :=
  (fs.entries.filter fun entry =>
    entry.1 ≠ [] && entry.1.dropLast == loc && !isBuried entry.1).map
    fun entry => entry.1.getLastD []

/-- The permissions of what is at a location. -/
def modeAt (fs : FileSystem) (loc : Location) : Nat :=
  match fs.at? loc with
  | some (.file number) => ((fs.node? number).map Node.mode).getD 0
  | some (.link _) => 0o777
  | some (.device _) => 0o666
  | some (.program _) => runnableMode
  | some .directory | some (.fifo _) | none => (fs.traitAt loc).mode

/-- When what is at a location changed last. -/
def changedAt (fs : FileSystem) (loc : Location) : Nat :=
  match fs.at? loc with
  | some (.file number) => ((fs.node? number).map Node.changed).getD 0
  | some .directory | some (.fifo _) => (fs.traitAt loc).changed
  | _ => 0

/-! ## Changes -/

/-- Gives what is at a location other permissions. -/
def withModeAt (fs : FileSystem) (loc : Location) (mode : Nat) : FileSystem :=
  match fs.at? loc with
  | some (.file number) =>
      { fs with nodes := fs.nodes.map fun n =>
        if n.1 = number then (number, { n.2 with mode := mode }) else n }
  | some .directory | some (.fifo _) => fs.putTrait loc { fs.traitAt loc with mode := mode }
  | _ => fs

/-- Says when what is at a location changed last. -/
def withTimeAt (fs : FileSystem) (loc : Location) (time : Nat) : FileSystem :=
  match fs.at? loc with
  | some (.file number) =>
      { fs with nodes := fs.nodes.map fun n =>
        if n.1 = number then (number, { n.2 with changed := time }) else n }
  | some .directory | some (.fifo _) => fs.putTrait loc { fs.traitAt loc with changed := time }
  | _ => fs

def putNode (fs : FileSystem) (number : Nat) (node : Node) : FileSystem :=
  { fs with nodes := (number, node) :: fs.nodes.filter fun entry => entry.1 ≠ number }

/-- Gives a file a new content. -/
def store (fs : FileSystem) (number : Nat) (content : ByteArray) : FileSystem :=
  let mode := ((fs.node? number).map Node.mode).getD 0
  fs.putNode number ⟨content, mode, fs.stamp⟩

/-- Makes a new file. -/
def create (fs : FileSystem) (loc : Location) (mode : Nat) (content : ByteArray) : FileSystem :=
  { (fs.putAt loc (.file fs.next)).putNode fs.next ⟨content, mode, fs.stamp⟩ with
    next := fs.next + 1 }

/-- Puts bytes behind what a file holds. -/
def append (fs : FileSystem) (number : Nat) (bytes : Bytes) : FileSystem :=
  fs.store number ⟨((fs.content? number).getD [] ++ bytes).toArray⟩

/-- What is open for writing. -/
inductive Target where
  | file (number : Nat)
  | device (device : Device)
deriving DecidableEq

/-- Opens what a path leads to for writing, with nothing in it. A file is made where there is none,
and what was a program is a file like any other. A pipe is not open before somebody reads from it,
which nobody does. -/
def open? (fs : FileSystem) (path : Raw) (mode : Nat) : Option (Target × FileSystem) :=
  match fs.locate? path with
  | none => none
  | some loc =>
      match fs.at? loc with
      | none => some (.file fs.next, fs.create loc mode ⟨#[]⟩)
      | some (.program _) => some (.file fs.next, fs.create loc runnableMode ⟨#[]⟩)
      | some (.file number) => some (.file number, fs.store number ⟨#[]⟩)
      | some (.device device) => some (.device device, fs)
      | some .directory | some (.link _) | some (.fifo _) => none

/-- Makes the directories on the way that are missing. What was made before a failure stays. -/
def makeAll (fs : FileSystem) (loc : Location) : List Raw → Bool × FileSystem
  | [] => (fs.isDirectoryAt loc, fs)
  | part :: rest =>
      if !fs.isDirectoryAt loc then (false, fs)
      else if part = ['.', '.'] then fs.makeAll loc.dropLast rest
      else if nameLimit < part.length then (false, fs)
      else
        match fs.at? (loc ++ [part]) with
        | none => (fs.putAt (loc ++ [part]) .directory).makeAll (loc ++ [part]) rest
        | some _ =>
            match fs.walk true linkLimit stepLimit loc [part] with
            | .ok next => fs.makeAll next rest
            | .error _ => (false, fs)

/-- Makes the directory that a path lies in, unless it is where the path starts. -/
def makeParent (fs : FileSystem) (path : Raw) : Bool × FileSystem :=
  match Path.parentParts? path with
  | none | some [] => (true, fs)
  | some parts =>
      let parent := Path.parent path
      if parent.contains '\x00' || pathLimit < parent.length then (false, fs)
      else fs.makeAll (fs.start path) parts

/-- Takes away what is at a path, but no directory. -/
def erase (fs : FileSystem) (path : Raw) : FileSystem :=
  match fs.place? path with
  | none => fs
  | some loc => if fs.isDirectoryAt loc then fs else fs.eraseAt loc

/-- Erases what is at a location, and all below it. The directories stay for those who work in
them. -/
def eraseAllAt (fs : FileSystem) (loc : Location) : FileSystem :=
  let (old, others) := fs.entries.partition fun entry => loc.isPrefixOf entry.1
  let grave := loc.dropLast ++ [buriedMark :: Nat.toDigits 10 fs.next]
  let buried (place : Location) : Location :=
    grave ++ (place.drop loc.length).map fun name =>
      if name.head? = some buriedMark then name else buriedMark :: name
  let directories := (old.filter fun entry => entry.2 = .directory).map Prod.fst
  let fs : FileSystem :=
    { fs with
      entries := others ++ directories.map fun place => (buried place, .directory)
      traits := fs.traits.filter fun other => !loc.isPrefixOf other.1
      moves := directories.map (fun place => (place, buried place)) ++ fs.moves
      next := fs.next + 1 }
  fs.touched loc

/-- Gives what is at a location, and all below it, another place. -/
def moveAll (fs : FileSystem) (source target : Location) : FileSystem :=
  let (old, others) := fs.entries.partition fun entry => source.isPrefixOf entry.1
  let moved (place : Location) : Location := target ++ place.drop source.length
  let directories := (old.filter fun entry => entry.2 = .directory).map Prod.fst
  let traits := fs.traits.filter fun other => !target.isPrefixOf other.1
  let fs : FileSystem :=
    { fs with
      entries := old.map (fun entry => (moved entry.1, entry.2)) ++ others
      traits := traits.map fun other =>
        if source.isPrefixOf other.1 then (moved other.1, other.2) else other
      moves := directories.map (fun place => (place, moved place)) ++ fs.moves }
  (fs.touched source).touched target

/-- Where a directory is that was somewhere before. -/
def placeNow (fs : FileSystem) (loc : Location) : Location :=
  fs.moves.foldr (fun move loc => if move.1 = loc then move.2 else loc) loc

/-- Forgets the moves, and the directories that were removed and in which nobody works. -/
def settled (fs : FileSystem) (used : List Location) : FileSystem :=
  if fs.moves.isEmpty then fs
  else
    let isKept (loc : Location) : Bool :=
      !loc.any (fun name => name.head? = some buriedMark) || used.any (loc.isPrefixOf ·)
    { fs with entries := fs.entries.filter fun entry => isKept entry.1, moves := [] }

/-- Makes a directory and those on the way to it. -/
def makeDirectory (fs : FileSystem) (path : Raw) : FileSystem :=
  (fs.makeAll (fs.start path) (Path.parts path)).2

/-- Makes a file, and the directories on the way to it. -/
def makeFile (fs : FileSystem) (path : Raw) (content : Bytes) (executable : Bool) : FileSystem :=
  let (_, fs) := fs.makeParent path
  let mode := if executable then runnableMode else standardMode
  match fs.locate? path with
  | some loc =>
      match fs.at? loc with
      | some (.file number) => fs.putNode number ⟨⟨content.toArray⟩, mode, fs.stamp⟩
      | none => fs.create loc mode ⟨content.toArray⟩
      | some _ => fs
  | none => fs

/-- Says that the file at a path is open for writing somewhere. -/
def holding (fs : FileSystem) (path : Raw) : FileSystem :=
  match fs.entry? path with
  | some (.file number) => { fs with busy := number :: fs.busy }
  | _ => fs

/-- Says that only so many files are open for writing elsewhere. -/
def withBusy (fs : FileSystem) (busy : List Nat) : FileSystem :=
  { fs with busy := busy }

/-! ## Temporary files -/

def temporaryDirectory : Location :=
  ["tmp".toList]

/-- The text of a location, from the root. -/
def Location.text (loc : Location) : Raw :=
  loc.flatMap ('/' :: ·)

/-- Six characters that tell temporary files of one name apart. -/
def tag (n : Nat) : Raw :=
  Decimal.padded 6 n

/-- How many tags are tried. -/
def tagLimit : Nat := 65536

/-- A path at which there is nothing yet, not even a link, named with a tag between the two texts. -/
def freshPath? (fs : FileSystem) (before after : List Char) : Option (List Char) :=
  ((List.range (min tagLimit (fs.entries.length + 1))).map fun n =>
    Location.text temporaryDirectory ++ '/' :: (before ++ tag n ++ after)).find?
      fun path => (fs.entryItself? (Raw.ofText path)).isNone

end FileSystem

/-- Where temporary files are made, and how they are named. -/
structure Temporaries where
  directory : List Char
  /-- The path of a new file, whose name has a tag between the two texts. -/
  freshPath? : FileSystem → List Char → List Char → Option (List Char)

/-- What tells temporary files of one name apart. -/
def IsTag (tag : List Char) : Prop :=
  tag.length = 6 ∧ ∀ c ∈ tag, c.isAlphanum = true

/-- What is known of a path for a new file. -/
structure Temporaries.Laws (t : Temporaries) : Prop where
  /-- It is in the directory, and its name is the two texts with a tag between them. -/
  named : ∀ {files before after path}, t.freshPath? files before after = some path →
    ∃ tag, IsTag tag ∧ path = t.directory ++ '/' :: (before ++ tag ++ after)
  /-- There is nothing at it yet, not even a link. -/
  missing : ∀ {files before after path}, t.freshPath? files before after = some path →
    files.entryItself? (Raw.ofText path) = none

/-- The first tag that makes a new path is taken. -/
def FileSystem.temporaries : Temporaries where
  directory := Location.text temporaryDirectory
  freshPath? := freshPath?

end SmtScript.Host
