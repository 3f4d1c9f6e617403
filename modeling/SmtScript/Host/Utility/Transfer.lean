import SmtScript.Host.Mode
import SmtScript.Host.Utility.Question

/-!
# Copies

`cp` copies files and directories, and `mv` moves them. A directory as the target stands for a
place in it. A file never takes the place of a directory, nor a directory that of a file.
-/

namespace SmtScript.Host.Utility

/-- How files are copied or moved. -/
structure Transfer where
  /-- Are directories copied with all that is in them? -/
  deep : Bool
  verbose : Bool
  /-- Is what is there kept? -/
  keeps : Bool
  /-- Is it kept unless what takes its place is newer? -/
  updates : Bool
  /-- Do copies keep the time? -/
  preserves : Bool
  /-- Is a copy another name of the file, or a link to it? -/
  links : Option Bool
  /-- Does it take an agreement to replace what is there? -/
  asks : Bool
  /-- Is what is there moved aside? -/
  backs : Bool
  /-- Is the target never a directory to put things in? -/
  exact : Bool

/-- The path of a copy: inside the target where that is a directory. -/
def Transfer.path (t : Transfer) (files : FileSystem) (source target : Raw) : Raw :=
  if !t.exact && files.entry? target = some .directory then
    withoutSlashes target ++ '/' :: lastPart source
  else target

/-- All that is at a location or below it, with the directories before what is in them. -/
def below (files : FileSystem) (loc : Location) : List (Location × Entry) :=
  (files.entries.filter fun entry => loc.isPrefixOf entry.1).mergeSort fun a b =>
    Raw.isBefore (FileSystem.Location.text a.1) (FileSystem.Location.text b.1)

/-- What is said about something that is moved aside. -/
def asideNote (t : Transfer) (files : FileSystem) (place : Location) (path : Raw) : Raw :=
  if t.backs && (files.at? place matches some (.file _)) then
    " (backup: ".toList ++ Citation.forShell (path ++ ['~']) ++ [')']
  else []

/-- Moves what is at a location aside. -/
def backedUp (files : FileSystem) (place : Location) : FileSystem :=
  match files.at? place with
  | some (.file number) =>
      (files.eraseAt place).putAt (place.dropLast ++ [place.getLastD [] ++ ['~']]) (.file number)
  | _ => files

/-- Why something cannot take the place of what is there. -/
def conflict? (files : FileSystem) (source target : Raw) (entry : Entry) (place : Location) :
    Option Raw :=
  match entry, files.at? place with
  | .directory, some .directory | _, none => none
  | .directory, some _ =>
      some ("cannot overwrite non-directory ".toList ++ Citation.forShell target
        ++ " with directory ".toList ++ Citation.forShell source)
  | _, some .directory =>
      some ("cannot overwrite directory ".toList ++ Citation.forShell target
        ++ " with non-directory".toList)
  | _, _ => none

/-- Puts a copy of a file in its place. One that is there keeps its permissions. -/
def Transfer.putCopy (t : Transfer) (c : Call) (files : FileSystem) (place : Location)
    (entry : Entry) : FileSystem :=
  let fill (node : Node) : FileSystem :=
    let time := if t.preserves then node.changed else files.stamp
    match files.at? place with
    | some (.file number) =>
        let mode := ((files.node? number).map Node.mode).getD 0
        files.putNode number ⟨node.content, mode, time⟩
    | some (.device _) => files
    | _ =>
        let mode := if t.preserves then node.mode else Mode.masked c.mask node.mode
        (files.create place mode node.content).putNode files.next ⟨node.content, mode, time⟩
  match entry with
  | .file number =>
      if t.links = some false then files.putAt place entry
      else
        match files.node? number with
        | some node => fill node
        | none => files
  | .device _ => fill ⟨ByteArray.empty, FileSystem.standardMode, files.stamp⟩
  | .directory => if files.isDirectoryAt place then files else files.putAt place entry
  | .fifo number =>
      if t.deep then files.putAt place entry
      else
        let content : ByteArray := ⟨(Raw.toBytes ((c.piped.lookup number).getD [])).toArray⟩
        fill ⟨content, FileSystem.standardMode, files.stamp⟩
  | entry => files.putAt place entry

/-- Is what is there left as it is, without a question? -/
def Transfer.leaves (t : Transfer) (files : FileSystem) (source place : Location) : Bool :=
  (files.at? place).isSome
    && (t.keeps || t.updates && files.changedAt source ≤ files.changedAt place)

/-- Asks whether what is there may be replaced, if that is wanted. -/
def Transfer.agreed (t : Transfer) (c : Call) (d : Dialog) (place : Location) (path : Raw) :
    Bool × Dialog :=
  if t.asks && (d.effect.files.at? place).isSome then
    d.ask c ("overwrite ".toList ++ Citation.forShell path)
  else (true, d)

/-- Are two locations names of one file? -/
def isSame (files : FileSystem) (a b : Location) : Bool :=
  a == b || match files.at? a, files.at? b with
    | some (.file m), some (.file n) => m == n
    | _, _ => false

/-- Copies an entry, unless what is there stays. -/
def Transfer.copyEntry (t : Transfer) (c : Call) (d : Dialog) (source path : Raw) (loc place : Location)
    (entry : Entry) : Dialog :=
  if entry ≠ .directory && t.leaves d.effect.files loc place then d
  else
    match if entry = .directory then (true, d) else t.agreed c d place path with
    | (false, d) => d
    | (true, d) =>
        d.map fun e =>
          let note := asideNote t e.files place path
          let start := if t.backs then backedUp e.files place else e.files
          let e := { e with files := t.putCopy c start place entry }
          if t.verbose then
            e.say (Citation.forShell source ++ " -> ".toList ++ Citation.forShell path ++ note ++ ['\n'])
          else e

/-- Copies a file or, where it may, a directory. -/
def copyOne (c : Call) (t : Transfer) (d : Dialog) (source target : Raw) : Dialog :=
  let files := d.effect.files
  let path := t.path files source target
  match if t.deep then files.place? source else files.locate? source with
  | none => d.map fun e => cannot e c "stat".toList source (files.reason source)
  | some loc =>
      match files.at? loc, files.resolve true path with
      | none, _ => d.map fun e => cannot e c "stat".toList source (files.reason source)
      | some _, .error fault =>
          let action := if fault = .missing then "create regular file" else "stat"
          d.map fun e => cannot e c action.toList path fault.text
      | some entry, .ok place =>
          let refused (message : Raw) : Dialog := d.map fun e => e.complain c 1 message
          if entry = .directory && !t.deep then
            refused ("-r not specified; omitting directory ".toList ++ Citation.forShell source)
          else if isSame files loc place then
            refused (Citation.forShell source ++ " and ".toList ++ Citation.forShell path
              ++ " are the same file".toList)
          else if t.links = some true && !Path.isAbsolute source && path.contains '/' then
            refused (Citation.bare path
              ++ ": can make relative symbolic links only in current directory".toList)
          else
            match conflict? files source path entry place with
            | some message => refused message
            | none =>
                let entry := if t.links = some true then .link source else entry
                let copies := if entry ≠ .directory then [(loc, entry)] else below files loc
                let text (other : Location) : Raw :=
                  FileSystem.Location.text (other.drop loc.length)
                let d := copies.foldl
                  (fun d (other, entry) =>
                    t.copyEntry c d (source ++ text other) (path ++ text other) other
                      (place ++ other.drop loc.length) entry) d
                if entry = .directory && loc.isPrefixOf place then
                  d.map fun e => e.complain c 1 ("cannot copy a directory, ".toList
                    ++ Citation.forShell source ++ ", into itself, ".toList ++ Citation.forShell path)
                else d

/-- Moves what is at a path. -/
def moveOne (c : Call) (t : Transfer) (d : Dialog) (source target : Raw) : Dialog :=
  let files := d.effect.files
  let path := t.path files source target
  let refused (message : Raw) : Dialog := d.map fun e => e.complain c 1 message
  let notMoved (reason : Raw) : Dialog :=
    d.map fun e => cannot e c ("move ".toList ++ Citation.forShell source ++ " to".toList) path reason
  match files.place? source, files.entryItself? source with
  | some loc, some entry =>
      match files.resolve false path with
      | .error .missing => notMoved (files.reason path)
      | .error fault => d.map fun e => cannot e c "stat".toList path fault.text
      | .ok place =>
          let isFull := files.isDirectoryAt place && !(files.names place).isEmpty
          if isSame files loc place then
            refused (Citation.forShell source ++ " and ".toList ++ Citation.forShell path
              ++ " are the same file".toList)
          else if entry = .directory && loc.isPrefixOf place then
            refused ("cannot move ".toList ++ Citation.forShell source
              ++ " to a subdirectory of itself, ".toList ++ Citation.forShell path)
          else
            match conflict? files source path entry place with
            | some message => refused message
            | none =>
                if t.leaves files loc place then d
                else
                  match t.agreed c d place path with
                  | (false, d) => d
                  | (true, d) =>
                      if isFull then notMoved "Directory not empty".toList
                      else d.map fun e =>
                        let start := if t.backs then backedUp files place else files
                        let e := { e with files := (start.eraseAllAt place).moveAll loc place }
                        if t.verbose then
                          e.say ("renamed ".toList ++ Citation.forShell source ++ " -> ".toList
                            ++ Citation.forShell path ++ asideNote t files place path ++ ['\n'])
                        else e
  | _, _ => d.map fun e => cannot e c "stat".toList source (files.reason source)

/-- Copies or moves all operands to the last one, or to the directory that an option names. -/
def transfer (c : Call) (options : List Known)
    (one : Call → Transfer → Dialog → Raw → Raw → Dialog) : Effect :=
  withOptions c 1 options fun o =>
    let last := o.last? ['f', 'i', 'n']
    let t : Transfer :=
      { deep := o.hasAny "aRr", verbose := o.has 'v', keeps := last = some (.letter 'n')
        updates := o.has 'u', preserves := o.hasAny "ap"
        links := if o.has 's' then some true else if o.has 'l' then some false else none
        asks := last = some (.letter 'i'), backs := o.has 'b', exact := o.has 'T' }
    let refused (what : String) (target : Raw) : Effect :=
      let reason := if c.files.exists? target then Fault.notDirectory.text else c.files.reason target
      .failing c 1 (what.toList ++ Citation.forShell target ++ ": ".toList ++ reason)
    match o.value? 't', o.operands with
    | some target, paths =>
        if paths.isEmpty then misused c 1 "missing file operand".toList
        else if !c.isDirectory target then refused "target directory " target
        else Dialog.forEach c paths fun d source => one c t d source target
    | none, [] => misused c 1 "missing file operand".toList
    | none, [only] =>
        misused c 1 ("missing destination file operand after ".toList ++ Citation.forShell only)
    | none, paths =>
        let target := paths.getLastD []
        if 2 < paths.length && t.exact then
          misused c 1 ("extra operand ".toList ++ Citation.forShell (paths.getD 2 []))
        else if 2 < paths.length && !c.isDirectory target then refused "target " target
        else Dialog.forEach c paths.dropLast fun d source => one c t d source target

def cp (c : Call) : Effect :=
  let options := known "abdfHilLnprst:uvxPRS:TZ" <|
    "archive=a attributes-only backup:: copy-contents dereference=L force=f interactive=i"
    ++ " link=l no-clobber=n no-dereference=P no-preserve: no-target-directory=T"
    ++ " one-file-system=x parents path=parents preserve:: recursive=R remove-destination"
    ++ " sparse: reflink:: strip-trailing-slashes suffix=S symbolic-link=s target-directory=t"
    ++ " update=u verbose=v context::"
  transfer c options copyOne

def mv (c : Call) : Effect :=
  let options := known "bfint:uvS:TZ" <|
    "backup:: context=Z force=f interactive=i no-clobber=n no-target-directory=T"
    ++ " strip-trailing-slashes suffix=S target-directory=t update=u verbose=v"
  transfer c options moveOne

end SmtScript.Host.Utility
