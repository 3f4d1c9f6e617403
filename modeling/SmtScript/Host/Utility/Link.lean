import SmtScript.Host.Utility.Question

/-!
# Links

`ln` makes other names for files, or paths that lead to them. `readlink` shows where such a path
leads.
-/

namespace SmtScript.Host.Utility

/-- How links are made. -/
structure Linking where
  /-- Does a link hold a path? -/
  symbolic : Bool
  /-- Does the path start where the link is? -/
  relative : Bool
  verbose : Bool
  /-- Is what is there replaced? -/
  replaces : Bool
  asks : Bool
  /-- What is behind the name under which something is kept that is there. -/
  aside? : Option Raw
  /-- Is the target never a directory to put links in? -/
  exact : Bool
  /-- Is it none if a link leads to it? -/
  near : Bool

namespace Linking

def ofOptions (o : Options) : Linking :=
  { symbolic := o.has 's', relative := o.has 'r', verbose := o.has 'v'
    replaces := o.last? ['f', 'i'] = some (.letter 'f')
    asks := o.last? ['f', 'i'] = some (.letter 'i')
    aside? := if o.hasAny "bS" || o.has "backup" then some ((o.value? 'S').getD ['~']) else none
    exact := o.has 'T', near := o.has 'n' }

/-- The path that leads from a directory to a location. -/
def pathFrom (directory loc : Location) : Raw :=
  let common := (directory.zip loc).takeWhile fun (a, b) => a == b
  let up := (directory.drop common.length).map fun _ => ['.', '.']
  match up ++ loc.drop common.length with
  | [] => ['.']
  | parts => ['/'].intercalate parts

/-- Makes a link. -/
def one (l : Linking) (c : Call) (d : Dialog) (source path : Raw) : Dialog :=
  let files := d.effect.files
  let arrow := if l.symbolic then " -> ".toList else " => ".toList
  let target := if !l.relative then source
    else
      match files.locate? source, files.place? path with
      | some loc, some place => pathFrom place.dropLast loc
      | _, _ => source
  let refused (d : Dialog) (withSource : Bool) (reason : Raw) : Dialog :=
    let what := if l.symbolic then "symbolic link " else "hard link "
    let ending := if withSource then arrow ++ Citation.forShell target else []
    d.map fun e => e.complain c 1 ("failed to create ".toList ++ what.toList
      ++ Citation.forShell path ++ ending ++ ": ".toList ++ reason)
  let done (d : Dialog) (loc : Location) (entry : Entry) : Dialog :=
    d.map fun e =>
      let old? := if l.aside?.isSome then e.files.at? loc else none
      let name := loc.getLastD [] ++ l.aside?.getD []
      let kept := match old? with
        | some old => (e.files.eraseAt loc).putAt (loc.dropLast ++ [name]) old
        | none => e.files
      let e := { e with files := kept.putAt loc entry }
      let aside := if old?.isSome then
          Citation.forShell (path ++ l.aside?.getD []) ++ " ~ ".toList
        else []
      if l.verbose then
        e.say (aside ++ Citation.forShell path ++ arrow ++ Citation.forShell target ++ ['\n'])
      else e
  let entry? := if l.symbolic then some (.link target) else files.entryItself? source
  match entry?, files.place? path with
  | none, _ =>
      d.map fun e => e.complain c 1 ("failed to access ".toList ++ Citation.forShell source
        ++ ": ".toList ++ files.reason source)
  | some .directory, _ =>
      d.map fun e => e.complain c 1 (source ++ ": hard link not allowed for directory".toList)
  | some _, none => refused d (!l.symbolic) (files.reason path)
  | some entry, some loc =>
      if l.symbolic && target.isEmpty then refused d true Fault.missing.text
      else
        match files.at? loc with
        | none => done d loc entry
        | some there =>
            let replaces := l.replaces || l.asks || l.aside?.isSome
            if !replaces then refused d false "File exists".toList
            else if there = .directory then
              d.map fun e =>
                e.complain c 1 (path ++ ": cannot overwrite directory".toList)
            else if (if l.symbolic then l.aside?.isNone && files.locate? source = some loc
                else files.place? source = some loc) then
              d.map fun e => e.complain c 1 (Citation.forShell source ++ " and ".toList
                ++ Citation.forShell path ++ " are the same file".toList)
            else if l.asks then
              match d.ask c ("replace ".toList ++ Citation.forShell path) with
              | (true, d) => done d loc entry
              | (false, d) => d
            else done d loc entry

/-- Is the path one of a directory to put links in? -/
def isInto (l : Linking) (c : Call) (path : Raw) : Bool :=
  !l.exact && c.isDirectory path
    && !(l.near && (c.files.entryItself? path matches some (.link _)))

/-- Makes links in a directory. -/
def into (l : Linking) (c : Call) (what : String) (target : Raw) (sources : List Raw) : Effect :=
  if l.isInto c target then
    Dialog.forEach c sources fun d source =>
      let name := if (lastPart source).all (· = '/') then [] else lastPart source
      l.one c d source (withoutSlashes target ++ '/' :: name)
  else
    let reason := if c.files.exists? target then Fault.notDirectory.text else c.files.reason target
    .failing c 1 (what.toList ++ Citation.forShell target ++ ": ".toList ++ reason)

end Linking

def ln (c : Call) : Effect :=
  let options := known "bdfinrst:vFLPS:T" <|
    "backup:: directory=F no-dereference=n no-target-directory=T force=f interactive=i"
    ++ " suffix=S target-directory=t logical=L physical=P relative=r symbolic=s verbose=v"
  withOptions c 1 options fun o =>
    let l := Linking.ofOptions o
    match o.value? 't', o.operands with
    | _, [] => misused c 1 "missing file operand".toList
    | some target, sources =>
        if l.exact then
          .failing c 1 "cannot combine --target-directory and --no-target-directory".toList
        else if c.files.exists? target && !c.isDirectory target then
          .failing c 1 ("target ".toList ++ Citation.forShell target ++ " is not a directory".toList)
        else l.into c "failed to access " target sources
    | none, [source] =>
        if l.exact then
          misused c 1 ("missing destination file operand after ".toList ++ Citation.forShell source)
        else l.into c "target " ['.'] [source]
    | none, [source, target] =>
        if l.isInto c target then l.into c "target " target [source]
        else (l.one c (.start c) source target).effect
    | none, _ :: _ :: extra :: others =>
        if l.exact then misused c 1 ("extra operand ".toList ++ Citation.forShell extra)
        else l.into c "target " (o.operands.getLastD []) ((extra :: others).dropLast.foldl
          (fun sources source => sources ++ [source]) (o.operands.take 2))

/-- The location of a path of which parts may be missing. -/
def locationOf (files : FileSystem) (path : Raw) : Location :=
  (Path.split path).foldl
    (fun loc part =>
      if part = [] || part = ['.'] then loc
      else if part = ['.', '.'] then loc.dropLast
      else
        let next := FileSystem.Location.text loc ++ '/' :: part
        (files.locate? next).getD (loc ++ [part]))
    (files.start path)

/-- Shows where links lead. -/
def readlink (c : Call) : Effect :=
  let options := known "femnqsvz" <|
    "canonicalize=f canonicalize-existing=e canonicalize-missing=m no-newline=n quiet=q"
    ++ " silent=s verbose=v zero=z"
  withOptions c 1 options fun o =>
    let several := 1 < o.operands.length
    let ending : Raw := if o.has 'n' && !several then [] else if o.has 'z' then ['\x00'] else ['\n']
    let tells := o.last? ['q', 's', 'v'] = some (.letter 'v')
    let start := if several && o.has 'n' then
        Effect.failing c 0 "ignoring --no-newline with multiple arguments".toList
      else .quiet c 0
    let shown (path : Raw) : Option Raw :=
      let text (loc : Location) : Raw :=
        if loc.isEmpty then ['/'] else FileSystem.Location.text loc
      match o.last? ['f', 'e', 'm'] with
      | some (.letter 'm') => if path.isEmpty then none else some (text (locationOf c.files path))
      | some (.letter 'e') =>
          if c.files.exists? path then (c.files.locate? path).map text else none
      | some _ =>
          let bare := if path.all (· = '/') then path else withoutSlashes path
          let isLost := bare ≠ path && c.files.exists? bare && !c.isDirectory bare
          if isLost then none else (c.files.locate? bare).map text
      | none =>
          match c.files.entryItself? path with
          | some (.link target) => some target
          | _ => none
    if o.operands.isEmpty then misused c 1 "missing operand".toList
    else
      o.operands.foldl
        (fun e path =>
          match shown path with
          | some text => e.say (text ++ ending)
          | none =>
              let reason := if !o.hasAny "fem" && (c.files.entryItself? path).isSome then
                  "Invalid argument".toList
                else c.files.reason path
              if tells then e.complain c 1 (Citation.bare path ++ ": ".toList ++ reason)
              else { e with status := 1 })
        start

end SmtScript.Host.Utility
