import SmtScript.Host.Mode
import SmtScript.Host.Shell.Integer
import SmtScript.Host.Shell.Pattern
import SmtScript.Host.Utility.Names
import SmtScript.Host.Utility.Version

/-!
# Lists of files

`ls` names files, and what is in directories, in the order of the bytes unless asked otherwise. It
can tell more about each of them, which stands in columns.
-/

namespace SmtScript.Host.Utility

/-- The location of a name in a directory. -/
def placeIn (loc : Location) (name : Raw) : Location :=
  if name = ['.'] then loc else if name = ['.', '.'] then loc.dropLast else loc ++ [name]

/-- What an ordering looks at behind the last point of a name. -/
def extension (name : Raw) : Raw :=
  if name.contains '.' then '.' :: (name.reverse.takeWhile (· ≠ '.')).reverse else []

/-- Names in order, with the greatest or the newest first where options say so. -/
def ordered (o : Options) (files : FileSystem) (place : Raw → Location) (names : List Raw) :
    List Raw :=
  let size (name : Raw) : Nat := sizeAt files (place name)
  let time (name : Raw) : Nat := files.changedAt (place name)
  let names := if o.has 'U' then names else names.mergeSort Raw.isBefore
  let isTimed := o.hasAny "cu" && !o.hasAny "lnog"
  let asked? := (o.last? ["width", 'U', 'S', 't', 'X', 'v']).orElse fun _ =>
    if isTimed then some (.letter 't') else none
  let sorted := match asked? with
    | some (.letter 'S') => names.mergeSort fun a b => size b ≤ size a
    | some (.letter 't') => names.mergeSort fun a b => time b ≤ time a
    | some (.letter 'X') => names.mergeSort fun a b => Raw.isBefore (extension a) (extension b)
    | some (.letter 'v') => names.mergeSort fun a b => Version.compare a b != .gt
    | some (.long _) => names.mergeSort fun a b => a.length ≤ b.length
    | _ => names
  let (first, last) := if o.has "group-directories-first" then
      sorted.partition fun name => files.isDirectoryAt (place name)
    else ([], sorted)
  if o.has 'r' then first.reverse ++ last.reverse else first ++ last

/-- The names in a directory, as options say: with those that a dot begins, or all. -/
def listing (o : Options) (files : FileSystem) (loc : Location) : List Raw :=
  let fits (name pattern : Raw) : Bool :=
    Shell.Pattern.accepts (Shell.Pattern.ofMarked (pattern.map (·, false))) name
  let hidden (name : Raw) : Bool :=
    !o.hasAny "aA" && (name.head? = some '.' || (o.values "hide").any (fits name))
  let ignored (name : Raw) : Bool :=
    (o.values 'I').any (fits name) || o.has 'B' && name.getLast? = some '~'
  let names := (files.names loc).filter fun name => !ignored name && !hidden name
  let shown := if o.has 'a' && !FileSystem.isBuried loc then ["." ,".."].map String.toList ++ names
    else names
  ordered o files (placeIn loc) shown

/-- A name with a mark of its kind behind it, or in quotation marks. -/
def decorated (o : Options) (files : FileSystem) (loc : Location) (name : Raw) : Raw :=
  let mark := match files.at? loc with
    | some .directory => if o.hasAny "Fp" || o.has "file-type" then ['/'] else []
    | some (.file number) =>
        if o.has 'F' && (files.node? number).any fun node => FileSystem.isRunnable node.mode then
          ['*']
        else []
    | some (.program _) => if o.has 'F' then ['*'] else []
    | some (.link _) => if o.has 'F' || o.has "file-type" then ['@'] else []
    | some (.fifo _) => if o.has 'F' || o.has "file-type" then ['|'] else []
    | _ => []
  (if o.has 'Q' then '"' :: name ++ ['"'] else name) ++ mark

/-! ## Long lists -/

/-- What a list can tell of an entry. -/
structure Row where
  kind : Char
  mode : Nat
  links : Nat
  size : Raw
  /-- Units of 1024 bytes. -/
  blocks : Nat
  changed : Nat
  name : Raw

/-- The letter of a kind. -/
def kindLetter : Entry → Char
  | .directory => 'd'
  | .link _ => 'l'
  | .fifo _ => 'p'
  | .device _ => 'c'
  | .file _ | .program _ => '-'

/-- How many names lead to what is at a location. -/
def linkCount (files : FileSystem) (loc : Location) : Nat :=
  match files.at? loc with
  | some .directory =>
      2 + ((files.names loc).filter fun name => files.isDirectoryAt (loc ++ [name])).length
  | some (.file number) => (files.entries.filter fun e => e.2 = .file number).length
  | _ => 1

/-- The numbers of a device. -/
def deviceNumbers : Device → Raw
  | .null => "1, 3".toList
  | .zero => "1, 5".toList
  | .full => "1, 7".toList
  | .stream _ => "136, 0".toList

/-- A size in units that make it short, rounded up. -/
def humanSize (size : Nat) : Raw :=
  let rec scaled (fuel : Nat) (units : List Char) (whole : Nat) (unit : Nat) : Raw :=
    match fuel, units with
    | fuel + 1, u :: more =>
        let tenths := (whole * 10 + unit - 1) / unit
        let rounded := (whole + unit - 1) / unit
        if tenths < 100 then Raw.ofNat (tenths / 10) ++ '.' :: Raw.ofNat (tenths % 10) ++ [u]
        else if rounded < 1024 then Raw.ofNat rounded ++ [u]
        else scaled fuel more whole (unit * 1024)
    | _, _ => Raw.ofNat whole
  if size < 1024 then Raw.ofNat size else scaled 6 "KMGTPE".toList size 1024

def rowOf (o : Options) (files : FileSystem) (loc : Location) (name : Raw) : Row :=
  let size := match files.at? loc with
    | some (.link target) => target.length
    | _ => sizeAt files loc
  let shownSize := match files.at? loc with
    | some (.device d) => deviceNumbers d
    | _ => if o.has 'h' then humanSize size else Raw.ofNat size
  let arrow := match files.at? loc with
    | some (.link target) => if o.hasAny "lnog" then " -> ".toList ++ target else []
    | _ => []
  { kind := ((files.at? loc).map kindLetter).getD '?'
    mode := files.modeAt loc
    links := linkCount files loc
    size := shownSize
    blocks := match files.at? loc with
      | some (.file _) | some .directory => (size + 4095) / 4096 * 4
      | _ => 0
    changed := files.changedAt loc
    name := decorated o files loc name ++ arrow }

/-- The days from 1970 on as year, month and day. -/
def dateOf (days : Nat) : Nat × Nat × Nat :=
  let days := days + 719468
  let era := days / 146097
  let day := days % 146097
  let year := (day - day / 1460 + day / 36524 - day / 146096) / 365
  let ofYear := day - (365 * year + year / 4 - year / 100)
  let month := (5 * ofYear + 2) / 153
  let ofMonth := ofYear - (153 * month + 2) / 5 + 1
  let calendar := if month < 10 then month + 3 else month - 9
  (year + era * 400 + (if calendar ≤ 2 then 1 else 0), calendar, ofMonth)

def monthNames : List String :=
  ["Jan", "Feb", "Mar", "Apr", "May", "Jun", "Jul", "Aug", "Sep", "Oct", "Nov", "Dec"]

/-- A time with its nanoseconds. -/
def timeText (time : Nat) : Raw :=
  let seconds := time / 1000000000
  let (year, month, day) := dateOf (seconds / 86400)
  let two (n : Nat) : Raw := Decimal.padded 2 (n % 100)
  Decimal.padded 4 year ++ '-' :: two month ++ '-' :: two day ++ ' ' :: two (seconds / 3600 % 24)
    ++ ':' :: two (seconds / 60 % 60) ++ ':' :: two (seconds % 60)
    ++ '.' :: Decimal.padded 9 (time % 1000000000) ++ " +0000".toList

/-- A time as lists show it: with the hour if it is not long ago, or else with the year. -/
def listTime (now time : Nat) : Raw :=
  let seconds := time / 1000000000
  let (year, month, day) := dateOf (seconds / 86400)
  let two (n : Nat) : Raw := Decimal.padded 2 (n % 100)
  let date := (monthNames.getD (month - 1) "").toList ++ ' ' :: pad false 2 (Raw.ofNat day) ++ [' ']
  if time ≤ now && now < time + 15778476000000000 then
    date ++ two (seconds / 3600 % 24) ++ ':' :: two (seconds / 60 % 60)
  else date ++ pad false 5 (Raw.ofNat year)

/-- Rows with their columns one under the other, which have room for other rows as well. -/
def longLines (o : Options) (now : Nat) (measured rows : List Row) : Raw :=
  let width (column : Row → Raw) : Nat := measured.foldl (fun n row => max n (column row).length) 0
  let links := width fun row => Raw.ofNat row.links
  let sizes := width Row.size
  let blocks := width fun row => Raw.ofNat row.blocks
  let owner := if o.has 'n' then ['0'] else "root".toList
  rows.flatMap fun row =>
    (if o.has 's' then pad false blocks (Raw.ofNat row.blocks) ++ [' '] else [])
      ++ row.kind :: Mode.text row.mode ++ ' ' :: pad false links (Raw.ofNat row.links)
      ++ (if o.has 'g' then [] else ' ' :: owner) ++ (if o.hasAny "oG" then [] else ' ' :: owner)
      ++ ' ' :: pad false sizes row.size ++ ' ' :: listTime now row.changed
      ++ ' ' :: row.name ++ ['\n']

/-! ## Side by side -/

/-- The narrowest column. -/
def columnLimit : Nat := 3

/-- How wide columns are, if names stand one under the other in them or, with `across`, in rows. There
are two blanks between columns. -/
def columnWidths (across : Bool) (columns : Nat) (names : List Raw) : List Nat :=
  let rows := (names.length + columns - 1) / columns
  let column (n : Nat) : Nat := if across then n % columns else n / rows
  (List.range columns).map fun k =>
    ((List.range names.length).zip names).foldl
      (fun width (n, name) =>
        if column n = k then max width (name.length + if k + 1 = columns then 0 else 2) else width)
      columnLimit

/-- The widths of as many columns as there is room for. Less than two always have room. -/
def fittingWidths (across : Bool) (room : Nat) (names : List Raw) : Nat → List Nat
  | 0 => []
  | columns + 1 =>
      let widths := columnWidths across (columns + 1) names
      if columns = 0 || widths.foldl Nat.add 0 < room then widths
      else fittingWidths across room names columns

/-- What leads from one place in a line to another, with a stop at each multiple of a number. -/
def indent (stop fuel place target : Nat) : Raw :=
  match fuel with
  | 0 => []
  | fuel + 1 =>
      if target ≤ place then []
      else if stop ≠ 0 && (place + 1) / stop < target / stop then
        '\t' :: indent stop fuel (place + stop - place % stop) target
      else ' ' :: indent stop fuel (place + 1) target

/-- A line of names, each in its column. -/
def columnLine (stop : Nat) (place : Nat) : List (Raw × Nat) → Raw
  | [] => ['\n']
  | [(name, _)] => name ++ ['\n']
  | (name, width) :: others =>
      name ++ indent stop (width + 1) (place + name.length) (place + width)
        ++ columnLine stop (place + width) others

/-- Names in columns. -/
def inColumns (across : Bool) (room stop : Nat) (names : List Raw) : Raw :=
  let widths := fittingWidths across room names
    (min names.length ((room + columnLimit - 1) / columnLimit))
  let columns := max 1 widths.length
  let rows := (names.length + columns - 1) / columns
  (List.range rows).flatMap fun row =>
    let place (column : Nat) : Nat := if across then row * columns + column else column * rows + row
    columnLine stop 0 (((List.range columns).zip widths).filterMap fun (column, width) =>
      names[place column]?.map fun name => (name, width))

/-- Names with a mark and a blank between them, in lines that have room for them. -/
def separated (mark : Char) (room place : Nat) : List Raw → Raw
  | [] => ['\n']
  | [name] => name ++ ['\n']
  | name :: next :: others =>
      let place := place + name.length
      if room = 0 || place + next.length + 2 < room then
        name ++ mark :: ' ' :: separated mark room (place + 2) (next :: others)
      else name ++ mark :: '\n' :: separated mark room 0 (next :: others)

/-- Entries one under the other, or side by side, with their sum before them if they are those of a
directory. -/
def arranged (o : Options) (now : Nat) (isDirectory : Bool) (measured rows : List Row) : Raw :=
  let blocks := rows.foldl (fun n row => n + row.blocks) 0
  let total := if o.hasAny "lnogs" && isDirectory then
      "total ".toList ++ (if o.has 'h' then humanSize (blocks * 1024) else Raw.ofNat blocks) ++ ['\n']
    else []
  let width := measured.foldl (fun n row => max n (Raw.ofNat row.blocks).length) 0
  let sized (row : Row) : Raw :=
    if !o.has 's' then row.name
    else if o.last? ['l', 'm', '1', 'C', 'x'] = some (.letter 'm') then
      Raw.ofNat row.blocks ++ ' ' :: row.name
    else pad false width (Raw.ofNat row.blocks) ++ ' ' :: row.name
  let names := rows.map sized
  let count (key : Key) (usual : Nat) : Nat :=
    ((o.value? key).bind Shell.Integer.count?).getD usual
  let room := count 'w' 80
  let stop := count 'T' 8
  if o.hasAny "lnog" then total ++ longLines o now measured rows
  else if names.isEmpty then total
  else total ++ match o.last? ['m', 'C', 'x', '1'] with
    | some (.letter 'm') => separated ',' room 0 names
    | some (.letter 'C') =>
        if room = 0 then separated ' ' 0 0 names else inColumns false room stop names
    | some (.letter 'x') =>
        if room = 0 then separated ' ' 0 0 names else inColumns true room stop names
    | _ => names.flatMap (· ++ ['\n'])

/-- A directory and, where that is asked for, all directories below it, with their names. -/
def sections (o : Options) (files : FileSystem) (fuel : Nat) (titled : Bool) (path : Raw)
    (loc : Location) : List Raw :=
  match fuel with
  | 0 => []
  | fuel + 1 =>
      let names := listing o files loc
      let place := placeIn loc
      let rows := names.map fun name => rowOf o files (place name) name
      let here := (if titled then path ++ ":\n".toList else []) ++ arranged o files.now true rows rows
      let isInside (name : Raw) : Bool :=
        name ≠ ['.'] && name ≠ ['.', '.'] && files.isDirectoryAt (place name)
      let below := if o.has 'R' then names.filter isInside else []
      here :: below.flatMap fun name =>
        let isBare := path.getLast? == some '/'
        sections o files fuel true ((if isBare then path else path ++ ['/']) ++ name) (place name)

/-- Words for when something is shown. -/
def whenWords : List (String × Nat) :=
  [("always", 0), ("yes", 0), ("force", 0), ("never", 1), ("no", 1), ("none", 1), ("auto", 2),
    ("tty", 2), ("if-tty", 2)]

/-- The words of options, and the options that they stand for. -/
def listWords : List (String × List (String × Key)) :=
  [("sort", [("none", 'U'), ("time", 't'), ("size", 'S'), ("extension", 'X'), ("version", 'v'),
      ("width", "width")]),
    ("format", [("verbose", 'l'), ("long", 'l'), ("commas", 'm'), ("horizontal", 'x'),
      ("across", 'x'), ("vertical", 'C'), ("single-column", '1')]),
    ("time", [("atime", 'u'), ("access", 'u'), ("use", 'u'), ("ctime", 'c'), ("status", 'c'),
      ("mtime", "mtime"), ("modification", "mtime"), ("birth", "birth"), ("creation", "birth")]),
    ("indicator-style", [("none", "plain"), ("slash", 'p'), ("file-type", "file-type"),
      ("classify", 'F')]),
    ("quoting-style", [("literal", 'N'), ("shell", "shell"), ("shell-always", "shell-always"),
      ("shell-escape", "shell-escape"), ("shell-escape-always", "shell-escape-always"), ("c", 'Q'),
      ("c-maybe", "c-maybe"), ("escape", 'b'), ("locale", "locale"), ("clocale", "clocale")])]

/-- The options that an option stands for. -/
def listStep (c : Call) (given : List (Key × Raw)) (key : Key) (value : Raw) :
    Except Effect (List (Key × Raw)) :=
  let invalid (what : String) : Except Effect (List (Key × Raw)) :=
    .error (.failing c 2 (what.toList ++ Citation.escaped value))
  let isCount := value.all Char.isDigit && !value.isEmpty
  match key with
  | .letter 'f' => .ok (given ++ [(.letter 'a', []), (.letter 'U', [])])
  | .letter 'w' => if isCount then .ok (given ++ [(key, value)]) else invalid "invalid line width: "
  | .letter 'T' => if isCount then .ok (given ++ [(key, value)]) else invalid "invalid tab size: "
  | .letter _ => .ok (given ++ [(key, value)])
  | .long name =>
      match listWords.lookup name with
      | some words => do
          let key ← meant c ("--" ++ name) words value
          return given ++ [(key, [])]
      | none => do
          if ["color", "hyperlink", "classify"].contains name && !value.isEmpty then
            let _ ← meant c ("--" ++ name) whenWords value
          return given ++ [(if name = "classify" then .letter 'F' else key, value)]

def ls (c : Call) : Effect :=
  let options := known "abcdfghiklmnopqrstuvw:xABCDFGHI:LNQRST:UXZ1" <|
    "all=a escape=b directory=d dired=D full-time group-directories-first"
    ++ " human-readable=h inode=i kibibytes=k numeric-uid-gid=n no-group=G"
    ++ " hide-control-chars=q reverse=r size=s width=w almost-all=A ignore-backups=B"
    ++ " classify:: file-type si dereference-command-line=H"
    ++ " dereference-command-line-symlink-to-dir hide: ignore=I indicator-style:"
    ++ " dereference=L literal=N quote-name=Q quoting-style: recursive=R format:"
    ++ " show-control-chars sort: tabsize=T time: time-style: zero color:: hyperlink::"
    ++ " block-size: context=Z author"
  let o := Options.read options false c.args
  match o.over c 2 [] (listStep c) with
  | .error e => e
  | .ok given =>
      let o := { o with given := given }
      let location (path : Raw) : Location := (c.files.locate? path).getD []
      let operands := if o.operands.isEmpty then [['.']] else o.operands.mergeSort Raw.isBefore
      let isThere (path : Raw) : Bool := (c.files.entryItself? path).isSome
      let isLink (path : Raw) : Bool := c.files.entryItself? path matches some (.link _)
      let isListed (path : Raw) : Bool :=
        !o.has 'd' && c.isDirectory path && !(o.hasAny "lnogF" && isLink path)
      let e := (operands.filter fun path => !isThere path).foldl
        (fun e path => { cannot e c "access".toList path (c.files.reason path) with status := 2 })
        (Effect.quiet c 0)
      let there := ordered o c.files location (operands.filter isThere)
      let itself (path : Raw) : Location := (c.files.place? path).getD []
      let plain := there.filter fun path => !isListed path
      let row (path : Raw) : Row := rowOf o c.files (itself path) path
      let e := e.say (arranged o c.files.now false (there.map row) (plain.map row))
      let titled := 1 < operands.length || o.has 'R'
      let parts := (there.filter isListed).flatMap fun path =>
        sections o c.files (c.files.entries.length + 1) titled path (location path)
      let text := ['\n'].intercalate parts
      e.say (if plain.isEmpty || parts.isEmpty then text else '\n' :: text)

end SmtScript.Host.Utility
