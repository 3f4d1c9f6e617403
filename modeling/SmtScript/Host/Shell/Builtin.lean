import SmtScript.Host.Shell.Image
import SmtScript.Host.Shell.Bound
import SmtScript.Host.Shell.Directory
import SmtScript.Host.Shell.Job

/-!
# Built-in commands

What changes the state of a shell without running another command. A special built-in
command ends the shell when it fails; another one only has a status.
-/

namespace SmtScript.Host.Shell

/-- The other built-in commands. -/
def regularNames : List String :=
  ["[", "alias", "bg", "cd", "chdir", "command", "echo", "false", "fg", "getopts", "hash", "jobs",
    "kill", "printf", "pwd", "read", "test", "true", "type", "ulimit", "umask", "unalias", "wait"]

def isBuiltin (name : Raw) : Bool :=
  isSpecial name || regularNames.contains (String.ofList name)

/-- Built-in commands whose arguments may be assignments. -/
def assigns (name : Raw) : Bool :=
  ["export", "readonly", "local"].contains (String.ofList name)

/-! ## Arguments -/

/-- A text in single quotation marks, so that a shell reads it back. -/
def quotedText (text : Raw) : Raw :=
  let rec go (fuel : Nat) (text : Raw) : Raw :=
    match fuel with
    | 0 => []
    | fuel + 1 =>
        let plain := text.takeWhile (· ≠ '\x27')
        let rest := text.drop plain.length
        let marks := rest.takeWhile (· = '\x27')
        let first := if plain.isEmpty then [] else '\x27' :: plain ++ ['\x27']
        let second := if marks.isEmpty then [] else '"' :: marks ++ ['"']
        if rest.isEmpty then first else first ++ second ++ go fuel (rest.drop marks.length)
  if text.isEmpty then "\x27\x27".toList else go (text.length + 1) text

/-! ## Variables -/

/-- Writes the variables that a choice takes, in order. -/
def showVariables (word : Raw) (chosen : Variable → Bool) : Act Nat := do
  let m ← get
  let names := ((m.vars.filter fun v => chosen v.2).map Prod.fst).mergeSort Raw.isBefore
  let lines := names.flatMap fun name =>
    let value := match (m.slot? name).bind Variable.value? with
      | some value => '=' :: quotedText value
      | none => []
    word ++ name ++ value ++ ['\n']
  let _ ← emit 1 lines
  return 0

/-- Marks variables, and gives values to them. -/
def declare (word : String) (mark : Variable → Variable) (chosen : Variable → Bool)
    (args : List Raw) : Act Nat := do
  let (given, args) ← options "p" args
  if !given.isEmpty || args.isEmpty then showVariables (word ++ " ").toList chosen
  else
    for arg in args do
      let (name, value?) := binding arg
      let name ← requireName name
      if let some value := value? then assign name value
      modify fun m => m.putVariable name (mark ((m.slot? name).getD ⟨none, false, false⟩))
    return 0

/-- Makes variables the function's own, or the options. A name is only looked at where there is no
value. -/
def makeLocal (args : List Raw) : Act Nat := do
  if (← get).saved.isEmpty then failWith "not in a function".toList
  else
    for arg in args do
      if arg = ['-'] then modify Machine.rememberOptions
      else
        let (name, value?) := binding arg
        if value?.isNone then let _ ← requireName name
        modify fun m => m.remember name
        if let some value := value? then assign name value
    return 0

def unsetAll (args : List Raw) : Act Nat := do
  let (given, names) ← options "fv" args
  for name in names do
    if given.getLast?.any fun g => g.1 == 'f' then
      modify fun m => { m with functions := m.functions.filter fun f => f.1 ≠ name }
    else
      unset (← requireName name)
  return 0

/-! ## Options -/

/-- The names of the options and their keys. A key that is no letter of an option is only a
key. -/
def optionNames : List (String × Char) :=
  [("errexit", 'e'), ("noglob", 'f'), ("ignoreeof", 'I'), ("interactive", 'i'), ("monitor", 'm'),
    ("noexec", 'n'), ("stdin", 's'), ("xtrace", 'x'), ("verbose", 'v'), ("vi", 'V'), ("emacs", 'E'),
    ("noclobber", 'C'), ("allexport", 'a'), ("notify", 'b'), ("nounset", 'u'), ("privileged", 'p'),
    ("nolog", 'L'), ("debug", 'D')]

/-- What an argument asks for about options. -/
inductive Setting where
  | letter (l : Char) (on : Bool)
  | name (text : Raw) (on : Bool)
  /-- Shows how all options are set. -/
  | list (asCommands : Bool)

/-- What the letters of an argument ask for. The letter `o` takes a name from the arguments behind,
if there are any. -/
def letterSettings (on : Bool) : Raw → List Raw → List Setting × List Raw
  | [], args => ([], args)
  | 'o' :: letters, [] =>
      let (others, rest) := letterSettings on letters []
      (.list (!on) :: others, rest)
  | 'o' :: letters, text :: args =>
      let (others, rest) := letterSettings on letters args
      (.name text on :: others, rest)
  | l :: letters, args =>
      let (others, rest) := letterSettings on letters args
      (.letter l on :: others, rest)

/-- What arguments ask for, up to a hyphen, two hyphens or an operand. -/
def settings (fuel : Nat) (args : List Raw) : List Setting × List Raw :=
  match fuel, args with
  | 0, _ | _, [] | _, ['-'] :: _ | _, ['-', '-'] :: _ => ([], args)
  | fuel + 1, (sign :: letters) :: rest =>
      if sign ≠ '-' && sign ≠ '+' then ([], args)
      else
        let (here, rest) := letterSettings (sign == '-') letters rest
        let (others, rest) := settings fuel rest
        (here ++ others, rest)
  | _ + 1, args => ([], args)

def switch (key : Char) (on : Bool) : Act Unit :=
  modify fun m =>
    let others := m.options.filter (· ≠ key)
    { m with options := if on then key :: others else others }

/-- Switches an option by its letter. One editor excludes the other. -/
def switchLetter (l : Char) (on : Bool) : Act Unit := do
  if !Machine.optionLetters.contains l then failWith ("Illegal option -".toList ++ [l])
  switch l on
  if on && l == 'V' then switch 'E' false
  if on && l == 'E' then switch 'V' false

/-- The key of an option by its name. -/
def keyOf (name : Raw) : Act Char := do
  match optionNames.lookup (String.ofList name) with
  | some key => return key
  | none => failWith ("Illegal option -o ".toList ++ name)

/-- Writes how the options are set. -/
def showOptions (asCommands : Bool) (isOn : Char → Bool) : Act Unit := do
  let lines := optionNames.flatMap fun (name, key) =>
    if asCommands then
      (if isOn key then "set -o " else "set +o ").toList ++ name.toList ++ ['\n']
    else Utility.pad true 16 name.toList ++ (if isOn key then "on\n" else "off\n").toList
  let _ ← emit 1 (if asCommands then lines else "Current option settings\n".toList ++ lines)

/-- The machine whose process treats a signal as the traps say. One that was ignored from the start
stays ignored. A shell that talks with somebody does not end by some signals. -/
def Machine.disposed (m : Machine) (signal : Nat) : Machine :=
  if signal = 0 || m.deaf.contains signal then m
  else
    m.adjustSelf fun p =>
      let ignored := p.ignored.filter (· ≠ signal)
      let caught := p.caught.filter (· ≠ signal)
      match m.traps.lookup signal with
      | none =>
          if m.talks && Signal.patient.contains signal then
            { p with ignored := signal :: ignored, caught := caught }
          else if m.talks && signal = Signal.interrupt then
            { p with ignored := ignored, caught := signal :: caught }
          else { p with ignored := ignored, caught := caught }
      | some [] => { p with ignored := signal :: ignored, caught := caught }
      | some _ => { p with ignored := ignored, caught := signal :: caught }

/-- Does what other options ask for. Without a terminal there is no control over jobs. -/
def settleOptions : Act Unit := do
  if (← get).has 'm' then
    warn "can\x27t access tty; job control turned off".toList
    switch 'm' false
  for signal in Signal.interrupt :: Signal.patient do
    modify fun m => m.disposed signal

/-- Sets options, and the arguments if there are any. -/
def setOptions (args : List Raw) : Act Unit := do
  let (here, rest) := settings args.length args
  for setting in here do
    match setting with
    | .letter l on => switchLetter l on
    | .name text on => switch (← keyOf text) on
    | .list asCommands =>
        let m ← get
        showOptions asCommands m.has
  if rest.head? = some ['-'] then
    switch 'x' false
    switch 'v' false
  settleOptions
  match rest with
  | [] | [['-']] => return ()
  | ['-'] :: rest | ['-', '-'] :: rest | rest => modify fun m => m.withArguments rest

/-! ## Signals -/

def traps (args : List Raw) : Act Nat := do
  let (_, args) ← options "" args
  match args with
  | [] =>
      let m ← get
      let shown := (List.range Signal.limit).flatMap fun n =>
        match m.traps.lookup n with
        | some action =>
            "trap -- ".toList ++ quotedText action ++ ' ' :: Signal.name n ++ ['\n']
        | none => []
      let _ ← emit 1 shown
      return 0
  | first :: others =>
      let isReset := others.isEmpty || (Integer.count? first).isSome
        && (Signal.ofText? 0 first).isSome
      let action? := if isReset || first = ['-'] then none else some first
      for name in if isReset then args else others do
        match Signal.ofText? 0 name with
        | none =>
            let _ ← emit 2 ("trap: ".toList ++ name ++ ": bad trap\n".toList)
            setStatus 1
            return 1
        | some signal =>
            modify fun m =>
              let kept := m.traps.filter fun t => t.1 ≠ signal
              let traps := match action? with
                | some action => (signal, action) :: kept
                | none => kept
              { m with traps := traps }
            modify fun m => m.disposed signal
      return 0

/-- Sends a signal to a process. Says whether there is one. -/
def send (target signal : Nat) : Act Bool := do
  let m ← get
  if (m.process? target).isNone then return target = 1 || target + 1 = World.firstProcess
  else
    set { m with toWorld := m.toWorld.send target signal }
    survive
    return true

/-- Sends a signal to all processes of a group. Says whether there is one. -/
def sendGroup (group signal : Nat) : Act Bool := do
  let m ← get
  let group := if group = 0 then (m.self?.map Process.group).getD 0 else group
  if !(m.processes.any fun p => p.group == group) then return false
  else
    set { m with toWorld := m.toWorld.sendAll group signal }
    survive
    return true

/-- The names of the signals, or that of one by its number or the status that it leaves. -/
def listSignals (args : List Raw) : Act Nat := do
  match args with
  | [] =>
      let names := (List.range (Signal.limit - 1)).map fun n => Signal.name (n + 1)
      let _ ← emit 1 ((['0'] :: names).flatMap (· ++ ['\n']))
      return 0
  | text :: _ =>
      let n ← requireNumber text
      let n := if 128 < n then n - 128 else n
      if 0 < n && n < Signal.limit then
        let _ ← emit 1 (Signal.name n ++ ['\n'])
        return 0
      else failWith ("invalid signal number or exit status: ".toList ++ text)

def kill (args : List Raw) : Act Nat := do
  let usage {α : Type} : Act α := failWith
    ("Usage: kill [-s sigspec | -signum | -sigspec] [pid | job]... or\n"
      ++ "kill -l [exitstatus]").toList
  let (given, signal?, targets) ← match args with
    | ('-' :: text) :: rest =>
        match Signal.ofText? 1 text with
        | some signal => pure ([], some signal, rest)
        | none => do
            if text = ['0'] then pure ([], some 0, rest)
            else
              let (given, rest) ← options "ls:" args
              pure (given, none, rest)
    | rest => pure ([], none, rest)
  let mut signal? := signal?
  for (letter, value) in given do
    if letter == 's' then
      match Signal.ofText? 0 value with
      | some signal => signal? := some signal
      | none => failWith ("invalid signal number or name: ".toList ++ value)
  if given.any fun g => g.1 == 'l' then listSignals targets
  else if targets.isEmpty then usage
  else
    let signal := signal?.getD 15
    let mut status := 0
    for target in targets do
      let sent ← match target with
        | '%' :: _ => do
            let _ ← requireJob target
            pure false
        | '-' :: group => do sendGroup (← requireNumber group) signal
        | _ => do
            let id ← requireNumber target
            if id = 0 then sendGroup 0 signal else send id signal
      if !sent then
        warn "No such process\n".toList
        status := 1
    return status

/-! ## Reading lines -/

/-- The characters of a line, how many were read, and whether the line was ended. A backslash
keeps the next character and joins lines, unless it counts as any other. -/
def lineOf (literal : Bool) : Raw → List Kept × Nat × Bool
  | [] => ([], 0, false)
  | '\n' :: _ => ([], 1, true)
  | '\x00' :: rest =>
      let (line, count, ended) := lineOf literal rest
      (line, count + 1, ended)
  | '\\' :: c :: rest =>
      if literal then
        let (line, count, ended) := lineOf literal (c :: rest)
        (('\\', false) :: line, count + 1, ended)
      else
        let (line, count, ended) := lineOf literal rest
        (if c == '\n' then line else (c, true) :: line, count + 2, ended)
  | c :: rest =>
      let (line, count, ended) := lineOf literal rest
      ((c, false) :: line, count + 1, ended)

/-- How much of a text belongs to the line, whether the line is ended then, and whether the next
character is kept by a backslash. -/
def lineLength (literal : Bool) : Bool → Nat → Raw → Nat × Bool × Bool
  | kept, count, [] => (count, false, kept)
  | kept, count, c :: rest =>
      if kept then lineLength literal false (count + 1) rest
      else if c == '\n' then (count + 1, true, false)
      else lineLength literal (!literal && c == '\\') (count + 1) rest

/-- So much is looked at when a line is read. -/
def lineChunk : Nat := 512

/-- Takes a line from a stream. Gives its pieces, the last first, and whether it was ended. -/
def takeLine (fuel index : Nat) (literal kept : Bool) (pieces : List Raw) :
    Act (List Raw × Bool) :=
  match fuel with
  | 0 => stay
  | fuel + 1 => do
      let here ← look index lineChunk true
      if (← get).isEndless index then stay
      else if here.isEmpty then
        let m ← get
        let hears := m.self?.any fun p => !p.pending.isEmpty
        if hears || m.hasInput index then return (pieces, false)
        else takeLine fuel index literal kept pieces
      else
        let (count, ended, kept) := lineLength literal kept 0 here
        modify fun m => m.skip index count
        let pieces := here.take count :: pieces
        if ended then return (pieces, true) else takeLine fuel index literal kept pieces

def readVariables (args : List Raw) : Act Nat := do
  let (given, names) ← options "rp:" args
  if names.isEmpty then failWith "arg count".toList
  else
    let m ← get
    let literal := given.any fun g => g.1 == 'r'
    let (pieces, ended) ← match m.readable? 0 with
      | some index => takeLine endless index literal false []
      | none => pure ([], false)
    let (line, _, _) := lineOf literal pieces.reverse.flatten
    let line := if !literal && !ended && line.getLast? == some ('\\', false) then line.dropLast
      else line
    for (name, value) in names.zip (values m.separators names.length line) do
      assign (← requireName name) value
    return if ended then 0 else 1

/-! ## Options of scripts -/

/-- Does a list of options have a letter, and with an argument? A colon behind a letter says
that it has one. -/
def asksFor? (letter : Char) : Raw → Option Bool
  | [] => none
  | c :: ':' :: rest => if c = letter then some true else asksFor? letter rest
  | c :: rest => if c = letter then some false else asksFor? letter rest

/-- Where the reading of options is: the letters that come next, none where there are no more
options, and the argument after them. -/
def nextLetters (words : List Raw) (index place : Nat) : Raw × Nat :=
  let before := if place = 0 then [] else (words[index - 2]?).getD []
  match before.drop place, words[index - 1]? with
  | l :: more, _ => (l :: more, index)
  | [], some ['-', '-'] => ([], index + 1)
  | [], some ('-' :: l :: more) => (l :: more, index + 1)
  | [], _ => ([], index)

/-- The next option among the arguments of a script. -/
def nextOption (args : List Raw) : Act Nat := do
  match args with
  | spec :: name :: given =>
      let m ← get
      let words := if given.isEmpty then m.args else given
      let isKnown := 1 ≤ m.optionIndex && m.optionIndex ≤ words.length + 1
      let (index, place) := if isKnown then (m.optionIndex, m.optionPlace) else (1, 0)
      set { m with optionIndex := 0 }
      let quiet := spec.head? == some ':'
      let finish (index place : Nat) (value : Char) : Act Unit := do
        assign Machine.optionVariable (Raw.ofNat index)
        modify fun m => { m with optionIndex := 0 }
        assign (← requireName name) [value]
        modify fun m => { m with optionIndex := index, optionPlace := place }
      let argument := "OPTARG".toList
      match nextLetters words index place with
      | ([], index) =>
          finish index 0 '?'
          return 1
      | (l :: more, index) =>
          let place := ((words[index - 2]?).getD []).length - more.length
          match asksFor? l spec with
          | none =>
              if quiet then assign argument [l]
              else
                let _ ← emit 2 ("Illegal option -".toList ++ [l, '\n'])
                unset argument
              finish index place '?'
          | some false =>
              assign argument []
              finish index place l
          | some true =>
              if !more.isEmpty then
                assign argument more
                finish index 0 l
              else
                match words[index - 1]? with
                | some value =>
                    assign argument value
                    finish (index + 1) 0 l
                | none =>
                    if quiet then
                      assign argument [l]
                      finish index place ':'
                    else
                      let _ ← emit 2 ("No arg for -".toList ++ l :: " option\n".toList)
                      unset argument
                      finish index place '?'
          return 0
  | _ => failWith "Usage: getopts optstring var [arg...]".toList

/-! ## The rest -/

/-! ### Names of commands -/

/-- What a command name stands for. -/
inductive Meaning where
  | keyword
  | substitute (text : Raw)
  | builtin
  | function
  /-- A program, and whether it was found before. -/
  | program (path : Raw) (known : Bool)
  | nothing

namespace Machine

/-- Remembers where a program was found. -/
def remembering (m : Machine) (name path : Raw) : Machine :=
  if name.contains '/' then m
  else if m.found.any fun f => f.1 == name then
    { m with found := m.found.map fun f => if f.1 == name then (name, path, false) else f }
  else { m with found := m.found ++ [(name, path, false)] }

end Machine

def meaning (m : Machine) (places? : Option (List Raw)) (name : Raw) : Meaning :=
  if isOneOf reserved name then .keyword
  else
    match m.aliases.lookup name with
    | some text => .substitute text
    | none =>
        if isSpecial name then .builtin
        else if (m.functions.lookup name).isSome then .function
        else if isBuiltin name then .builtin
        else
          let path? := if name.contains '/' then some name |>.filter m.here.exists?
            else m.programPath? places? name
          match path? with
          | some path => .program path (places?.isNone && (m.found.lookup name).isSome)
          | none => .nothing

/-- An alias as it is made. -/
def aliasLine (name text : Raw) : Raw :=
  name ++ '=' :: quotedText text ++ ['\n']

/-- Says what a name stands for. -/
def describe (places? : Option (List Raw)) (brief : Bool) (name : Raw) : Act Nat := do
  let m ← get
  let say (text : Raw) : Act Nat := do
    let _ ← emit 1 (if brief then name ++ ['\n'] else name ++ text ++ ['\n'])
    return 0
  match meaning m places? name with
  | .keyword => say " is a shell keyword".toList
  | .substitute text =>
      if brief then
        let _ ← emit 1 ("alias ".toList ++ aliasLine name text)
        return 0
      else say (" is an alias for ".toList ++ text)
  | .builtin =>
      say (if isSpecial name then " is a special shell builtin" else " is a shell builtin").toList
  | .function => say " is a shell function".toList
  | .program path known =>
      if places?.isNone then set (m.remembering name path)
      let link := if known && !brief then " is a tracked alias for " else " is "
      let _ ← emit 1 (if brief then path ++ ['\n'] else name ++ link.toList ++ path ++ ['\n'])
      return 0
  | .nothing =>
      if !brief then
        let _ ← emit 1 (name ++ ": not found\n".toList)
      return 127

/-- Shows the programs that were found, or finds some. -/
def remember (args : List Raw) : Act Nat := do
  let (given, names) ← options "r" args
  if given.any fun g => g.1 == 'r' then
    modify fun m => { m with found := [] }
    return 0
  else if names.isEmpty then
    let rows := Machine.inRows 31 (← get).found
    let _ ← emit 1 (rows.flatMap fun (_, path, stale) =>
      path ++ (if stale then ['*'] else []) ++ ['\n'])
    return 0
  else
    let mut status := 0
    for name in names do
      let m ← get
      if isBuiltin name || (m.functions.lookup name).isSome then pure ()
      else
        match m.here.findProgram? m.directories name with
        | some path => set (m.remembering name path)
        | none =>
            warn (name ++ ": ".toList ++ (m.whyNotFound none name).shellText)
            status := 1
    return status

/-! ### Aliases -/

/-- Makes or shows aliases. -/
def makeAliases (args : List Raw) : Act Nat := do
  if args.isEmpty then
    let rows := Machine.inRows Machine.rows (← get).aliases
    let _ ← emit 1 (rows.flatMap fun (name, text) => aliasLine name text)
    return 0
  else
    let mut status := 0
    for arg in args do
      let m ← get
      let (name, text?) := match arg with
        | [] => ([], none)
        | c :: rest => let (name, text?) := binding rest; (c :: name, text?)
      match text? with
      | some text =>
          set (if m.aliases.any fun a => a.1 == name then
              { m with aliases := m.aliases.map fun a => if a.1 == name then (name, text) else a }
            else { m with aliases := m.aliases ++ [(name, text)] })
      | none =>
          match m.aliases.lookup arg with
          | some text =>
              let _ ← emit 1 (aliasLine arg text)
          | none =>
              let _ ← emit 2 ("alias: ".toList ++ arg ++ " not found\n".toList)
              status := 1
    return status

def dropAliases (args : List Raw) : Act Nat := do
  let (given, names) ← options "a" args
  if !given.isEmpty then
    modify fun m => { m with aliases := [] }
    return 0
  else
    let mut status := 0
    for name in names do
      let m ← get
      if m.aliases.any fun a => a.1 == name then
        set { m with aliases := m.aliases.filter fun a => a.1 ≠ name }
      else
        let _ ← emit 2 ("unalias: ".toList ++ name ++ " not found\n".toList)
        status := 1
    return status

/-! ### Jobs -/

/-- Shows jobs: those that are named, or all. -/
def listJobs (args : List Raw) : Act Nat := do
  let (given, names) ← options "lp" args
  reap none
  let given := given.map Prod.fst
  if names.isEmpty then showJobs given (← get).places
  else
    for name in names do showJobs given [← requireJob name]
  return 0

/-! ## Permissions -/

/-- Shows or sets the permissions that new files do not get. -/
def mask (args : List Raw) : Act Nat := do
  let (given, args) ← options "S" args
  let m ← get
  let allowed := Mode.masked m.mask 0o777
  match args with
  | [] =>
      let digits := Mode.Class.all.flatMap fun c => Raw.ofNat (Mode.bits m.mask c)
      let left (c : Mode.Class) : Raw := c.letter :: '=' :: Mode.letters (Mode.bits allowed c)
      let text := if given.isEmpty then '0' :: digits
        else [','].intercalate (Mode.Class.all.map left)
      let _ ← emit 1 (text ++ ['\n'])
      return 0
  | text :: _ =>
      if text.head?.any Char.isDigit then
        if Mode.isOctal text then
          set { m with mask := Mode.octal text % 512 }
          return 0
        else failWith ("Illegal number: ".toList ++ text)
      else
        let clauses := (Raw.split ',' text).map fun clause =>
          if clause.all fun l => "ugoa".toList.contains l then clause ++ ['+'] else clause
        match clauses.foldlM (Mode.clause? 0 false) allowed with
        | some allowed =>
            set { m with mask := Mode.masked allowed 0o777 }
            return 0
        | none => failWith ("Illegal mode: ".toList ++ text)

/-- Leaves loops, or goes on with the last of them. Outside of loops this does nothing. -/
def leaveLoops (again : Bool) (args : List Raw) : Act Nat := do
  let count ← match args with
    | text :: _ => requireNumber text
    | [] => pure 1
  if count = 0 then failWith ("Illegal number: ".toList ++ args.headD [])
  else
    let loops := (← get).loops
    if loops = 0 then return 0
    else
      setStatus 0
      throw (.skip (min count loops) again)

/-- Leaves with the status that is given, or else the last one. What happens in a trap does not
count. -/
def leaveWith (exit : Exit) (args : List Raw) : Act Nat := do
  match args with
  | text :: _ => setStatus (← requireNumber text)
  | [] =>
      let m ← get
      if exit = .leave then set { m with status := m.before?.getD m.status }
  throw exit

def shift (args : List Raw) : Act Nat := do
  let count ← match args with
    | text :: _ => requireNumber text
    | [] => pure 1
  let m ← get
  if m.args.length < count then failWith "can\x27t shift that many".toList
  else
    set (m.withArguments (m.args.drop count))
    return 0

/-- The built-in commands that run no other command. None for a name that is none of them. -/
def builtin? (name : Raw) (args : List Raw) : Option (Act Nat) :=
  match String.ofList name with
  | ":" => some (return 0)
  | "alias" => some (makeAliases args)
  | "unalias" => some (dropAliases args)
  | "jobs" => some (listJobs args)
  | "ulimit" => some (bound args)
  | "wait" => some (waitCommand args)
  | "pwd" => some (showDirectory args)
  | "bg" | "fg" => some (resume args)
  | "cd" | "chdir" => some (changeDirectory args)
  | "export" => some (declare "export" ({ · with exported := true }) Variable.exported args)
  | "readonly" => some (declare "readonly" ({ · with fixed := true }) Variable.fixed args)
  | "local" => some (makeLocal args)
  | "unset" => some (unsetAll args)
  | "shift" => some (shift args)
  | "set" => some do
      if args.isEmpty then showVariables [] fun v => v.value?.isSome
      else
        setOptions args
        return 0
  | "trap" => some (traps args)
  | "kill" => some (kill args)
  | "read" => some (readVariables args)
  | "getopts" => some (nextOption args)
  | "umask" => some (mask args)
  | "hash" => some (remember args)
  | "times" => some do
      let _ ← emit 1 "0m0.000000s 0m0.000000s\n0m0.000000s 0m0.000000s\n".toList
      return 0
  | "type" => some do
      let mut status := 0
      for name in args do
        let result ← describe none false name
        if result ≠ 0 then status := result
      return status
  | "break" => some (leaveLoops false args)
  | "continue" => some (leaveLoops true args)
  | "exit" => some (leaveWith .leave args)
  | "return" => some (leaveWith (.back !args.isEmpty) args)
  | _ => none

end SmtScript.Host.Shell
