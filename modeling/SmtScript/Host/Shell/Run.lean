import SmtScript.Host.Shell.Builtin
import SmtScript.Host.Shell.Launch

/-!
# Running shell scripts

A shell expands words, points streams and runs commands, which may be scripts themselves. The
first argument of the mutual functions bounds how deep and how long they go.
-/

namespace SmtScript.Host.Shell

/-! ## Words -/

/-- The home directories of users. -/
def homesOfUsers : List (Raw × Raw) :=
  [("root", "/root"), ("daemon", "/usr/sbin"), ("bin", "/bin"), ("sys", "/dev"),
    ("nobody", "/nonexistent")].map fun (user, home) => (user.toList, home.toList)

/-- A home directory in the place of a tilde at the front of a text, with or without the name of a
user. After the first slash, or where colons count after the first colon, a text goes on as it
is. -/
def homed (homes : List (Raw × Raw)) (colons : Bool) (text : Raw) (isLast : Bool) : Raw :=
  match text with
  | '~' :: rest =>
      let user := rest.takeWhile fun c => !(c == '/' || colons && c == ':')
      let after := rest.drop user.length
      match homes.lookup user with
      | some home => if after.isEmpty && !isLast then text else home ++ after
      | none => text
  | _ => text

/-- The text after each colon, too. -/
def homedAll (homes : List (Raw × Raw)) (text : Raw) (isLast : Bool) : Raw :=
  let pieces := Raw.split ':' text
  [':'].intercalate ((pieces.zipIdx 1).map fun (piece, n) =>
    homed homes true piece (n < pieces.length || isLast))

/-- A word with the home directory in the place of tildes. -/
def withHome (m : Machine) (isValue : Bool) (word : Word) : Word :=
  match word with
  | .text chars false :: rest =>
      if chars.contains '~' then
        let homes := ((m.value? "HOME").map fun home => ([], home)).toList ++ homesOfUsers
        let text := if isValue then homedAll homes chars rest.isEmpty
          else homed homes false chars rest.isEmpty
        .text text (text != chars) :: rest
      else word
  | _ => word

/-- Are there as many values as there are arguments? -/
def areArguments (name : Raw) (quoted full : Bool) : Bool :=
  full && (name = ['@'] || name = ['*'] && !quoted)

/-- The value of a parameter, with a zero byte between arguments that stay apart. -/
def apart (m : Machine) (name : Raw) (quoted full : Bool) (value : Raw) : Raw :=
  if areArguments name quoted full then List.intercalate ['\x00'] m.args else value

/-- A value as pieces. -/
def valuePieces (m : Machine) (name : Raw) (quoted full : Bool) (value : Raw) : List Piece :=
  if areArguments name quoted full && quoted then
    [.arguments (if m.args.isEmpty then [] else Raw.split '\x00' value)]
  else if full && !quoted then [.broken value]
  else [.text value quoted]

/-- Does a pattern accept a text up to its first zero byte? -/
def acceptsUpToZero (pattern : List Pattern.Item) (text : Raw) : Bool :=
  Pattern.accepts pattern (text.takeWhile (· ≠ '\x00'))

/-- The value without the end or the start that a pattern stands for. Each zero byte ends what is
looked at. -/
def cut (front longest : Bool) (pattern : List Pattern.Item) (value : Raw) : Raw :=
  if !value.contains '\x00' then
    if front then Pattern.cutFront pattern longest value else Pattern.cutBack pattern longest value
  else
    let places := List.range (value.length + 1)
    if front then
      let order := if longest then places.reverse else places
      match order.find? fun n => acceptsUpToZero pattern (value.take n) with
      | some n => value.drop n
      | none => value
    else
      let order := if longest then places else places.reverse
      match order.find? fun n => acceptsUpToZero pattern (value.drop n) with
      | some n => value.take n
      | none => value

/-- Without zero bytes. -/
def withoutZeros (text : Raw) : Raw :=
  text.filter (· ≠ '\x00')

/-- The assignments and words of a command, as a trace shows them. -/
def traceLine (assigned : List (Raw × Raw)) (args : List Raw) : Raw :=
  [' '].intercalate (assigned.map (fun a => a.1 ++ '=' :: a.2) ++ args) ++ ['\n']

/-- The letters of the options of `command`, and the command itself. -/
def plainCommand (letters : Raw) (args : List Raw) : Raw × List Raw :=
  match args with
  | ['-', '-'] :: rest => (letters, rest)
  | ('-' :: l :: ls) :: rest => plainCommand (letters ++ l :: ls) rest
  | args => (letters, args)

/-- The command that takes the arguments, which may stand after others that run it. -/
def ruling (fuel : Nat) (m : Machine) (args : List Raw) : Raw :=
  match fuel, args with
  | 0, _ | _, [] => []
  | fuel + 1, name :: args =>
      if name ≠ "command".toList || (m.functions.lookup name).isSome then name
      else
        let (letters, rest) := plainCommand [] args
        if letters.all (· = 'p') then ruling fuel { m with functions := [] } rest else name

/-- The directories in which programs are, whatever the search path says. -/
def standardDirectories : List Raw :=
  ["/usr/local/sbin", "/usr/local/bin", "/usr/sbin", "/usr/bin", "/sbin", "/bin"].map String.toList

/-! ## Flow -/

/-- Ends the shell after a failure, if it was asked to. -/
def exitOnFailure : Act Unit := do
  let m ← get
  if m.has 'e' && !m.tested && m.status ≠ 0 then throw .leave

/-- Runs a command whose status is looked at, or is not. -/
def whileTested (tested : Bool) (body : Act Unit) : Act Unit := do
  let before := (← get).tested
  modify fun m => { m with tested := tested }
  ensuring body (modify fun m => { m with tested := before })

/-- Runs one round of a loop. Says whether the loop goes on. -/
def loopRound (body : Act Unit) : Act Bool := do
  let result ← attempt body
  match result with
  | .ok _ => return true
  | .error (.skip 1 again) => return again
  | .error (.skip (n + 1) again) => throw (.skip n again)
  | .error exit => throw exit

/-- Runs a loop, inside of which one more can be left. After a failure it counts as if it were still
under way. -/
def inLoop (body : Act Unit) : Act Unit := do
  let before := (← get).loops
  modify fun m => { m with loops := before + 1 }
  let result ← attempt body
  match result with
  | .error .fail => throw .fail
  | _ => modify fun m => { m with loops := before }
  match result with
  | .ok _ => return ()
  | .error exit => throw exit

/-- Ends a function or a file where a command says so. -/
def untilBack (body : Act Unit) : Act Unit := do
  let result ← attempt body
  match result with
  | .ok _ | .error (.back _) => return ()
  | .error exit => throw exit

/-- Runs a built-in command. Only if it is special does its failure end the shell. -/
def underName (name : Raw) (special : Bool) (body : Act Nat) : Act Unit := do
  let before := (← get).command
  let count := (← get).saved.length
  modify fun m => { m with command := name }
  let result ← attempt body
  if (← get).spoilt then warn (name ++ ": I/O error".toList)
  let failed := (← get).spoilt
  modify fun m => { m with command := before, spoilt := false }
  match result with
  | .ok status => setStatus (if failed then status ||| 1 else status)
  | .error .fail =>
      if special then throw .fail
      closeFrames ((← get).saved.length + 1) count
      setStatus 2
  | .error exit => throw exit

/-- Was anything asked for on a signal or at the end? -/
def Machine.hasTraps (m : Machine) : Bool :=
  m.traps.any fun t => !t.2.isEmpty

/-- The path of the working directory that a shell begins with. There is none where the directory
was removed. -/
def Machine.firstDirectory (m : Machine) : Raw :=
  let given := (m.value? "PWD").getD []
  if Path.isAbsolute given && m.files.locate? given == some m.working then given
  else (directory? m.working).getD []

/-- The variables that a shell begins with: those it was given, and its own. -/
def Machine.firstVariables (m : Machine) : List (Raw × Variable) :=
  let given := m.vars.filter fun v => v.2.exported
  let own (name : String) (value : Raw) : Raw × Variable :=
    (name.toList, ⟨some value, name = "PWD", false⟩)
  let prompts := [own "PS1" "# ".toList, own "PS2" "> ".toList, own "PS4" "+ ".toList]
  let parent := (m.self?.map Process.parent).getD 0
  let fixed :=
    [own "IFS" standardSeparators, own "OPTIND" ['1'], own "PWD" m.firstDirectory,
      own "PPID" (Raw.ofNat parent)]
  let isOf (vars : List (Raw × Variable)) (v : Raw × Variable) : Bool :=
    vars.any fun other => other.1 == v.1
  fixed ++ given.filter (!isOf fixed ·) ++ prompts.filter (!isOf given ·)

/-- A shell that begins anew in a process: it keeps what other programs are given. -/
def Machine.renewed (m : Machine) (name : Raw) : Machine :=
  { m with
    shell := m.id
    name := name
    args := []
    vars := m.firstVariables
    functions := []
    aliases := []
    found := []
    options := []
    directory := m.firstDirectory
    status := 0
    inner := 0
    traps := []
    deaf := (m.self?.map Process.ignored).getD []
    before? := none
    lastJob? := none
    jobs := []
    saved := []
    loops := 0
    calls := 0
    scripts := 0
    tested := false
    line := 0
    command := []
    optionIndex := 1
    optionPlace := 0
    spoilt := false
    stalled := false }

/-- What a job that goes on beside its shell begins with: it does not hear some signals, and the
first of its processes has nothing to read. -/
def asBackground (isFirst : Bool) : Act Unit := do
  let quiet := [2, 3]
  modify fun m =>
    { m.adjustSelf fun p => { p with ignored := quiet ++ p.ignored } with deaf := quiet ++ m.deaf }
  if isFirst then modify fun m => m.attach 0 (Stream.ofSource .nowhere true false false)

/-- Points streams to their targets for good. Says whether all went well. -/
def openAll (openings : List Opening) : Act Bool := do
  match ← attempt (openings.forM Opening.act) with
  | .ok _ => return true
  | .error .fail => return false
  | .error exit => throw exit

/-- How long it takes until another program has begun in a process. -/
def programCost : Nat := 450000

/-- Begins another program in the process, which gets neither the streams that were kept nor what
was asked for on signals. -/
def beginProgram (called : Raw) : Act Unit := do
  let m ← get
  let shared := m.numbers.filter fun s => s.1 < World.innerNumbers
  let m := m.adjustSelf fun p => { p with streams := shared, caught := [], pending := [] }
  set { m with toWorld := m.toWorld.sweep }
  work programCost
  let m ← get
  let limit? := m.self?.bind fun p => p.bound? .files
  if limit?.any (· ≤ m.freeNumber 0) then
    let _ ← emit 2 (called ++ ": error while loading shared libraries: libc.so.6: ".toList
      ++ "cannot open shared object file: Error 24\n".toList)
    setStatus 127
    throw .leave

/-- How long a command takes by itself. -/
def commandCost : Nat := 2000

/-- The room for the scripts that are under way, each within the one before. -/
def scriptLimit : Nat := 18000

/-- Runs a script within the one that is under way, for which it takes some room. -/
def deeper {α : Type} (room : Nat) (body : Act α) : Act α := do
  let m ← get
  if scriptLimit ≤ m.scripts then crash Signal.segment
  else
    set { m with scripts := m.scripts + room }
    ensuring body (modify fun after => { after with scripts := m.scripts })

/-- How many functions can be under way. -/
def callLimit : Nat := 1000

/-- A script as it is read. -/
structure Supply where
  /-- What was read and not yet run. -/
  text : Raw
  /-- The number of the first line of that. -/
  line : Nat
  /-- The number of the stream from which more comes. -/
  more? : Option Nat
  /-- Does the shell end with the script? -/
  isMain : Bool
  /-- Was the next command asked for? -/
  asked : Bool

/-- A script that is run within another one. -/
def Supply.inner (text : Raw) (more? : Option Nat) : Supply :=
  ⟨text, 1, more?, false, false⟩

/-- So much of a script is read at once. -/
def supplyLimit : Nat := 8192

/-- Where programs are for whoever logs in. -/
def loginPath : Raw :=
  [':'].intercalate standardDirectories

/-- Reads the options of a shell. Gives the other arguments, and says whether the first of them is
the script. Options that nobody has switched off are shown as if they were on. -/
def invocation (args : List Raw) : Act (Bool × List Raw) := do
  let (here, rest) := settings args.length args
  let mut isText := false
  let mut isLogin := false
  let mut dropped : List Char := []
  for setting in here do
    match setting with
    | .letter 'c' _ => isText := true
    | .letter 'l' _ => isLogin := true
    | .letter l on =>
        switchLetter l on
        dropped := if on then dropped.filter (· ≠ l) else l :: dropped
    | .name text on =>
        let key ← keyOf text
        switch key on
        dropped := if on then dropped.filter (· ≠ key) else key :: dropped
    | .list asCommands => showOptions asCommands (!dropped.contains ·)
  let rest := if rest.head? = some ['-'] || rest.head? = some ['-', '-'] then rest.drop 1 else rest
  if rest.isEmpty then
    if isText then failWith "-c requires an argument".toList
    switch 's' true
  if (← get).has 'i' && !dropped.contains 'm' then switch 'm' true
  if isLogin then assignExported "PATH".toList loginPath
  return (isText, rest)

/-! ## Commands -/

mutual

def expandParts (fuel : Nat) (full breaks : Bool) (parts : List Part) : Act (List Piece) :=
  match fuel with
  | 0 => stay
  | fuel + 1 => do
      match parts with
      | [] => return []
      | part :: others =>
          let pieces ← expandPart fuel full breaks part
          if part.isLast then return pieces
          return pieces ++ (← expandParts fuel full breaks others)

/-- The pieces of a part. With `full`, what comes of expansions is broken into fields, and with
`breaks` plain text is, too. -/
def expandPart (fuel : Nat) (full breaks : Bool) (part : Part) : Act (List Piece) :=
  match fuel with
  | 0 => stay
  | fuel + 1 => do
      let result (text : Raw) (quoted : Bool) : List Piece :=
        if full && !quoted then [.broken text] else [.text text quoted]
      match part with
      | .text chars quoted =>
          return [if breaks && !quoted then .broken chars else .text chars quoted]
      | .mark => return [.mark]
      | .param name op orEmpty word quoted => expandParam fuel full name op orEmpty word quoted
      | .output script quoted => return result (← capture fuel script) quoted
      | .arithmetic expression quoted =>
          let pieces ← expandParts fuel false false expression
          return result (Decimal.signed (← calculate (joined pieces))) quoted

def expandParam (fuel : Nat) (full : Bool) (name : Raw) (op : ParamOp) (orEmpty : Bool)
    (word : List Part) (quoted : Bool) : Act (List Piece) :=
  match fuel with
  | 0 => stay
  | fuel + 1 => do
      let m ← get
      let value? := m.lookup? name
      let value := value?.getD []
      let isThere := value?.isSome && !(orEmpty && value.isEmpty)
      let expandWord : Act (List Piece) := do
        let word := if quoted then word else withHome m false word
        expandParts fuel full (full && !quoted) word
      let require : Act Unit := do
        if value?.isNone && m.has 'u' && name ≠ ['@'] && name ≠ ['*'] then
          failWith (name ++ ": parameter not set".toList)
      match op with
      | .value =>
          require
          return valuePieces m name quoted full (apart m name quoted full value)
      | .length =>
          require
          return if full && !quoted then [.broken (Raw.ofNat value.length)]
            else [.text (Raw.ofNat value.length) quoted]
      | .fallback => if isThere then return valuePieces m name quoted full (apart m name quoted full value) else expandWord
      | .replacement => if isThere then expandWord else return []
      | .assignment =>
          if isThere then return valuePieces m name quoted full (apart m name quoted full value)
          else
            let text := joined (← expandParts fuel false false word)
            let name ← requireName name
            assign name text
            return if full && !quoted then [.broken text] else [.text text quoted]
      | .demand =>
          if isThere then return valuePieces m name quoted full (apart m name quoted full value)
          else
            let text := joined (← expandParts fuel false false word)
            let message := if !word.isEmpty then text
              else if orEmpty then "parameter not set or null".toList
              else "parameter not set".toList
            failWith (name ++ ": ".toList ++ message)
      | .cutFront longest =>
          require
          let pattern := Pattern.ofMarked (joinedMarked (← expandParts fuel false false word))
          let text := cut true longest pattern (apart m name quoted full value)
          return valuePieces m name quoted full text
      | .cutBack longest =>
          require
          let pattern := Pattern.ofMarked (joinedMarked (← expandParts fuel false false word))
          let text := cut false longest pattern (apart m name quoted full value)
          return valuePieces m name quoted full text
      | .last =>
          require
          let value := valuePieces m name quoted full (apart m name quoted full value)
          return value ++ (← expandWord)
      | .unknown => failWith "Bad substitution".toList

/-- What a script writes, without the line feeds at its end. -/
def capture (fuel : Nat) (script : Script) : Act Raw :=
  match fuel with
  | 0 => stay
  | fuel + 1 => do
      let place ← newJob
      let ends ← newPipe
      let m ← get
      let _ ← forkInto place [(1, m.placeAt ends.writer)] do
        modify fun m => { m with tested := false, status := if script.isEmpty then 0 else m.status }
        asShell fuel (runList fuel true script)
      close ends.writer
      let text ← readAll endless (m.placeAt ends.reader) []
      close ends.reader
      let status ← waitUp place
      modify fun m => { m with inner := status }
      return trimEnd (withoutZeros text)

/-- The text of a word that is one field. -/
def textOf (fuel : Nat) (isValue : Bool) (word : Word) : Act Raw :=
  match fuel with
  | 0 => stay
  | fuel + 1 => do
      return joined (← expandParts fuel false false (withHome (← get) isValue word))

def patternOf (fuel : Nat) (word : Word) : Act (List Pattern.Item) :=
  match fuel with
  | 0 => stay
  | fuel + 1 => do
      let pieces ← expandParts fuel false false (withHome (← get) false word)
      return Pattern.ofMarked (joinedMarked pieces)

/-- The fields of a word, with the paths that patterns stand for. -/
def fieldsOf (fuel : Nat) (word : Word) : Act (List Raw) :=
  match fuel with
  | 0 => stay
  | fuel + 1 => do
      let pieces ← expandParts fuel true false (withHome (← get) false word)
      let m ← get
      let fields := Fields.ofPieces m.separators pieces
      return if m.has 'f' then fields.map Marked.text else fields.flatMap (paths m.here)

/-- The fields of the words of a command. After some commands an assignment is one field. -/
def argumentsOf (fuel : Nat) (before : List Raw) (words : List Word) : Act (List Raw) :=
  match fuel with
  | 0 => stay
  | fuel + 1 => do
      match words with
      | [] => return before
      | word :: others =>
          let m ← get
          let fields ←
            match if assigns (ruling (before.length + 1) m before) then assignment? word else none with
            | some (assigned, value) => do
                pure [assigned ++ '=' :: (← textOf fuel true value)]
            | none => fieldsOf fuel word
          argumentsOf fuel (before ++ fields) others

/-- The redirections with the texts of their targets. -/
def openingsOf (fuel : Nat) (redirects : List Redirect) : Act (List Opening) :=
  match fuel with
  | 0 => stay
  | fuel + 1 => do
      match redirects with
      | [] => return []
      | redirect :: others =>
          let opening ← match redirect with
            | .here stream number => do
                let body := ((← get).bodies.lookup number).getD []
                pure (Opening.text stream (joined (← expandParts fuel false false body)))
            | .mk stream .duplicate target => do
                let text ← textOf fuel false target
                match text with
                | ['-'] => pure (Opening.copy stream none)
                | [d] =>
                    if d.isDigit then pure (Opening.copy stream (some (d.toNat - '0'.toNat)))
                    else failWith "Syntax error: Bad fd number".toList
                | _ => failWith "Syntax error: Bad fd number".toList
            | .mk stream kind target => do
                pure (Opening.file stream kind (← textOf fuel false target))
          return opening :: (← openingsOf fuel others)

/-- Does something while streams are redirected, if they can be. Says whether they could. -/
def redirected (fuel : Nat) (redirects : List Redirect) (body : Act Unit) : Act Bool :=
  match fuel with
  | 0 => stay
  | fuel + 1 => do
      let openings ← openingsOf fuel redirects
      let (kept, done) ← openKeeping [] openings
      ensuring
        (do
          if done then body else setStatus 2
          return done)
        (bringBack kept)

/-- Runs commands in the order in which they stand. The last one may take the place of the shell
if nothing else follows. -/
def runList (fuel : Nat) (final : Bool) (script : Script) : Act Unit :=
  match fuel with
  | 0 => stay
  | fuel + 1 => do
      match script with
      | [] => return ()
      | command :: others =>
          if (← get).has 'n' then return ()
          runCommand fuel (final && others.isEmpty) command
          runList fuel final others

/-- Runs a command, and what was asked for on the signals that come before it or meanwhile. -/
def runCommand (fuel : Nat) (final : Bool) (command : Command) : Act Unit :=
  match fuel with
  | 0 => stay
  | fuel + 1 => do
      work commandCost
      handleSignals fuel
      let counts ← runKind fuel final command
      handleSignals fuel
      if counts then exitOnFailure

/-- Runs a command by its kind. Says whether its failure may end the shell. Commands that are made
of others leave that to those. -/
def runKind (fuel : Nat) (final : Bool) (command : Command) : Act Bool :=
  match fuel with
  | 0 => stay
  | fuel + 1 => do
      match command with
      | .simple line assignments words redirects =>
          modify fun m => { m with line := line, inner := 0 }
          match ← attempt (runSimple fuel final assignments words redirects) with
          | .ok _ => return true
          | .error (.back given) => do
              exitOnFailure
              throw (.back given)
          | .error exit => throw exit
      | .subshell line body redirects =>
          modify fun m => { m with line := line }
          let openings ← openingsOf fuel redirects
          if final && !(← get).hasTraps then
            openings.forM Opening.act
            runList fuel true body
            throw .leave
          else
            let place ← newJob
            let _ ← forkInto place [] (asShell fuel do
              openings.forM Opening.act
              runList fuel true body)
            setStatus (← waitUp place)
            return true
      | .group body =>
          runList fuel final body
          return false
      | .redirected line command redirects =>
          modify fun m => { m with line := line }
          return !(← redirected fuel redirects (runCommand fuel false command))
      | .pipeline commands =>
          let place ← newJob
          runStages fuel place false none commands
          setStatus (← waitUp place)
          return true
      | .negate command =>
          whileTested true (runCommand fuel false command)
          modify fun m => { m with status := if m.status = 0 then 1 else 0 }
          return false
      | .andThen first second =>
          whileTested true (runCommand fuel false first)
          if (← get).status = 0 then runCommand fuel final second
          return false
      | .orElse first second =>
          whileTested true (runCommand fuel false first)
          if (← get).status ≠ 0 then runCommand fuel final second
          return false
      | .branch condition body otherwise =>
          whileTested true (runList fuel false condition)
          if (← get).status = 0 then runList fuel final body
          else if otherwise.isEmpty then setStatus 0
          else runList fuel final otherwise
          return false
      | .loop condition body onSuccess =>
          inLoop (runLoop fuel condition body onSuccess 0)
          return false
      | .forEach line name items body =>
          modify fun m => { m with line := line }
          let values ← argumentsOf fuel [] items
          if values.isEmpty then setStatus 0
          inLoop (runFor fuel name values body)
          return false
      | .choose line subject cases =>
          modify fun m => { m with line := line }
          let text ← textOf fuel false subject
          choose fuel final text cases
          return false
      | .define name body =>
          modify fun m =>
            { m with functions := (name, body) :: m.functions.filter (fun f => f.1 ≠ name)
                     status := 0 }
          return false
      | .job line command =>
          modify fun m => { m with line := line }
          let place ← newJob
          match command with
          | .pipeline commands => runStages fuel place true none commands
          | _ =>
              let _ ← forkInto place [] (asShell fuel do
                asBackground true
                modify fun m => { m with tested := false }
                runBackground fuel command)
          modify fun m =>
            { m with lastJob? := (m.job? place).map Job.lastId, status := 0 }
          return false

/-- Runs a command that nobody waits for yet. Its redirections are there for good. -/
def runBackground (fuel : Nat) (command : Command) : Act Unit :=
  match fuel with
  | 0 => stay
  | fuel + 1 => do
      match command with
      | .redirected line command redirects =>
          modify fun m => { m with line := line }
          let openings ← openingsOf fuel redirects
          openings.forM Opening.act
          runCommand fuel true command
      | .subshell line body redirects =>
          modify fun m => { m with line := line }
          let openings ← openingsOf fuel redirects
          openings.forM Opening.act
          runList fuel true body
      | _ => runCommand fuel true command

/-- Does what was asked for on the signals that have come. -/
def handleSignals (fuel : Nat) : Act Unit :=
  match fuel with
  | 0 => stay
  | fuel + 1 => do
      let m ← get
      match (m.self?.map Process.pending).getD [] with
      | [] => return ()
      | signals =>
          set (m.adjustSelf fun p => { p with pending := [] })
          runTraps fuel signals

/-- Runs the actions on some signals, one after the other. -/
def runTraps (fuel : Nat) (signals : List Nat) : Act Unit :=
  match fuel with
  | 0 => stay
  | fuel + 1 => do
      match signals with
      | [] => return ()
      | signal :: others =>
          let m ← get
          match m.traps.lookup signal with
          | none | some [] =>
              if signal = Signal.interrupt && m.talks then
                let _ ← emit 2 ['\n']
                setStatus (128 + signal)
                throw .fail
          | some action =>
              let status := m.before?.getD m.status
              set { m with before? := some status }
              let result ← attempt (whileTested false (runText fuel action))
              modify fun after => { after with before? := m.before? }
              match result with
              | .ok _ => setStatus status
              | .error (.skip count again) => do
                  setStatus status
                  throw (.skip count again)
              | .error exit => throw exit
          runTraps fuel others

/-- Runs what follows the first pattern that accepts a text. -/
def choose (fuel : Nat) (final : Bool) (text : Raw) (cases : List (List Word × Script)) :
    Act Unit :=
  match fuel with
  | 0 => stay
  | fuel + 1 => do
      match cases with
      | [] => setStatus 0
      | ([], _) :: others => choose fuel final text others
      | (pattern :: patterns, body) :: others =>
          if Pattern.accepts (← patternOf fuel pattern) text then
            if body.isEmpty then setStatus 0 else runList fuel final body
          else choose fuel final text ((patterns, body) :: others)

def runLoop (fuel : Nat) (condition body : Script) (onSuccess : Bool) (status : Nat) : Act Unit :=
  match fuel with
  | 0 => stay
  | fuel + 1 => do
      match ← attempt (whileTested true (runList fuel false condition)) with
      | .ok _ =>
          if ((← get).status = 0) = onSuccess then
            if ← loopRound (runList fuel false body) then
              runLoop fuel condition body onSuccess (← get).status
          else setStatus status
      | .error (.skip count again) =>
          setStatus status
          if ← loopRound (throw (.skip count again)) then
            runLoop fuel condition body onSuccess status
      | .error (.back false) => do
          setStatus status
          throw (.back false)
      | .error exit => throw exit

def runFor (fuel : Nat) (name : Raw) (values : List Raw) (body : Script) : Act Unit :=
  match fuel with
  | 0 => stay
  | fuel + 1 => do
      match values with
      | [] => return ()
      | value :: others =>
          assign name value
          if ← loopRound (runList fuel false body) then runFor fuel name others body

/-- Begins commands side by side as the processes of a job, each with what the one before it
writes as its input. -/
def runStages (fuel : Nat) (place : Nat) (isBackground : Bool) (input? : Option Nat)
    (commands : List Command) : Act Unit :=
  match fuel with
  | 0 => stay
  | fuel + 1 => do
      match commands with
      | [] => return ()
      | command :: others =>
          let ends? ← if others.isEmpty then pure none else some <$> newPipe
          let m ← get
          let input := input?.map fun number => (0, m.placeAt number)
          let output := ends?.map fun ends => (1, m.placeAt ends.writer)
          let _ ← forkInto place (input.toList ++ output.toList) (asShell fuel do
            if isBackground then asBackground input?.isNone
            runCommand fuel true command)
          if let some number := input? then close number
          if let some ends := ends? then close ends.writer
          runStages fuel place isBackground (ends?.map Ends.reader) others

/-- A simple command: assignments, words and redirections. -/
def runSimple (fuel : Nat) (final : Bool) (assignments : List (Raw × Word)) (words : List Word)
    (redirects : List Redirect) : Act Unit :=
  match fuel with
  | 0 => stay
  | fuel + 1 => do
      let args ← argumentsOf fuel [] words
      let openings ← openingsOf fuel redirects
      let name := args.headD []
      let isExec := name = "exec".toList && args.length ≤ 1
      let m ← get
      let isTraced := m.has 'x'
      let messages := if isTraced then m.freeNumber World.privateNumbers else 0
      if isTraced then set (m.pointTo messages (m.numbers.lookup 2))
      let (kept, done) ← if isExec then do
          pure ([], ← openAll openings)
        else openKeeping [] openings
      ensuring
        (do
          if !done then
            setStatus 2
            if isSpecial name then throw .fail
          else
            let special := args.isEmpty || isSpecial name
            let run : Act Unit := do
              let assigned ← assignAll fuel special (name = "exec".toList && 1 < args.length)
                assignments
              if isTraced then
                if !(assigned.isEmpty && args.isEmpty) then
                  trace fuel messages (traceLine assigned args)
                close messages
              match args with
              | [] => modify fun m => { m with status := m.inner }
              | name :: args => runNamed fuel final true none (isSpecial name) name args
            if special then run else inFrame run)
        (do
          if isTraced then close messages
          if !isExec then bringBack kept)
      if let some last := args.getLast? then
        if m.has 'i' && m.calls = 0 then assign ['_'] last

/-- The value of a variable as a text in which parameters stand for their values. Where it is no
such text, it is taken as it is. -/
def markOf (fuel : Nat) (name : String) : Act Raw :=
  match fuel with
  | 0 => stay
  | fuel + 1 => do
      let m ← get
      let mark := (m.value? name).getD []
      set { m with options := m.options.filter (· ≠ 'x') }
      let result ← attempt do
        match readQuoted m.stalled mark with
        | .ok (parts, stalled) =>
            modify fun m => { m with stalled := stalled }
            return joined (← expandParts fuel false false parts)
        | .error e =>
            modify fun m => { m with stalled := false, line := e.line }
            failWith ("Syntax error: ".toList ++ e.message)
      modify fun after => { after with options := m.options, line := m.line, inner := m.inner }
      match result with
      | .ok text => return text
      | .error _ => return mark

/-- Shows a command where messages went before its redirections. -/
def trace (fuel : Nat) (number : Nat) (line : Raw) : Act Unit :=
  match fuel with
  | 0 => stay
  | fuel + 1 => do
      let mark ← markOf fuel "PS4"
      let _ ← emit number (mark ++ line)

/-- Asks for so many lines, if the shell talks with somebody. -/
def ask (fuel : Nat) (name : String) (count : Nat) : Act Unit :=
  match fuel, count with
  | 0, _ => stay
  | _, 0 => return ()
  | fuel + 1, count + 1 => do
      if (← get).talks then
        let mark ← markOf fuel name
        let _ ← emit 2 mark
        ask fuel name count

/-- What a shell does at the end of its main script. -/
def partings (fuel : Nat) (count : Nat) : Act Unit :=
  match fuel, count with
  | 0, _ => stay
  | fuel + 1, 0 => ask fuel "PS1" 1
  | fuel + 1, count + 1 => do
      let m ← get
      if m.has 'I' then
        let _ ← emit 2 "\nUse \"exit\" to leave shell.\n".toList
        if count ≠ 0 then ask fuel "PS1" 1
        partings fuel count
      else if m.has 'i' then
        let _ ← emit 2 ['\n']

/-- Gives variables their values: for good, or for the command only. -/
def assignAll (fuel : Nat) (lasting exported : Bool) (assignments : List (Raw × Word)) :
    Act (List (Raw × Raw)) :=
  match fuel with
  | 0 => stay
  | fuel + 1 => do
      match assignments with
      | [] => return []
      | (name, word) :: others =>
          let value ← textOf fuel true word
          if lasting then
            assign name value
            if exported then modify fun m => m.putVariable name ⟨some value, true, false⟩
          else
            modify fun m => m.remember name
            assignExported name value
          return (name, value) :: (← assignAll fuel lasting exported others)

/-- Runs the command of a name: a built-in one, a function, or a program. -/
def runNamed (fuel : Nat) (final functions : Bool) (places? : Option (List Raw)) (special : Bool)
    (name : Raw) (args : List Raw) : Act Unit :=
  match fuel with
  | 0 => stay
  | fuel + 1 => do
      let m ← get
      match if functions && !isSpecial name then m.functions.lookup name else none with
      | some body => callFunction fuel body args
      | none =>
          if name = "command".toList then runCalled fuel final places? args
          else if isBuiltin name then underName name special (runBuiltin fuel name args)
          else
            match m.programPath? places? name with
            | none =>
                if name.contains '/' then
                  let status ← inChild (launch fuel places? none name args)
                  setStatus status
                else
                  warn (name ++ ": ".toList ++ (m.whyNotFound places? name).shellText)
                  setStatus 127
            | some path =>
                if places?.isNone then set (m.remembering name path)
                if final && !m.hasTraps then
                  launch fuel places? (some path) name args
                  throw .leave
                else
                  let status ← inChild (launch fuel places? (some path) name args)
                  setStatus status

/-- Runs a command that is no function, or says what it is. -/
def runCalled (fuel : Nat) (final : Bool) (places? : Option (List Raw)) (args : List Raw) :
    Act Unit :=
  match fuel with
  | 0 => stay
  | fuel + 1 => do
      let (letters, rest) := plainCommand [] args
      let own? := if letters.contains 'p' then some standardDirectories else none
      match letters.find? fun l => !"pvV".toList.contains l, rest with
      | some l, _ =>
          underName "command".toList false (failWith ("Illegal option -".toList ++ [l]))
      | none, [] => setStatus 0
      | none, inner :: args =>
          if letters.all (· = 'p') then runNamed fuel final false (own?.or places?) false inner args
          else underName "command".toList false (describe own? (!letters.contains 'V') inner)

/-- The built-in commands that run other commands, and all others. -/
def runBuiltin (fuel : Nat) (name : Raw) (args : List Raw) : Act Nat :=
  match fuel with
  | 0 => stay
  | fuel + 1 => do
      let m ← get
      match String.ofList name with
      | "eval" =>
          runLasting fuel (.inner ([' '].intercalate args) none)
          return (← get).status
      | "." =>
          match (← options "" args).2 with
          | [] => return 0
          | path :: _ =>
              match m.scriptPath? path with
              | none => failWith (path ++ ": not found".toList)
              | some file =>
                  let number := m.freeNumber World.innerNumbers
                  openAt number file .input
                  modify fun m => { m with command := file }
                  let script := whileTested false (runLasting fuel (.inner [] (some number)))
                  ensuring (untilBack script) do
                    close number
                    modify fun after => { after with command := m.command }
                  return (← get).status
      | "exec" =>
          match args with
          | [] => return 0
          | program :: args =>
              launch fuel none none program args
              throw .leave
      | _ =>
          match builtin? name args with
          | some body => body
          | none =>
              match Utility.builtin.lookup (String.ofList name) with
              | some utility => runInner name (utility (innerCall m name args))
              | none => return 0

def callFunction (fuel : Nat) (body : Command) (args : List Raw) : Act Unit :=
  match fuel with
  | 0 => stay
  | fuel + 1 => do
      let m ← get
      if callLimit ≤ m.calls then
        failWith "Maximum function recursion depth (1000) reached".toList
      set { m.withArguments args with loops := 0, calls := m.calls + 1 }
      ensuring (untilBack (runCommand fuel false body))
        (modify fun after =>
          { after with
            args := m.args, optionIndex := m.optionIndex, optionPlace := m.optionPlace
            loops := m.loops, calls := m.calls })
      reap none

/-- Runs the program of a name in the place of the shell. -/
def launch (fuel : Nat) (places? : Option (List Raw)) (found? : Option Raw) (name : Raw)
    (args : List Raw) : Act Unit :=
  match fuel with
  | 0 => stay
  | fuel + 1 => do
      match (← get).runnable places? found? name args with
      | .error reason =>
          warn (name ++ ": ".toList ++ reason.shellText)
          setStatus reason.shellStatus
      | .ok path =>
          modify Machine.handedOver
          runProgram fuel path name args

/-- Runs a program in the place of the process. -/
def runProgram (fuel : Nat) (path called : Raw) (args : List Raw) : Act Unit :=
  match fuel with
  | 0 => stay
  | fuel + 1 => do
      let m ← get
      match Image.of m.forRunning path called args with
      | .refused reason => setStatus reason.status
      | .plain =>
          beginProgram called
          runShell fuel called (path :: args)
      | .program name called args =>
          beginProgram called
          match name with
          | "sh" | "dash" => runShell fuel called args
          | "cat" =>
              match plainCat? args with
              | some paths => setStatus (← passAll called paths)
              | none => runUtility name called args
          | "tee" => tee called args
          | "env" =>
              let m ← get
              let c := callOf m called args []
              let (told, asked) := Surroundings.prepared c ((m.self?.map Process.ignored).getD [])
              let _ ← emit 2 told
              match asked with
              | .ok s => runWithin fuel c s
              | .error e => runTool called e
          | "timeout" =>
              let c := callOf (← get) called args []
              match Limit.ofCall c with
              | .ok limit =>
                  let before := "failed to run command ".toList
                  startNamed fuel c before (some limit) limit.name limit.args
              | .error e => runTool called e
          | "nohup" => runDeaf fuel called args
          | "nice" => runNice fuel called args
          | _ => runUtility name called args

/-- Starts a program by its name, under a limit if there is one. -/
def startNamed (fuel : Nat) (c : Call) (before : Raw) (limit? : Option Limit)
    (name : Raw) (args : List Raw) : Act Unit :=
  match fuel with
  | 0 => stay
  | fuel + 1 => do
      let m ← get
      match m.launchable name args, limit? with
      | .ok path, some limit => underLimit limit (runProgram fuel path name args)
      | .ok path, none => runProgram fuel path name args
      | .error reason, _ =>
          runTool c.name (.failing c reason.status (before ++ Citation.escaped name ++ ": ".toList
            ++ reason.text))

/-- Starts a program with other variables, or shows them. -/
def runWithin (fuel : Nat) (c : Call) (s : Surroundings) : Act Unit :=
  match fuel with
  | 0 => stay
  | fuel + 1 => do
      s.enter
      let m ← get
      match s.command with
      | [] => runTool c.name (s.shown (callOf m c.name c.args []))
      | name :: args =>
          startNamed fuel c [] none name args
          if name.contains ' ' && (← get).status = 127 then
            let hint := ": use -[v]S to pass options in shebang lines\n".toList
            let _ ← emit 2 (c.name ++ hint)

/-- Starts a program that does not hear when a terminal is gone. -/
def runDeaf (fuel : Nat) (called : Raw) (args : List Raw) : Act Unit :=
  match fuel with
  | 0 => stay
  | fuel + 1 => do
      let c := callOf (← get) called args []
      let o := Utility.Options.read [] true args
      match o.over c 125 () (fun _ _ _ => .ok ()), o.operands with
      | .error e, _ => runTool called e
      | .ok _, [] => runTool called (Utility.misused c 125 "missing operand".toList)
      | .ok _, name :: args =>
          modify fun m => m.adjustSelf fun p => { p with ignored := 1 :: p.ignored }
          startNamed fuel c "failed to run command ".toList none name args

/-- Starts a program that lets others go first. -/
def runNice (fuel : Nat) (called : Raw) (args : List Raw) : Act Unit :=
  match fuel with
  | 0 => stay
  | fuel + 1 => do
      let m ← get
      let c := callOf m called args []
      let niceness := (m.self?.map Process.niceness).getD 0
      match Adjustment.ofArgs c (args.length + 1) none args with
      | .error e => runTool called e
      | .ok a =>
          match a.number?, a.command with
          | none, _ =>
              let text := Citation.escaped (a.given?.getD [])
              runTool called (.failing c 125 ("invalid adjustment ".toList ++ text))
          | some _, [] =>
              runTool called (if a.given?.isNone then .saying c (Decimal.signed niceness ++ ['\n'])
                else Utility.misused c 125 "a command must be given with an adjustment".toList)
          | some n, name :: args =>
              let niceness := max (-20) (min 19 (niceness + n))
              modify fun m => m.adjustSelf fun p => { p with niceness := niceness }
              startNamed fuel c [] none name args

/-- A shell with its arguments, in the place of the process. -/
def runShell (fuel : Nat) (called : Raw) (args : List Raw) : Act Unit :=
  match fuel with
  | 0 => stay
  | fuel + 1 => do
      let m ← get
      if m.firstDirectory.isEmpty then
        let _ ← emit 2 "sh: 0: getcwd() failed: No such file or directory\n".toList
      modify fun m => m.renewed called
      asShell fuel do
        let (isText, rest) ← invocation args
        let fromInput := (← get).has 's'
        let (script?, name, args) := match isText, fromInput, rest with
          | true, _, text :: rest => (some text, rest.headD called, rest.drop 1)
          | false, false, path :: rest => (none, path, rest)
          | _, _, args => (none, called, args)
        modify fun m => { m with name := if script?.isSome || fromInput then name else called }
        let number := (← get).freeNumber World.innerNumbers
        if script?.isNone && !fromInput then
          if let some reason ← openFile false number name .input then
            failWith ("cannot open ".toList ++ name ++ ": ".toList ++ reason)
        modify fun m => { m with name := name, args := args }
        settleOptions
        modify fun m => { m with line := 1 }
        if (← get).talks then runProfile fuel
        match script? with
        | some text =>
            let talks := (← get).talks
            match ← attempt (runText fuel text) with
            | .ok _ => if fromInput then runInput fuel
            | .error (.back given) => if fromInput then runInput fuel else throw (.back given)
            | .error .fail => if talks then runInput fuel else throw .fail
            | .error exit => throw exit
        | none => if fromInput then runInput fuel else runMain fuel ⟨[], 1, some number, true, false⟩

/-- Runs the script that a shell looks at first if it talks with somebody. -/
def runProfile (fuel : Nat) : Act Unit :=
  match fuel with
  | 0 => stay
  | fuel + 1 => do
      let path ← markOf fuel "ENV"
      let number := (← get).freeNumber World.innerNumbers
      if path.isEmpty || (← openFile false number path .input).isSome then return ()
      let script := ensuring (runSupply fuel (.inner [] (some number)) false) (close number)
      match ← attempt script with
      | .ok _ | .error (.back _) => return ()
      | .error .fail => do closeFrames ((← get).saved.length + 1) 0
      | .error exit => throw exit

/-- Runs the script that is the input. -/
def runInput (fuel : Nat) : Act Unit :=
  match fuel with
  | 0 => stay
  | fuel + 1 => do
      let m ← get
      runMain fuel ⟨[], 1, (m.readable? 0).map fun _ => 0, true, false⟩

/-- Runs the main script. A shell that talks with somebody goes on with what comes after a
failure. -/
def runMain (fuel : Nat) (s : Supply) : Act Unit :=
  match fuel with
  | 0 => stay
  | fuel + 1 => do
      match ← attempt (runSupply fuel s false) with
      | .ok _ => return ()
      | .error .fail =>
          let m ← get
          if !m.talks then throw .fail
          closeFrames (m.saved.length + 1) 0
          runMain fuel { s with text := [], line := m.line + 1 }
      | .error exit => throw exit

/-- Runs a script that is a text. -/
def runText (fuel : Nat) (text : Raw) : Act Unit :=
  match fuel with
  | 0 => stay
  | fuel + 1 => do
      let _ ← deeper 2 (runSupply fuel (.inner text none) false)

/-- Runs a script line by line. Says whether there was any command. -/
def runSupply (fuel : Nat) (s : Supply) (ran : Bool) : Act Bool :=
  match fuel with
  | 0 => stay
  | fuel + 1 => do
      if s.isMain && !s.asked then ask fuel "PS1" 1
      let s := { s with asked := true }
      let m ← get
      let start (text : Raw) : Reading := Reading.start text s.line m.nextBody m.aliases
      match if s.text.isEmpty then (.more, []) else front endless 1 s.more?.isNone s.text start with
      | (.more, _) =>
          match s.more? with
          | none =>
              modify fun m => { m with stalled := true }
              if s.isMain then partings fuel 50
              return ran
          | some number =>
              let here ← readSome (m.placeAt number) supplyLimit
              if here.isEmpty then runSupply fuel { s with more? := none } ran
              else runSupply fuel { s with text := s.text ++ withoutZeros here } ran
      | (.wrong line message, _) =>
          if s.isMain then ask fuel "PS2" (line - s.line)
          modify fun m => { m with line := line }
          failWith ("Syntax error: ".toList ++ message)
      | (.commands script after, rest) =>
          let taken := s.text.take (s.text.length - rest.length)
          if s.isMain then
            let ended := if taken.getLast? = some '\n' then 1 else 0
            ask fuel "PS2" (after.line - s.line - ended)
          if m.has 'v' && s.more?.isSome then
            let _ ← emit 2 taken
          modify fun m =>
            { m with nextBody := after.next, bodies := after.bodies ++ m.bodies
                     stalled := after.ended }
          runList fuel false script
          runSupply fuel { s with text := rest, line := after.line, asked := false }
            (ran || !script.isEmpty)

/-- Runs a script in the shell that is under way. Without a command this succeeds. -/
def runLasting (fuel : Nat) (s : Supply) : Act Unit :=
  match fuel with
  | 0 => stay
  | fuel + 1 => do
      let room := if s.more?.isSome then 3 else 2
      if !(← deeper room (runSupply fuel s false)) then setStatus 0

/-- Runs a shell to its end, with what it is asked to do then. -/
def asShell (fuel : Nat) (body : Act Unit) : Act Unit :=
  match fuel with
  | 0 => stay
  | fuel + 1 => do
      let _ ← attempt body
      let m ← get
      match m.traps.lookup 0 with
      | none | some [] => return ()
      | some action =>
          set { m with traps := m.traps.filter (fun t => t.1 ≠ 0), before? := some m.status
                       loops := 0 }
          match ← attempt (whileTested false (runText fuel action)) with
          | .error .leave | .error .fail => return ()
          | _ => setStatus m.status

end

end SmtScript.Host.Shell
