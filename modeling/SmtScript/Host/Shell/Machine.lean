import SmtScript.Host.Kernel.Task
import SmtScript.Host.Shell.Field
import SmtScript.Host.Shell.Reader

/-!
# The state of a shell

A shell has arguments, variables, traps, jobs and what else a copy of it starts with. It acts on
the world that it shares with the other processes of its host. An action may pause, so that others
take their turns, and it may end in more than one way.
-/

namespace SmtScript.Host.Shell

/-- A variable may have no value, and still be handed on or fixed. -/
structure Variable where
  value? : Option Raw
  exported : Bool
  fixed : Bool

/-- Processes that a shell has begun together. -/
structure Job where
  /-- The processes, in the order of a pipeline. -/
  ids : List Nat
  /-- How those ended of which the shell knows it. -/
  fates : List (Nat × Fate)
  /-- Was it asked how the job ended? -/
  waited : Bool

namespace Job

def isDone (j : Job) : Bool :=
  j.ids.all fun id => j.fates.any fun f => f.1 == id

/-- The process that the whole job is known by. -/
def lastId (j : Job) : Nat :=
  j.ids.getLastD 0

/-- The status of the last process. -/
def status (j : Job) : Nat :=
  ((j.fates.lookup j.lastId).map Fate.status).getD 0

end Job

/-- What a command under way has made its own, as it was before. -/
structure Frame where
  values : List (Raw × Option Variable)
  options? : Option (List Char)

structure Shell where
  id : Nat
  /-- The process whose number the shell gives as its own. -/
  shell : Nat
  name : Raw
  args : List Raw
  vars : List (Raw × Variable)
  functions : List (Raw × Command)
  bodies : Bodies
  /-- The number of the next here-document. -/
  nextBody : Nat
  aliases : List (Raw × Raw)
  /-- The programs that were found, by their names, and whether they may have changed since. -/
  found : List (Raw × Raw × Bool)
  options : List Char
  /-- The path of the working directory as it was gone to. -/
  directory : Raw
  status : Nat
  /-- The status of the last script in a word. -/
  inner : Nat
  /-- What to do on a signal. -/
  traps : List (Nat × Raw)
  /-- The signals that were ignored from the start, and stay so. -/
  deaf : List Nat
  /-- The status before the trap under way. -/
  before? : Option Nat
  lastJob? : Option Nat
  /-- The jobs by their numbers. -/
  jobs : List (Option Job)
  /-- The permissions that new files do not get. -/
  mask : Nat
  /-- What the commands under way have made their own. -/
  saved : List Frame
  loops : Nat
  /-- How many functions are under way. -/
  calls : Nat
  /-- The room that the scripts under way take, each within the one before. -/
  scripts : Nat
  /-- Is the status looked at by whoever runs the command? -/
  tested : Bool
  line : Nat
  /-- The built-in command under way, which messages name. -/
  command : Raw
  /-- The argument that is read next for options. Zero where that is not known. -/
  optionIndex : Nat
  /-- Where in the argument before it the reading is. Zero where it is done. -/
  optionPlace : Nat
  /-- Has the built-in command under way failed to write its output? -/
  spoilt : Bool
  /-- Was the end of the script met behind the command under way? -/
  stalled : Bool

structure Machine extends Shell, World

/-- Does the shell talk with whoever gives it commands? Copies of it do not. -/
def Shell.talks (s : Shell) : Bool :=
  s.options.contains 'i' && s.id = s.shell

/-- How a command leaves its course. -/
inductive Exit where
  /-- The shell ends with its status. -/
  | leave
  /-- The shell fails. -/
  | fail
  /-- The function or the file ends, perhaps with a status of its own. -/
  | back (given : Bool)
  /-- So many loops end, or the last of them goes on. -/
  | skip (count : Nat) (again : Bool)
deriving DecidableEq

/-- What a process does, given what it does then. What was done before an exit stays done. -/
def Act (α : Type) : Type :=
  Machine → (Except Exit α → Machine → Task) → Task

namespace Act

instance : Monad Act where
  pure a := fun m next => next (.ok a) m
  bind body rest := fun m next =>
    body m fun
      | .ok a, m => rest a m next
      | .error exit, m => next (.error exit) m

instance : MonadStateOf Machine Act where
  get := fun m next => next (.ok m) m
  set m := fun _ next => next (.ok ()) m
  modifyGet f := fun m next => next (.ok (f m).1) (f m).2

instance : MonadExceptOf Exit Act where
  throw exit := fun m next => next (.error exit) m
  tryCatch body handle := fun m next =>
    body m fun
      | .ok a, m => next (.ok a) m
      | .error exit, m => handle exit m next

end Act

/-- Tells how an action ended. -/
def attempt {α : Type} (body : Act α) : Act (Except Exit α) :=
  fun m next => body m fun result m => next (.ok result) m

/-- Does something at the end, however an action ends. -/
def ensuring {α : Type} (body : Act α) (last : Act Unit) : Act α := do
  let result ← attempt body
  last
  match result with
  | .ok a => return a
  | .error exit => throw exit

def setStatus (status : Nat) : Act Unit :=
  modify fun m => { m with status := status }

/-! ## Pauses -/

/-- Lets other processes go on until a time or until something holds. -/
def pause (time? : Option Nat) (condition : Condition) (alert : Bool) : Act Unit :=
  fun m next =>
    let shell := m.toShell
    .paused m.toWorld ⟨shell.id, time?, condition, alert⟩ fun w => next (.ok ()) ⟨shell, w⟩

/-- Does nothing any more. -/
def stay {α : Type} : Act α :=
  fun m _ => .paused m.toWorld ⟨m.id, none, .never, false⟩ .ended

/-- Goes on only as a process that has not ended and was not stopped. -/
def survive : Act Unit := do
  let m ← get
  if !m.isAwake m.id then pause (some m.clock) .never false

/-- Takes the time of some work. -/
def work (cost : Nat) : Act Unit := do
  let m ← get
  let used := ((m.process? m.id).map Process.used).getD 0 + cost
  set { m with toWorld := m.toWorld.adjust m.id fun p => { p with used := used } }
  let limit? := (m.process? m.id).bind fun p => p.bound? .time
  if limit?.any fun seconds => seconds * 1000000000 < used then
    modify fun m => { m with toWorld := m.toWorld.deliver m.id Signal.kill }
  pause (some (m.clock + cost)) .never false

/-- Waits until a time. A signal that the shell remembers ends this if it is told so. -/
def waitUntil (time : Nat) (alert : Bool) : Act Unit := do
  if (← get).clock < time then pause (some time) .never alert

/-- Gets a signal from itself. -/
def raise (signal : Nat) : Act Unit := do
  modify fun m => { m with toWorld := m.toWorld.deliver m.id signal }
  survive

/-- More steps than any process takes. -/
def endless : Nat := Nat.pow 2 60

namespace Machine

/-- The working directory. -/
def working (m : Machine) : Location :=
  ((m.process? m.id).map Process.working).getD []

/-- The files as the process sees them. -/
def here (m : Machine) : FileSystem :=
  { m.files with working := m.working }

def self? (m : Machine) : Option Process :=
  m.process? m.id

/-- The streams of the process by their numbers. -/
def numbers (m : Machine) : List (Nat × Nat) :=
  (m.self?.map Process.streams).getD []

def stream? (m : Machine) (number : Nat) : Option Stream :=
  (m.numbers.lookup number).bind m.streamAt?

/-- Points a number to a stream. -/
def pointTo (m : Machine) (number : Nat) (index? : Option Nat) : Machine :=
  { m with toWorld := m.toWorld.point m.id number index? }

/-- Adds a stream at a number. -/
def attach (m : Machine) (number : Nat) (s : Stream) : Machine :=
  let (index, w) := m.toWorld.addStream s
  { m with toWorld := w.point m.id number (some index) }

/-- The first number from one on that leads nowhere. -/
def freeNumber (m : Machine) (least : Nat) : Nat :=
  World.firstFree least (m.numbers.foldl (fun used s => inserted s.1 used) [])

def adjustSelf (m : Machine) (change : Process → Process) : Machine :=
  { m with toWorld := m.toWorld.adjust m.id change }

end Machine

/-! ## Writing -/

def bytesOf (text : Raw) : ByteArray :=
  ⟨(Raw.toBytes text).toArray⟩

/-- The content of a file with some bytes put at a position. -/
def overwritten (content : ByteArray) (position : Nat) (bytes : ByteArray) : ByteArray :=
  if position = content.size then content ++ bytes
  else
    let gap : ByteArray := ⟨(List.replicate (position - content.size) 0).toArray⟩
    content.extract 0 position ++ gap ++ bytes
      ++ content.extract (position + bytes.size) content.size

/-- So many bytes go into a pipe together. -/
def atomLimit : Nat := 4096

/-- The bytes in a block of a file. -/
def blockSize : Nat := 512

/-- Writes to a stream by its place among all streams. Gives the reason of a failure. A pipe that
is full makes its writer wait, and one that nobody reads sends a signal. -/
def writeTo (fuel : Nat) (index : Nat) (text : Raw) : Act (Option Raw) :=
  match fuel with
  | 0 => stay
  | fuel + 1 => do
      let m ← get
      match m.streamAt? index with
      | none => return if text.isEmpty then none else some "Bad file descriptor".toList
      | some s =>
          if text.isEmpty then return none
          else if !s.writes then return some "Bad file descriptor".toList
          else
            match s.source with
            | .answer =>
                set { m with output := text :: m.output }
                return none
            | .device .full => return some "No space left on device".toList
            | .nowhere | .folder | .device _ => return none
            | .pipe number =>
                if !m.isOpen number Stream.reads then
                  raise Signal.pipe
                  return some "Broken pipe".toList
                else
                  let size := text.length
                  let room := m.room number
                  let count := if size ≤ room then size else if size ≤ atomLimit then 0 else room
                  if count = 0 then
                    pause none (.room index (min size atomLimit)) false
                    writeTo fuel index text
                  else
                    let here := if count = size then text else text.take count
                    set { m with toWorld := m.toWorld.adjustPipe number fun p =>
                      { p with chunks := p.chunks ++ [here], size := p.size + count } }
                    if count = size then return none
                    else writeTo fuel index (text.drop count)
            | .file node =>
                match m.files.node? node with
                | none => return none
                | some n =>
                    let position := if s.adds then n.content.size else s.position
                    let blocks? := m.self?.bind fun p => p.bound? .blocks
                    let here := match blocks? with
                      | some blocks => text.take (blocks * blockSize - position)
                      | none => text
                    if here.isEmpty then
                      raise Signal.fileSize
                      return some "File too large".toList
                    else
                      let bytes := bytesOf here
                      let content := overwritten n.content position bytes
                      let w := { m.toWorld with files := m.files.store node content }
                      let w := w.adjustStream index fun s =>
                        { s with position := position + bytes.size }
                      set { m with toWorld := w }
                      if blocks?.isNone then return none
                      else writeTo fuel index (text.drop bytes.size)

/-- Writes to a stream by its number. Gives the reason of a failure. -/
def write (number : Nat) (text : Raw) : Act (Option Raw) := do
  match (← get).numbers.lookup number with
  | none => return if text.isEmpty then none else some "Bad file descriptor".toList
  | some index => writeTo endless index text

/-- Writes to a stream by its number, and remembers if the output could not be written. Says whether
that was possible. -/
def emit (number : Nat) (text : Raw) : Act Bool := do
  let failed := (← write number text).isSome
  if failed && number = 1 then modify fun m => { m with spoilt := true }
  return !failed

/-- Writes a message with the name of the shell, the line and the built-in command. -/
def warn (message : Raw) : Act Unit := do
  let m ← get
  let command := if m.command.isEmpty then [] else m.command ++ ": ".toList
  let _ ← emit 2 (m.name ++ ": ".toList ++ Raw.ofNat m.line ++ ": ".toList ++ command ++ message
    ++ ['\n'])

/-- Fails with a message. -/
def failWith {α : Type} (message : Raw) : Act α := do
  warn message
  setStatus 2
  throw .fail

/-! ## Reading -/

/-- At most so many bytes from the front of chunks, and the chunks that are left. -/
def takeChunks (most : Nat) : List Raw → List Raw × List Raw
  | [] => ([], [])
  | chunk :: others =>
      match chunk.drop most with
      | [] =>
          let (taken, left) := takeChunks (most - chunk.length) others
          (chunk :: taken, left)
      | rest => if most = 0 then ([], chunk :: others) else ([chunk.take most], rest :: others)

/-- What can be read from a stream now, at most so many bytes, without taking it. -/
def Machine.ahead (m : Machine) (index most : Nat) : Raw :=
  match m.streamAt? index with
  | none => []
  | some s =>
      match s.source with
      | .answer | .nowhere | .folder | .device .null | .device (.stream _) => []
      | .device _ => List.replicate most '\x00'
      | .file node =>
          match m.files.node? node with
          | some n =>
              Raw.ofBytes (n.content.extract s.position (s.position + most)).data.toList
          | none => []
      | .pipe number =>
          match m.pipe? number with
          | some p => (takeChunks most p.chunks).1.flatten
          | none => []

/-- Goes on in a stream after so many bytes. -/
def Machine.skip (m : Machine) (index count : Nat) : Machine :=
  match (m.streamAt? index).map Stream.source with
  | some (.pipe number) =>
      { m with toWorld := m.toWorld.adjustPipe number fun p =>
        { p with chunks := (takeChunks count p.chunks).2, size := p.size - count } }
  | some _ =>
      { m with toWorld := m.toWorld.adjustStream index fun s =>
        { s with position := s.position + count } }
  | none => m

/-- Waits until something can be read from a stream. Gives at most so many bytes, none at the end,
without taking them. -/
def look (index most : Nat) (alert : Bool) : Act Raw := do
  if !(← get).hasInput index then pause none (.input index) alert
  return (← get).ahead index most

/-- Why nothing can be read from a number. -/
def Machine.unreadable? (m : Machine) (number : Nat) : Option Raw :=
  match (m.stream? number).filter Stream.reads with
  | none => some "Bad file descriptor".toList
  | some s => if s.source = .folder then some "Is a directory".toList else none

/-- The place of a stream that can be read. -/
def Machine.readable? (m : Machine) (number : Nat) : Option Nat :=
  (m.numbers.lookup number).filter fun index => (m.streamAt? index).any Stream.reads

/-- How long a piece of endless input or output takes. -/
def chunkCost : Nat := 1000000

/-- Can one read from a stream again and again? -/
def Machine.isEndless (m : Machine) (index : Nat) : Bool :=
  (m.streamAt? index).any fun s => s.source = .device .zero || s.source = .device .full

/-- Reads at most so many bytes. At the end there are none. -/
def readSome (index most : Nat) : Act Raw := do
  if (← get).isEndless index then work chunkCost
  let here ← look index most false
  modify fun m => m.skip index here.length
  return here

/-- Reads so many bytes at once from a pipe. -/
def readLimit : Nat := 65536

/-- Reads to the end. -/
def readAll (fuel index : Nat) (chunks : List Raw) : Act Raw :=
  match fuel with
  | 0 => stay
  | fuel + 1 => do
      let here ← readSome index readLimit
      if here.isEmpty then return chunks.reverse.flatten
      else readAll fuel index (here :: chunks)

/-! ## Opening -/

/-- Why a file cannot be opened. -/
def openReason (files : FileSystem) (path : Raw) (creates : Bool) : Raw :=
  match files.resolve true path with
  | .error .missing | .error .notDirectory =>
      (if creates then "Directory nonexistent" else "No such file").toList
  | .error fault => fault.text
  | .ok loc =>
      if files.isDirectoryAt loc then "Is a directory".toList else "No such file".toList

/-- Waits until somebody else opens the other end of a named pipe. Says whether it was not a signal
that ended this. -/
def meet (pipe number : Nat) (reads writes : Bool) : Act Bool := do
  let m ← get
  let known := (m.pipe? pipe).getD ⟨[], 0, 0, 0⟩
  let opened : Pipe :=
    { known with
      readers := known.readers + if reads then 1 else 0
      writers := known.writers + if writes then 1 else 0 }
  let m := { m with pipes := (pipe, opened) :: m.pipes.filter fun p => p.1 ≠ pipe }
  set (m.attach number (Stream.ofSource (.pipe pipe) reads writes false))
  let isMet := if writes then m.isOpen pipe Stream.reads else m.isOpen pipe Stream.writes
  if (reads && writes) || isMet then return true
  else
    let count := if reads then known.writers else known.readers
    pause none (.opened pipe reads count) true
    let opened := (← get).pipe? pipe |>.any fun p => count < if reads then p.writers else p.readers
    return opened

/-- The number of the pipe with a name. Those without names have even numbers. -/
def fifoPipe (number : Nat) : Nat :=
  2 * number + 1

/-- Does a redirection of the kind make a file? -/
def creates (kind : RedirectKind) : Bool :=
  kind ≠ .input

/-- Opens a file at a number as the kind of a redirection says. Gives the reason of a failure. With
`guarded`, a file that is there is not emptied. -/
def openFile (guarded : Bool) (number : Nat) (path : Raw) (kind : RedirectKind) :
    Act (Option Raw) := do
  let m ← get
  let files := m.here
  let writes := creates kind
  let reads := kind = .input || kind = .inputOutput
  let add (source : Source) : Act (Option Raw) := do
    modify fun m => m.attach number (Stream.ofSource source reads writes (kind = .append))
    return none
  let fill (node : Nat) : Act (Option Raw) := do
    if kind = .output || kind = .clobber then
      modify fun m => { m with files := m.files.store node ByteArray.empty }
    add (.file node)
  let limit? := m.self?.bind fun p => p.bound? .files
  if limit?.any (· ≤ m.freeNumber 0) then return some "Too many open files".toList
  else
    match files.locate? path, files.entry? path with
    | _, some (.file node) =>
        if kind = .output && guarded then return some "File exists".toList else fill node
    | _, some (.device (.stream other)) =>
        match (m.stream? other).map Stream.source with
        | none => return some "No such file".toList
        | some (.file node) => fill node
        | some source => add source
    | _, some (.device d) => add (.device d)
    | _, some (.fifo pipe) =>
        let spare := m.freeNumber World.privateNumbers
        if ← meet (fifoPipe pipe) spare reads writes then
          if number ≠ spare then
            modify fun m => (m.pointTo number (m.numbers.lookup spare)).pointTo spare none
          return none
        else
          modify fun m => m.pointTo spare none
          return some "Interrupted system call".toList
    | _, some (.program _) => if writes then return some "Text file busy".toList else add .nowhere
    | _, some .directory => if writes then return some "Is a directory".toList else add .folder
    | some loc, _ =>
        if !writes then return some (openReason files path false)
        else
          let node := m.files.next
          let mode := Mode.masked m.mask 0o666
          modify fun m => { m with files := m.files.create loc mode ByteArray.empty }
          add (.file node)
    | none, _ => return some (openReason files path writes)

/-- Opens a file at a number, or fails with a message. -/
def openAt (number : Nat) (path : Raw) (kind : RedirectKind) : Act Unit := do
  match ← openFile ((← get).options.contains 'C') number path kind with
  | none => return ()
  | some reason =>
      failWith ((if creates kind then "cannot create " else "cannot open ").toList ++ path
        ++ ": ".toList ++ reason)

end SmtScript.Host.Shell
