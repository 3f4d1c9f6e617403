import SmtScript.Host.Programs
import SmtScript.Host.Signal

/-!
# Processes and streams

The processes of a host share its files and a clock. A process has streams by their numbers. A
stream leads to a file at a position, to one end of a pipe, to a device or to whoever started the
first process; several processes can have the same stream. A pipe whose writers are gone has an
end, and one whose readers are gone takes nothing more.

A process that gets a signal ignores it, remembers it until it looks, or ends or stops. What ended
stays in the list until its parent has asked how it ended.
-/

namespace SmtScript.Host

/-- Where a stream leads. -/
inductive Source where
  /-- To whoever started the first process. -/
  | answer
  | nowhere
  /-- To a directory, from which nothing can be read. -/
  | folder
  | pipe (number : Nat)
  | file (node : Nat)
  | device (device : Device)
deriving DecidableEq

structure Stream where
  source : Source
  reads : Bool
  writes : Bool
  /-- Is everything written to the end of the file? -/
  adds : Bool
  position : Nat

def Stream.ofSource (source : Source) (reads writes adds : Bool) : Stream where
  source := source
  reads := reads
  writes := writes
  adds := adds
  position := 0

/-- The file that the stream leads to. -/
def Stream.file? (s : Stream) : Option Nat :=
  match s.source with
  | .file node => some node
  | _ => none

/-- What was written to a pipe and not yet read, in order. -/
structure Pipe where
  chunks : List Raw
  size : Nat
  /-- How often it was opened for reading, and for writing. -/
  readers : Nat
  writers : Nat

/-- How a process ended. -/
inductive Fate where
  | exited (status : Nat)
  | killed (signal : Nat)
deriving DecidableEq

/-- The status that a shell sees. -/
def Fate.status : Fate → Nat
  | .exited status => status
  | .killed signal => 128 + signal

/-- What a process can be kept from using. -/
inductive Resource where
  /-- Seconds of work. -/
  | time
  /-- Blocks of 512 bytes in a file. -/
  | blocks
  | data
  | stack
  | core
  | resident
  | locked
  | processes
  | files
  | memory
  | locks
  | priority
deriving DecidableEq

/-- The most of a resource, for now and for good. None where there is no limit. -/
structure Bound where
  soft? : Option Nat
  hard? : Option Nat

structure Process where
  id : Nat
  parent : Nat
  /-- The process whose number the group has. -/
  group : Nat
  /-- The streams by their numbers. -/
  streams : List (Nat × Nat)
  ignored : List Nat
  /-- The signals that are remembered. -/
  caught : List Nat
  /-- The signals that have come and are remembered. -/
  pending : List Nat
  /-- The signals that have come while the process was stopped. -/
  held : List Nat
  stopped : Bool
  fate? : Option Fate
  bounds : List (Resource × Bound)
  /-- The directory from which relative paths start. -/
  working : Location
  /-- Nanoseconds of work. -/
  used : Nat
  /-- How much it lets others go first. -/
  niceness : Int

structure World where
  files : FileSystem
  /-- Nanoseconds since the start. -/
  clock : Nat
  streams : List (Nat × Stream)
  pipes : List (Nat × Pipe)
  /-- The oldest first. -/
  processes : List Process
  /-- What whoever started the first process was answered, the last first. -/
  output : List Raw
  nextProcess : Nat
  nextStream : Nat
  nextPipe : Nat

namespace Process

def isLive (p : Process) : Bool :=
  p.fate?.isNone

/-- Can the process do something? -/
def isAwake (p : Process) : Bool :=
  p.isLive && !p.stopped

def bound? (p : Process) (r : Resource) : Option Nat :=
  (p.bounds.lookup r).bind Bound.soft?

end Process

/-- The least insertion into a list without repetitions that is in order. -/
def inserted (n : Nat) : List Nat → List Nat
  | [] => [n]
  | m :: rest => if n = m then m :: rest else if n < m then n :: m :: rest else m :: inserted n rest

namespace World

/-! ## Processes -/

def process? (w : World) (id : Nat) : Option Process :=
  w.processes.find? fun p => p.id == id

def isLive (w : World) (id : Nat) : Bool :=
  (w.process? id).any Process.isLive

def isAwake (w : World) (id : Nat) : Bool :=
  (w.process? id).any Process.isAwake

def adjust (w : World) (id : Nat) (change : Process → Process) : World :=
  { w with processes := w.processes.map fun p => if p.id == id then change p else p }

/-- The world at a later time. -/
def atTime (w : World) (time : Nat) : World :=
  { w with clock := time, files := { w.files with now := w.files.now + (time - w.clock) } }

/-- The world with other files. Whoever works in a directory goes along when it is moved. -/
def withFiles (w : World) (files : FileSystem) : World :=
  let processes := w.processes.map fun p => { p with working := files.placeNow p.working }
  { w with
    processes := processes
    files := { files.settled (processes.map Process.working) with
      working := w.files.working, now := w.files.now } }

/-! ## Streams -/

def streamAt? (w : World) (index : Nat) : Option Stream :=
  w.streams.lookup index

def adjustStream (w : World) (index : Nat) (change : Stream → Stream) : World :=
  { w with streams := w.streams.map fun s => if s.1 == index then (s.1, change s.2) else s }

def addStream (w : World) (s : Stream) : Nat × World :=
  (w.nextStream,
    { w with streams := (w.nextStream, s) :: w.streams, nextStream := w.nextStream + 1 })

def pipe? (w : World) (number : Nat) : Option Pipe :=
  w.pipes.lookup number

def adjustPipe (w : World) (number : Nat) (change : Pipe → Pipe) : World :=
  { w with pipes := w.pipes.map fun p => if p.1 == number then (p.1, change p.2) else p }

/-- Has anybody a stream that leads to a pipe? -/
def isOpen (w : World) (number : Nat) (kind : Stream → Bool) : Bool :=
  w.streams.any fun s => s.2.source == .pipe number && kind s.2

/-- Forgets the streams that nobody has, and the pipes to which no stream leads. -/
def sweep (w : World) : World :=
  let used := w.processes.flatMap fun p => p.streams.map Prod.snd
  let streams := w.streams.filter fun s => used.contains s.1
  let isUsed (number : Nat) : Bool := streams.any fun s => s.2.source == .pipe number
  { w with
    streams := streams
    pipes := if streams.length = w.streams.length then w.pipes
      else w.pipes.filter fun p => isUsed p.1 }

/-- Forgets a stream if nobody has it, and its pipe if no other stream leads there. -/
def release (w : World) (index : Nat) : World :=
  if w.processes.any fun p => p.streams.any fun s => s.2 == index then w
  else
    let streams := w.streams.filter fun s => s.1 ≠ index
    let pipes := match (w.streamAt? index).map Stream.source with
      | some (.pipe number) =>
          if streams.any fun s => s.2.source == .pipe number then w.pipes
          else w.pipes.filter fun p => p.1 ≠ number
      | _ => w.pipes
    { w with streams := streams, pipes := pipes }

/-- Points a number of a process to a stream, or to none. -/
def point (w : World) (id number : Nat) (index? : Option Nat) : World :=
  let before? := (w.process? id).bind fun p => p.streams.lookup number
  let next := w.adjust id fun p =>
    let others := if before?.isSome then p.streams.filter fun s => s.1 ≠ number else p.streams
    match index? with
    | some index => { p with streams := (number, index) :: others }
    | none => { p with streams := others }
  match before? with
  | some index => next.release index
  | none => next

/-- The first number from one on that is not among numbers in ascending order. -/
def firstFree (least : Nat) : List Nat → Nat
  | [] => least
  | n :: rest =>
      if n < least then firstFree least rest
      else if n = least then firstFree (least + 1) rest
      else least

/-! ## Ends and signals -/

/-- The number of the first process. -/
def firstProcess : Nat := 4000

/-- The process that takes over children whose parent has ended. -/
def keeper : Nat := 1

/-- The world after a process has ended. Its children go over to the keeper, who asks at once how
they end. -/
def finish (w : World) (id : Nat) (fate : Fate) : World :=
  match w.process? id with
  | none => w
  | some p =>
      if !p.isLive then w
      else
        let others := w.processes.filterMap fun other =>
          if other.id == id then
            if p.parent = keeper then none
            else some { p with fate? := some fate, streams := [], stopped := false }
          else if other.parent == id then
            if other.isLive then some { other with parent := keeper } else none
          else if other.id == p.parent && other.caught.contains Signal.child then
            some { other with pending := inserted Signal.child other.pending }
          else some other
        { w with processes := others }.sweep

/-- What a signal does to a process. -/
def deliver (w : World) (id signal : Nat) : World :=
  match w.process? id with
  | none => w
  | some p =>
      if !p.isLive || signal = 0 then w
      else if signal = Signal.kill then w.finish id (.killed signal)
      else if signal = Signal.stop then w.adjust id fun p => { p with stopped := true }
      else if p.ignored.contains signal then w
      else if p.caught.contains signal then
        w.adjust id fun p => { p with pending := inserted signal p.pending }
      else if Signal.isHarmless signal then w
      else if Signal.stops signal then w.adjust id fun p => { p with stopped := true }
      else if p.stopped then w.adjust id fun p => { p with held := inserted signal p.held }
      else w.finish id (.killed signal)

/-- Sends a signal to a process. One that lets it go on does so whatever else it does, and what was
held back comes then. -/
def send (w : World) (id signal : Nat) : World :=
  if signal = Signal.goOn then
    let held := ((w.process? id).map Process.held).getD []
    let w := w.adjust id fun p => { p with stopped := false, held := [] }
    held.foldl (fun w signal => w.deliver id signal) (w.deliver id signal)
  else w.deliver id signal

/-- Sends a signal to all processes of a group. -/
def sendAll (w : World) (group signal : Nat) : World :=
  ((w.processes.filter fun p => p.group == group).map Process.id).foldl
    (fun w id => w.send id signal) w

/-! ## Children -/

/-- Numbers of streams from here on are kept to the process itself. -/
def privateNumbers : Nat := 1000

/-- Numbers of streams from here on end where another program begins. -/
def innerNumbers : Nat := 10

/-- A copy of a process as its child, with some streams of its own. -/
def withChild (w : World) (parent : Nat) (own : List (Nat × Nat)) : Nat × World :=
  let id := w.nextProcess
  match w.process? parent with
  | none => (id, w)
  | some p =>
      let shared := p.streams.filter fun s =>
        s.1 < privateNumbers && !(own.any fun o => o.1 == s.1)
      let child : Process :=
        { p with
          id := id
          parent := parent
          streams := own ++ shared
          caught := []
          pending := []
          held := []
          used := 0 }
      (id, { w with processes := w.processes ++ [child], nextProcess := id + 1 })

/-- Takes a process that has ended from the list. -/
def forget (w : World) (id : Nat) : World :=
  { w with processes := w.processes.filter fun p => p.id ≠ id }

/-- The children that have ended and are still in the list. -/
def ended (w : World) (parent : Nat) : List (Nat × Fate) :=
  w.processes.filterMap fun p =>
    if p.parent == parent then p.fate?.map (p.id, ·) else none

/-- Can anybody still answer? -/
def canAnswer (w : World) : Bool :=
  w.streams.any fun s => s.2.source == .answer

end World

end SmtScript.Host
