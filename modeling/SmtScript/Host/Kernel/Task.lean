import SmtScript.Host.Kernel.World

/-!
# Processes side by side

A task is what a process does from a world on: it ends, it pauses until something holds of the
world, or it begins another process. The tasks of several processes take turns: the next
is always the one that can go on first, and time passes only from pause to pause.
-/

namespace SmtScript.Host

/-- What a process waits for. -/
inductive Condition where
  /-- Only time ends the pause. -/
  | never
  /-- A stream has something to read, or has an end. -/
  | input (stream : Nat)
  /-- There is room for so many bytes in what a stream leads to, or nobody reads them. -/
  | room (stream count : Nat)
  /-- A pipe was opened for writing, or for reading, more often than that. -/
  | opened (pipe : Nat) (writing : Bool) (count : Nat)
  /-- A child has ended. -/
  | child
  /-- The file at a stream has become greater than that. -/
  | growth (stream size : Nat)
deriving DecidableEq

/-- The most bytes in a pipe. -/
def pipeLimit : Nat := 65536

namespace World

/-- The pipe that a stream leads to. -/
def pipeOf? (w : World) (index : Nat) : Option Nat :=
  match (w.streamAt? index).map Stream.source with
  | some (.pipe number) => some number
  | _ => none

/-- Can a read from a stream go on? -/
def hasInput (w : World) (index : Nat) : Bool :=
  match w.pipeOf? index with
  | none => true
  | some number => (w.pipe? number).all fun p => p.size ≠ 0 || !w.isOpen number Stream.writes

def room (w : World) (number : Nat) : Nat :=
  pipeLimit - ((w.pipe? number).map Pipe.size).getD 0

/-- Can a write of so many bytes to a stream go on? -/
def hasRoom (w : World) (index count : Nat) : Bool :=
  match w.pipeOf? index with
  | none => true
  | some number => count ≤ w.room number || !w.isOpen number Stream.reads

/-- The size of the file that a stream leads to. -/
def sizeAt (w : World) (index : Nat) : Nat :=
  match (w.streamAt? index).map Stream.source with
  | some (.file node) => ((w.files.node? node).map fun n => n.content.size).getD 0
  | _ => 0

end World

/-- A pause of a process. -/
structure Pause where
  process : Nat
  /-- When it is over at the latest. -/
  time? : Option Nat
  condition : Condition
  /-- Is it over when a signal comes that the process remembers? -/
  alert : Bool

namespace Pause

def holds (p : Pause) (w : World) : Bool :=
  match p.condition with
  | .never => false
  | .input index => w.hasInput index
  | .room index count => w.hasRoom index count
  | .opened number writing count =>
      (w.pipe? number).any fun pipe => count < if writing then pipe.writers else pipe.readers
  | .child => !(w.ended p.process).isEmpty
  | .growth index size => size < w.sizeAt index

/-- When the pause is over. None if nobody knows. -/
def end? (p : Pause) (w : World) : Option Nat :=
  match w.process? p.process with
  | none => none
  | some process =>
      if !process.isAwake then none
      else if p.holds w || p.alert && !process.pending.isEmpty then some w.clock
      else p.time?.map (max w.clock)

end Pause

/-- What a process does. -/
inductive Task where
  | ended (world : World)
  | paused (world : World) (pause : Pause) (resume : World → Task)
  /-- Another process begins, and this one goes on. -/
  | forked (world : World) (parent child : Nat) (start resume : World → Task)

/-- Nanoseconds that it takes to begin a process, and until it does something. -/
def forkCost : Nat := 60000

def startCost : Nat := 150000

/-- A process that waits for its turn. -/
structure Waiting where
  pause : Pause
  resume : World → Task

namespace Task

/-- The first of those that can go on soonest, with its time, and the others. -/
def next? (w : World) : List Waiting → Option (Nat × Waiting × List Waiting)
  | [] => none
  | one :: others =>
      match one.pause.end? w, next? w others with
      | none, none => none
      | none, some (time, first, rest) => some (time, first, one :: rest)
      | some time, none => some (time, one, others)
      | some time, some (other, first, rest) =>
          if time ≤ other then some (time, one, others) else some (other, first, one :: rest)

/-- The processes that wait after a turn, and the world then. -/
def after (others : List Waiting) : Task → World × List Waiting
  | .ended w => (w, others)
  | .paused w pause resume => (w, others ++ [⟨pause, resume⟩])
  | .forked w parent child start resume =>
      let pause (id cost : Nat) : Pause := ⟨id, some (w.clock + cost), .never, false⟩
      (w, others ++ [⟨pause parent forkCost, resume⟩, ⟨pause child startCost, start⟩])

end Task

/-- The world when all is over, and whether the limit was reached before. -/
structure Outcome where
  world : World
  struck : Bool

namespace World

/-- Is the first process over, and can nobody answer any more? -/
def isOver (w : World) (main : Nat) : Bool :=
  !w.isLive main && !w.canAnswer

/-- Lets processes take turns until all is over. When the limit is reached the first process is
killed. None where there is no end. -/
def run (fuel main : Nat) (limit? : Option Nat) (struck : Bool) (w : World)
    (waiting : List Waiting) : Option Outcome :=
  match fuel with
  | 0 => none
  | fuel + 1 =>
      if w.isOver main then some ⟨w, struck⟩
      else
        match Task.next? w waiting, limit? with
        | some (time, one, others), limit? =>
            if limit?.any (· ≤ time) then
              let w := w.atTime (limit?.getD time)
              w.deliver main Signal.kill |>.run fuel main none true waiting
            else
              let (w, waiting) := (one.resume (w.atTime time)).after others
              w.run fuel main limit? struck (waiting.filter fun o => w.isLive o.pause.process)
        | none, some limit =>
            (w.atTime limit).deliver main Signal.kill |>.run fuel main none true waiting
        | none, none => none

end World

end SmtScript.Host
