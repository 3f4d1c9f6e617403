import SmtScript.Text.Utf8

/-!
# Supervision of a solver process

Three parties act in any order. The child writes, may close its output, and ends by itself with
an exit code or by a signal. The main party reads until the end of the output, waits for the
child, tells the watchdog that it is done, joins the watchdog and gives its verdict; if reading
fails it kills the child first. The watchdog, which exists where there is a timeout, ends when
it hears that main is done, and when its time is over first it kills the child.
-/

namespace SmtScript.Solver

open Utf8 (Bytes)

/-- How a process ended. -/
inductive Ending where
  | exited (code : Nat)
  | killed
deriving DecidableEq

namespace Supervision

/-! ## The parties -/

structure Child where
  /-- All that was written so far. -/
  written : Bytes
  outputOpen : Bool
  ending? : Option Ending
deriving DecidableEq

namespace Child

def fresh : Child :=
  ⟨[], true, none⟩

/-- A process that has ended cannot be killed any more, but trying is no failure. -/
def kill (c : Child) : Child :=
  match c.ending? with
  | none => { c with ending? := some .killed }
  | some _ => c

/-- Nobody can write any more. -/
def isSilent (c : Child) : Bool :=
  !c.outputOpen || c.ending?.isSome

end Child

inductive Watchdog where
  /-- There is no timeout. -/
  | absent
  | waiting
  /-- The time is over, and the child is still to be killed. -/
  | expired
  /-- Ended, with or without a successful kill. -/
  | ended (killed : Bool)
deriving DecidableEq

def Watchdog.isOver : Watchdog → Bool
  | .absent | .ended _ => true
  | .waiting | .expired => false

inductive Verdict where
  /-- The output could not be read. -/
  | unreadable
  | exited (code : Nat) (output : Bytes)
  | timedOut
  | signalled (output : Bytes)
deriving DecidableEq

/-- What the main party does next. -/
inductive Phase where
  | reading
  /-- After a failed read. -/
  | killing
  | waiting
  | notifying
  | joining
  | finished (verdict : Verdict)
deriving DecidableEq

structure State where
  child : Child
  watchdog : Watchdog
  phase : Phase
  collected : Bytes
  readFailed : Bool
  /-- Has the main party waited for the child? -/
  reaped : Bool
  /-- Was the watchdog told? -/
  notified : Bool
deriving DecidableEq

def State.initial (timed : Bool) : State where
  child := .fresh
  watchdog := if timed then .waiting else .absent
  phase := .reading
  collected := []
  readFailed := false
  reaped := false
  notified := false

/-- An exit code counts whatever the watchdog did; a signal counts as a timeout if the watchdog
killed. -/
def State.verdict (s : State) : Verdict :=
  if s.readFailed then .unreadable
  else
    match s.child.ending? with
    | some (.exited code) => .exited code s.collected
    | _ => if s.watchdog = .ended true then .timedOut else .signalled s.collected

/-! ## Moves -/

inductive Move where
  | write (bytes : Bytes)
  | closeOutput
  | exit (code : Nat)
  /-- The child dies by a signal that is not of the other parties. -/
  | die
  /-- Main reads some of what was written and not yet read. -/
  | read (count : Nat)
  | readEnd
  | readFails
  /-- Main kills the child after a failed read. -/
  | kill
  /-- Main tries to kill the child, and goes on without. -/
  | killFails
  | wait
  | notify
  | join
  /-- The watchdog learns that main is done. -/
  | hear
  | expire
  /-- The watchdog kills the child. -/
  | strike
  | strikeFails
deriving DecidableEq

/-- The state after a move, where the move is possible. -/
def State.move? (s : State) : Move → Option State
  | .write bytes =>
      if s.child.ending? = none ∧ s.child.outputOpen then
        some { s with child.written := s.child.written ++ bytes }
      else none
  | .closeOutput =>
      if s.child.ending? = none then some { s with child.outputOpen := false } else none
  | .exit code =>
      if s.child.ending? = none then some { s with child.ending? := some (.exited code) } else none
  | .die =>
      if s.child.ending? = none then some { s with child.ending? := some .killed } else none
  | .read count =>
      if s.phase = .reading ∧ s.collected.length + count ≤ s.child.written.length then
        some { s with collected := s.child.written.take (s.collected.length + count) }
      else none
  | .readEnd =>
      if s.phase = .reading ∧ s.collected.length = s.child.written.length ∧ s.child.isSilent then
        some { s with phase := .waiting }
      else none
  | .readFails =>
      if s.phase = .reading then some { s with phase := .killing, readFailed := true } else none
  | .kill =>
      if s.phase = .killing then some { s with phase := .waiting, child := s.child.kill } else none
  | .killFails =>
      if s.phase = .killing then some { s with phase := .waiting } else none
  | .wait =>
      if s.phase = .waiting ∧ s.child.ending?.isSome then
        some { s with phase := .notifying, reaped := true }
      else none
  | .notify =>
      if s.phase = .notifying then some { s with phase := .joining, notified := true } else none
  | .join =>
      if s.phase = .joining ∧ s.watchdog.isOver then
        some { s with phase := .finished s.verdict }
      else none
  | .hear =>
      if s.watchdog = .waiting ∧ s.notified then some { s with watchdog := .ended false } else none
  | .expire =>
      if s.watchdog = .waiting then some { s with watchdog := .expired } else none
  | .strike =>
      if s.watchdog = .expired then
        some { s with watchdog := .ended true, child := s.child.kill }
      else none
  | .strikeFails =>
      if s.watchdog = .expired then some { s with watchdog := .ended false } else none

/-- The state after several moves, where each is possible in its turn. -/
def State.moves? (s : State) : List Move → Option State
  | [] => some s
  | m :: rest => (s.move? m).bind fun next => next.moves? rest

/-! ## The usual course -/

/-- What a child does by itself within the time that it has. Without an ending it is still
running when the time is over. -/
structure Life where
  output : Bytes
  ending? : Option Ending
deriving DecidableEq

/-- The child acts, or its time ends, before main reads. -/
def course (timed : Bool) (life : Life) : List Move :=
  let ending := match life.ending? with
    | some (.exited code) => [.exit code]
    | some .killed => [.die]
    | none => [.expire, .strike]
  let hearing := if timed && life.ending?.isSome then [.hear] else []
  [.write life.output] ++ ending ++ [.read life.output.length, .readEnd, .wait, .notify]
    ++ hearing ++ [.join]

/-- The verdict about a life. A child that runs for ever without a timeout has none. -/
def verdict? (timed : Bool) (life : Life) : Option Verdict :=
  match (State.initial timed).moves? (course timed life) with
  | some { phase := .finished v, .. } => some v
  | _ => none

end Supervision

end SmtScript.Solver
