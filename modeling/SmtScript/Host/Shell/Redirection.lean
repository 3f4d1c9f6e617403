import SmtScript.Host.Shell.Job

/-!
# Redirections

A number of a stream can be pointed elsewhere for a while. What it led to before is kept at another
number meanwhile. A pipe has two ends, each at a number that no child gets by itself.
-/

namespace SmtScript.Host.Shell

/-! ## Pipes -/

/-- The ends of a pipe by their numbers. -/
structure Ends where
  reader : Nat
  writer : Nat

namespace Machine

/-- Makes a pipe that holds a text. -/
def addPipe (m : Machine) (text : Raw) : Nat × Machine :=
  let pipe : Pipe :=
    { chunks := if text.isEmpty then [] else [text], size := text.length, readers := 1
      writers := 1 }
  (2 * m.nextPipe,
    { m with pipes := (2 * m.nextPipe, pipe) :: m.pipes, nextPipe := m.nextPipe + 1 })

/-- The place of the stream at a number. -/
def placeAt (m : Machine) (number : Nat) : Nat :=
  (m.numbers.lookup number).getD 0

end Machine

def newPipe : Act Ends := do
  let m ← get
  let limit? := m.self?.bind fun p => p.bound? .files
  if limit?.any fun limit => limit ≤ m.freeNumber 0 + 1 then failWith "Pipe call failed".toList
  else
    let (pipe, m) := m.addPipe []
    let reader := m.freeNumber World.privateNumbers
    let m := m.attach reader (Stream.ofSource (.pipe pipe) true false false)
    let writer := m.freeNumber World.privateNumbers
    set (m.attach writer (Stream.ofSource (.pipe pipe) false true false))
    return ⟨reader, writer⟩

/-- Points a number of the process nowhere. -/
def close (number : Nat) : Act Unit :=
  modify fun m => m.pointTo number none

/-! ## Targets -/

/-- A redirection whose target is known. -/
inductive Opening where
  | file (number : Nat) (kind : RedirectKind) (path : Raw)
  | copy (number : Nat) (source? : Option Nat)
  | text (number : Nat) (content : Raw)

namespace Opening

def number : Opening → Nat
  | .file number _ _ => number
  | .copy number _ => number
  | .text number _ => number

/-- Points a stream to its target. -/
def act (o : Opening) : Act Unit := do
  match o with
  | .file number kind path => openAt number path kind
  | .copy number none => close number
  | .copy number (some source) =>
      let m ← get
      match m.numbers.lookup source with
      | some index => set (m.pointTo number (some index))
      | none => failWith (Raw.ofNat source ++ ": Bad file descriptor".toList)
  | .text number content =>
      let (pipe, m) := (← get).addPipe content
      set (m.attach number (Stream.ofSource (.pipe pipe) true false false))

end Opening

/-! ## For a while -/

/-- What streams led to: their numbers, and the numbers that keep it. -/
abbrev KeptStreams := List (Nat × Option Nat)

/-- Keeps what a number leads to. -/
def keep (number : Nat) : Act (Option Nat) := do
  let m ← get
  match m.numbers.lookup number with
  | none => return none
  | some index =>
      let place := m.freeNumber World.innerNumbers
      let limit? := m.self?.bind fun p => p.bound? .files
      if limit?.any (· ≤ place) then
        close number
        let reason := if limit?.any (· ≤ World.innerNumbers) then "Invalid argument"
          else "Too many open files"
        failWith (Raw.ofNat number ++ ": ".toList ++ reason.toList)
      else
        set (m.pointTo place (some index))
        return some place

/-- Brings back what streams led to. -/
def bringBack (kept : KeptStreams) : Act Unit :=
  modify fun m => kept.foldl
    (fun m (number, place?) =>
      match place? with
      | none => m.pointTo number none
      | some place => (m.pointTo number (m.numbers.lookup place)).pointTo place none)
    m

/-- Points a stream to its target, and keeps what it led to unless that was done before. -/
def openOne (kept : KeptStreams) (opening : Opening) : Act KeptStreams := do
  let number := opening.number
  let m ← get
  let limit? := m.self?.bind fun p => p.bound? .files
  let isFull := limit?.any (· ≤ m.freeNumber 0)
  if (kept.any fun k => k.1 == number) || isFull && (opening matches .file ..) then
    opening.act
    return kept
  else
    let place? ← keep number
    match ← attempt opening.act with
    | .ok _ => return (number, place?) :: kept
    | .error exit =>
        if let some place := place? then close place
        throw exit

/-- Points streams to their targets. Gives what was kept, and whether all went well. -/
def openKeeping (kept : KeptStreams) : List Opening → Act (KeptStreams × Bool)
  | [] => return (kept, true)
  | opening :: others => do
      match ← attempt (openOne kept opening) with
      | .ok kept => openKeeping kept others
      | .error .fail => return (kept, false)
      | .error exit =>
          bringBack kept
          throw exit

end SmtScript.Host.Shell
