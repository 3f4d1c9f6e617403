import SmtScript.Host.Shell.Option

/-!
# Children and jobs

A child is a copy of its process. The processes that a shell begins together are a job, which has
a number until somebody has asked how it ended. Whoever waits for a job learns of all children
that have ended by then.
-/

namespace SmtScript.Host.Shell

/-! ## Beginnings -/

/-- The copy that a child starts with. What was asked for on a signal is not asked of it. -/
def Shell.asChild (s : Shell) (id : Nat) : Shell :=
  { s with id := id, traps := s.traps.filter fun t => t.2.isEmpty, jobs := [] }

/-- How a process ends whose shell is done. -/
def finished (_ : Except Exit Unit) (m : Machine) : Task :=
  .ended (m.toWorld.finish m.id (.exited (m.status % 256)))

/-- Nanoseconds from the last deed of a child until it has ended. -/
def endCost : Nat := 100000

/-- How a child ends whose shell is done. Meanwhile signals change nothing any more. -/
def finishing (result : Except Exit Unit) (m : Machine) : Task :=
  let w := m.toWorld.adjust m.id fun p => { p with caught := List.range 65 }
  .paused w ⟨m.id, some (w.clock + endCost), .never, false⟩ fun w =>
    finished result ⟨m.toShell, w⟩

/-- The signals that a shell ignores only because it talks with somebody. -/
def Shell.patient (s : Shell) : List Nat :=
  if s.talks then Signal.patient.filter fun n => !s.deaf.contains n && (s.traps.lookup n).isNone
  else []

/-- Begins a child that does something, with some streams of its own. Gives its number. -/
def fork (own : List (Nat × Nat)) (body : Act Unit) : Act Nat :=
  fun m next =>
    let (id, w) := m.toWorld.withChild m.id own
    let shell := m.toShell
    let w := w.adjust id fun p =>
      { p with ignored := p.ignored.filter (!shell.patient.contains ·) }
    .forked w m.id id (fun w => body ⟨shell.asChild id, w⟩ finishing)
      fun w => next (.ok id) ⟨shell, w⟩

/-! ## Numbers of jobs -/

namespace Machine

/-- Is the number of the job free for another one? -/
def isFree : Option Job → Bool
  | none => true
  | some job => job.isDone && job.waited

/-- Makes a job without processes. Gives its place. -/
def addJob (m : Machine) : Nat × Machine :=
  let job : Option Job := some ⟨[], [], false⟩
  match m.jobs.findIdx? isFree with
  | some place => (place, { m with jobs := m.jobs.set place job })
  | none => (m.jobs.length, { m with jobs := m.jobs ++ [job] })

def adjustJob (m : Machine) (place : Nat) (change : Job → Job) : Machine :=
  { m with jobs := m.jobs.modify place fun job => job.map change }

def job? (m : Machine) (place : Nat) : Option Job :=
  (m.jobs[place]?).bind id

def dropJob (m : Machine) (place : Nat) : Machine :=
  { m with jobs := m.jobs.set place none }

/-- The places of the jobs, that of the newest first. -/
def places (m : Machine) : List Nat :=
  let used := (List.range m.jobs.length).filter fun place =>
    (m.job? place).any fun job => !job.ids.isEmpty
  used.mergeSort fun a b =>
    ((m.job? b).map Job.lastId).getD 0 ≤ ((m.job? a).map Job.lastId).getD 0

/-- The job that a text names: by its number or by its age, after a percent sign. The commands of
jobs are not known, so that only an empty text is found in them. -/
def namedJob (m : Machine) (name : Raw) : Except Raw Nat :=
  let found (place? : Option Nat) (message : Raw) : Except Raw Nat :=
    match place? with
    | some place => .ok place
    | none => .error message
  let missing := "No such job: ".toList ++ name
  match name with
  | ['%'] | ['%', '%'] | ['%', '+'] => found m.places.head? "No current job".toList
  | ['%', '-'] => found m.places[1]? "No previous job".toList
  | ['%', '?'] =>
      match m.places with
      | [place] => .ok place
      | [] => .error missing
      | _ => .error (name ++ ": ambiguous".toList)
  | '%' :: digits =>
      found (m.places.find? fun place => Integer.count? digits = some (place + 1)) missing
  | _ => .error missing

/-- The job whose last process has a number. -/
def placeWith? (m : Machine) (id : Nat) : Option Nat :=
  m.places.find? fun place => (m.job? place).any fun job => job.lastId == id

/-- Learns how a child ended. -/
def learn (m : Machine) (id : Nat) (fate : Fate) : Machine :=
  let told (job : Job) : Job :=
    if job.ids.contains id then { job with fates := (id, fate) :: job.fates } else job
  { m with toWorld := m.toWorld.forget id, jobs := m.jobs.map (Option.map told) }

end Machine

/-- The job that a text names, which is there. -/
def requireJob (name : Raw) : Act Nat := do
  match (← get).namedJob name with
  | .ok place => return place
  | .error message => failWith message

/-- Goes on with a job that was stopped. Without control over jobs there is none. -/
def resume (args : List Raw) : Act Nat := do
  let name? := (← options "" args).2.head?
  let _ ← requireJob (name?.getD ['%'])
  failWith ("job ".toList ++ name?.getD "(null)".toList
    ++ " not created under job control".toList)

/-! ## Ends -/

/-- Says which signal a process died by. -/
def report (fate : Fate) : Act Unit := do
  if let .killed signal := fate then
    let _ ← emit 2 (Signal.report signal)

/-- Learns of all children that have ended. With a job, says which signals its processes died
by. -/
def reap (place? : Option Nat) : Act Unit := do
  let m ← get
  for (id, fate) in m.ended m.id do
    modify fun m => m.learn id fate
    let isHere := place?.any fun place => (m.job? place).any fun job => job.ids.contains id
    if isHere then report fate

/-- Waits for a job. Signals that come meanwhile are looked at later. -/
def waitFor (fuel place : Nat) : Act Unit :=
  match fuel with
  | 0 => stay
  | fuel + 1 => do
      reap (some place)
      if (← get).job? place |>.any fun job => !job.isDone then
        pause none .child false
        waitFor fuel place

/-- Waits for a job, and gives its number back. Gives the status. -/
def waitUp (place : Nat) : Act Nat := do
  waitFor endless place
  reap none
  let m ← get
  set (m.dropJob place)
  return ((m.job? place).map Job.status).getD 0

/-- Begins a child as a process of a job. -/
def forkInto (place : Nat) (own : List (Nat × Nat)) (body : Act Unit) : Act Nat := do
  let id ← fork own body
  modify fun m => m.adjustJob place fun job => { job with ids := job.ids ++ [id] }
  return id

/-- Makes a job. Gives its place. -/
def newJob : Act Nat :=
  modifyGet Machine.addJob

/-- Does something in a child, and waits for it. Gives its status. -/
def inChild (body : Act Unit) : Act Nat := do
  let place ← newJob
  let _ ← forkInto place [] body
  waitUp place

/-! ## Waiting as a command -/

/-- Waits until a job has ended, or all have. Gives the signal that came before. -/
def waitAlert (fuel : Nat) (place? : Option Nat) : Act (Option Nat) :=
  match fuel with
  | 0 => stay
  | fuel + 1 => do
      reap place?
      let m ← get
      let isOver := match place? with
        | some place => (m.job? place).all Job.isDone
        | none => m.places.all fun place => (m.job? place).all Job.isDone
      let pending := (m.self?.map Process.pending).getD []
      if isOver then return none
      else
        match pending.head? with
        | some signal => return some signal
        | none =>
            pause none .child true
            waitAlert fuel place?

/-- Waits for each of some jobs. Gives the status of the last. -/
def waitEach (targets : List Raw) (status : Nat) : Act Nat :=
  match targets with
  | [] => return status
  | target :: others => do
      let m ← get
      let place? ← match target with
        | '%' :: _ => some <$> requireJob target
        | _ =>
            match Integer.whole? true target with
            | some n =>
                if 0 ≤ n && n ≤ 2147483647 then pure (m.placeWith? n.toNat)
                else failWith ("Illegal number: ".toList ++ target)
            | none => failWith ("Illegal number: ".toList ++ target)
      match place? with
      | none => waitEach others 127
      | some place =>
          match ← waitAlert endless (some place) with
          | some signal => return 128 + signal
          | none =>
              modify fun m => m.adjustJob place fun job => { job with waited := true }
              waitEach others (((← get).job? place).map Job.status |>.getD 0)

/-- Says that somebody asked how each job ended. -/
def Machine.allWaited (m : Machine) : Machine :=
  let asked (job : Job) : Job := { job with waited := true }
  { m with jobs := m.jobs.map (Option.map asked) }

/-- Waits for jobs, or for all. -/
def waitCommand (args : List Raw) : Act Nat := do
  match (← options "" args).2 with
  | [] =>
      match ← waitAlert endless none with
      | some signal => return 128 + signal
      | none =>
          modify Machine.allWaited
          return 0
  | targets => waitEach targets 127

/-! ## Lists of jobs -/

/-- How a job goes, in words. -/
def Job.state (j : Job) : Raw :=
  if !j.isDone then "Running".toList
  else
    match j.fates.lookup j.lastId with
    | some (.exited 0) | none => "Done".toList
    | some (.exited status) => "Done(".toList ++ Raw.ofNat status ++ [')']
    | some (.killed signal) => Signal.description signal

/-- A line about a job. With `long`, each of its processes has one. -/
def jobLine (m : Machine) (place : Nat) (long : Bool) (job : Job) : Raw :=
  let places := m.places
  let mark := if places.head? = some place then '+'
    else if places[1]? = some place then '-' else ' '
  let number := '[' :: Raw.ofNat (place + 1) ++ [']', ' ', mark, ' ']
  let head (text : Raw) : Raw :=
    text ++ List.replicate (max 1 (33 - text.length)) ' '
  let ids := job.ids
  if !long then
    head (number ++ job.state) ++ (ids.drop 1).flatMap (fun _ => " | ".toList) ++ ['\n']
  else
    let first := head (number ++ Raw.ofNat (ids.headD 0) ++ ' ' :: job.state)
    let others := (ids.drop 1).flatMap fun id =>
      let text := List.replicate number.length ' ' ++ Raw.ofNat id ++ [' ']
      " |\n".toList ++ head text
    first ++ others ++ ['\n']

/-- Shows the jobs that are chosen, and forgets those that have ended. -/
def showJobs (given : List Char) (places : List Nat) : Act Unit :=
  match places with
  | [] => return ()
  | place :: others => do
      let m ← get
      match m.job? place with
      | none => pure ()
      | some job =>
          if given.getLast? = some 'p' then
            let _ ← emit 1 (Raw.ofNat (job.ids.headD 0) ++ ['\n'])
          else
            let _ ← emit 1 (jobLine m place (given.contains 'l') job)
            if job.isDone then modify fun m => m.dropJob place
      showJobs given others

end SmtScript.Host.Shell
