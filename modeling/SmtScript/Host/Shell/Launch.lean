import SmtScript.Host.Shell.Image
import SmtScript.Host.Shell.Option
import SmtScript.Host.Shell.Surroundings
import SmtScript.Host.Shell.Tool
import SmtScript.Host.Utility.Wait

/-!
# Programs that start others

`timeout` starts a program and sends a signal to it and its children when it has run for too long.
`nice` starts one that lets others go first.
-/

namespace SmtScript.Host.Shell

/-! ## Time limits -/

/-- What `timeout` is asked for. -/
structure Limit where
  /-- Nanoseconds, or zero where there is no limit. -/
  duration : Nat
  signal : Nat
  /-- After how many more nanoseconds the program is killed. Never if this is zero. -/
  grace : Nat
  /-- Does the status of the program count in any case? -/
  preserves : Bool
  /-- Do the children of the program go on? -/
  foreground : Bool
  verbose : Bool
  name : Raw
  args : List Raw

namespace Limit

def options : List Utility.Known :=
  Utility.known "k:s:v" "kill-after=k signal=s verbose=v foreground preserve-status"

/-- A time in nanoseconds. -/
def time (c : Call) (text : Raw) : Except Effect Nat :=
  match Utility.nanoseconds? text with
  | some time => .ok time
  | none =>
      .error (Utility.misused c 125 ("invalid time interval ".toList ++ Citation.escaped text))

/-- Goes on with an option. -/
def step (c : Call) (l : Limit) (key : Utility.Key) (value : Raw) : Except Effect Limit :=
  match key with
  | .letter 'k' => do return { l with grace := ← time c value }
  | .letter 's' =>
      match Surroundings.signal? value with
      | some signal => .ok { l with signal := signal }
      | none => .error (Utility.misused c 125 (Citation.escaped value ++ ": invalid signal".toList))
  | .letter _ => .ok { l with verbose := true }
  | .long "foreground" => .ok { l with foreground := true }
  | .long _ => .ok { l with preserves := true }

/-- Reads the arguments of a call. -/
def ofCall (c : Call) : Except Effect Limit := do
  let o := Utility.Options.read options true c.args
  let l ← o.over c 125 ⟨0, Signal.terminate, 0, false, false, false, [], []⟩ (step c)
  match o.operands with
  | duration :: name :: args =>
      return { l with duration := ← time c duration, name := name, args := args }
  | _ => .error (Utility.hinted c (.quiet c 125))

end Limit

/-! ## Going after others -/

/-- How much more a program lets others go first, as it was asked for, and its command. -/
structure Adjustment where
  given? : Option Raw
  command : List Raw

namespace Adjustment

/-- Reads the arguments of a call. The last number counts, which may follow the dash at once. -/
def ofArgs (c : Call) (fuel : Nat) (given? : Option Raw) (args : List Raw) :
    Except Effect Adjustment :=
  let known := Utility.known "n:" "adjustment=n"
  match fuel, args with
  | 0, _ | _, [] => .ok ⟨given?, args⟩
  | fuel + 1, first :: others =>
      let digits := match first with
        | '-' :: '-' :: rest | '-' :: '+' :: rest | '-' :: rest => rest
        | _ => []
      if digits.head?.any Char.isDigit then ofArgs c fuel (some (first.drop 1)) others
      else
        let (o, others) := Utility.Options.front known first others
        match o.over c 125 () (fun _ _ _ => .ok ()), o.value? 'n' with
        | .error e, _ => .error e
        | .ok _, some value => ofArgs c fuel (some value) others
        | .ok _, none => .ok ⟨given?, o.operands ++ others⟩

/-- The number, ten if none is given. None if what is given is no number. -/
def number? (a : Adjustment) : Option Int :=
  match a.given? with
  | none => some 10
  | some text =>
      match Integer.front? true text with
      | some (n, []) => some n
      | _ => none

end Adjustment

/-! ## Watching a child -/

/-- How a watched child stands. -/
structure Watch where
  child : Nat
  /-- When the next signal is sent. -/
  deadline? : Option Nat
  signal : Nat
  /-- How long after the first signal the child is killed. -/
  grace : Nat
  isLate : Bool

/-- Sends a signal to a child, and to its group unless it is in the foreground. -/
def Watch.strike (w : Watch) (l : Limit) (signal : Nat) : Act Watch := do
  let m ← get
  let next : Watch :=
    if w.grace = 0 then { w with deadline? := none }
    else { w with deadline? := some (m.clock + w.grace), signal := Signal.kill, grace := 0 }
  if l.verbose then
    let _ ← emit 2 ("timeout: sending signal ".toList ++ Signal.name signal
      ++ " to command ".toList ++ Citation.escaped l.name ++ ['\n'])
  modify fun m => { m with toWorld := m.toWorld.send w.child signal }
  if !l.foreground then
    modify fun m => m.adjustSelf fun p =>
      { p with ignored := signal :: p.ignored, caught := p.caught.filter (· ≠ signal) }
    modify fun m => { m with toWorld := m.toWorld.sendAll m.id signal }
    survive
    if signal ≠ Signal.kill && signal ≠ Signal.goOn then
      modify fun m => { m with toWorld := m.toWorld.sendAll m.id Signal.goOn }
  return next

/-- Watches a child until it ends. Gives how it ended, and whether it was late. Other children
that ended are forgotten. -/
def Watch.run (fuel : Nat) (l : Limit) (w : Watch) : Act (Fate × Bool) :=
  match fuel with
  | 0 => stay
  | fuel + 1 => do
      let m ← get
      let pending := (m.self?.map Process.pending).getD []
      match (m.ended m.id).lookup w.child with
      | some fate =>
          set { m with toWorld := m.toWorld.forget w.child }
          return (fate, w.isLate)
      | none =>
          match pending with
          | signal :: others =>
              set (m.adjustSelf fun p => { p with pending := others })
              Watch.run fuel l (← w.strike l signal)
          | [] =>
              if w.deadline?.any (· ≤ m.clock) then
                let next ← w.strike l w.signal
                Watch.run fuel l { next with isLate := true }
              else
                let ended := (m.ended m.id).map Prod.fst
                set { m with toWorld := ended.foldl World.forget m.toWorld }
                pause w.deadline? .child true
                Watch.run fuel l w

/-- The signals that whoever watches a child hands on. -/
def Limit.handed (l : Limit) : List Nat :=
  [1, 2, 3, 14, 15] ++ (if Signal.isFinal l.signal then [] else [l.signal])

/-- Does something in a child, with a time limit. -/
def underLimit (l : Limit) (body : Act Unit) : Act Unit := do
  let m ← get
  set (m.adjustSelf fun p =>
    { p with
      group := if l.foreground then p.group else p.id
      caught := l.handed
      ignored := p.ignored.filter fun s => !l.handed.contains s })
  let child ← fork [] body
  let m ← get
  let deadline? := if l.duration = 0 then none else some (m.clock + l.duration)
  let (fate, isLate) ← Watch.run endless l ⟨child, deadline?, l.signal, l.grace, false⟩
  match fate with
  | .exited status => setStatus (if isLate && !l.preserves then 124 else status)
  | .killed signal =>
      if !isLate then
        modify fun m => m.adjustSelf fun p =>
          { p with caught := [], ignored := p.ignored.filter (· ≠ signal) }
        raise signal
      setStatus (if isLate && !l.preserves && signal ≠ Signal.kill then 124 else 128 + signal)

end SmtScript.Host.Shell
