import SmtScript.Host.Shell.Redirection

/-!
# Utilities as processes

A utility says what comes of all of its input. As a process it reads piece by piece: one that may
be done early looks at each piece, and one that handles line by line writes what can not
change any more. Some only pass on what they read.
-/

namespace SmtScript.Host.Shell

/-! ## Calls -/

/-- The call of a utility that is part of the shell: it looks neither at its input nor at the
variables. -/
def innerCall (m : Machine) (name : Raw) (args : List Raw) : Call :=
  { name := name, args := args, files := m.here, input := []
    inputFault? := none, inputIsClosed := false, inputFile? := none, outputFile? := none
    environment := [], mask := m.mask, piped := [] }

/-- The call of a utility with some input. -/
def callOf (m : Machine) (name : Raw) (args : List Raw) (input : Raw) : Call :=
  { innerCall m name args with
    input := input
    inputFault? := m.unreadable? 0
    inputIsClosed := (m.stream? 0).isNone
    inputFile? := (m.stream? 0).bind Stream.file?
    outputFile? := (m.stream? 1).bind Stream.file?
    environment := m.environment }

/-- Writes what a utility says, with what stands before its messages. Gives the reason of a
failure, after which there is no more output, only messages. -/
def sayAll (before : Raw) (failed? : Option Raw) : List Said → Act (Option Raw)
  | [] => return failed?
  | .out text :: others => do
      let result? ← if failed?.isSome then pure none else write 1 text
      sayAll before (failed?.orElse fun _ => result?) others
  | .err text :: others => do
      let _ ← emit 2 (before ++ text)
      sayAll before failed? others

/-- The files that a utility leaves. -/
def leave (e : Effect) : Act Unit :=
  modify fun m => { m with toWorld := m.toWorld.withFiles e.files }

/-! ## Reading piece by piece -/

/-- Nanoseconds without input after which a utility looks at what it has. -/
def patience : Nat := 1000000

/-- Utilities that may be done before the end of the input. -/
def attentive : List String :=
  ["head", "grep", "egrep", "fgrep", "sed"]

/-- Utilities that write line by line. -/
def flowing : List String :=
  ["grep", "egrep", "fgrep", "sed", "tr", "cut", "rev", "nl", "cat"]

/-- The front that two texts have in common, up to the end of a line. -/
def commonLines (a b : Raw) : Raw :=
  let same := ((a.zip b).takeWhile fun (c, d) => c == d).map Prod.fst
  (same.reverse.dropWhile (· ≠ '\n')).reverse

/-- A text up to the last end of a line. -/
def completeLines (text : Raw) : Raw :=
  (text.reverse.dropWhile (· ≠ '\n')).reverse

/-- What is left of a text after the last end of a line but one. -/
def withoutLastLine (text : Raw) : Raw :=
  ((text.reverse.drop 1).dropWhile (· ≠ '\n')).reverse

/-- What a utility says to its output. -/
def outputOf (e : Effect) : Raw :=
  e.said.flatMap fun
    | .out text => text
    | .err _ => []

/-- A utility that reads a stream. -/
structure Intake where
  name : String
  /-- What comes of an input. -/
  effect : Machine → Raw → Effect
  index : Nat

/-- What was read, and what of that was looked at and written. -/
structure Progress where
  /-- The last first. -/
  pieces : List Raw
  size : Nat
  /-- How much was there when it was looked at last. -/
  seen : Nat
  /-- How much was there when something was written last. -/
  flowed : Nat
  written : Nat

/-- So much has to be there before anything is written. -/
def flowLimit : Nat := 32768

/-- So much is read at once by a utility that may be done early. -/
def shortRead : Nat := 8192

namespace Progress

def none : Progress :=
  ⟨[], 0, 0, 0, 0⟩

def text (p : Progress) : Raw :=
  p.pieces.reverse.flatten

def add (p : Progress) (piece : Raw) : Progress :=
  { p with pieces := piece :: p.pieces, size := p.size + piece.length }

/-- Is there much more than when it was looked at? -/
def isDue (p : Progress) : Bool :=
  p.seen < p.size && (p.size ≤ atomLimit || 2 * p.seen ≤ p.size)

end Progress

namespace Intake

/-- What comes of the input up to here, if more would change nothing. -/
def early? (r : Intake) (m : Machine) (p : Progress) : Option Effect :=
  let e := r.effect m (if r.name = "head" then p.text else completeLines p.text)
  if e.early then some e else .none

/-- Writes what will not change any more. -/
def flow (r : Intake) (p : Progress) : Act Progress := do
  let m ← get
  let lines := completeLines p.text
  let text := commonLines (outputOf (r.effect m lines)) (outputOf (r.effect m (withoutLastLine lines)))
  let _ ← write 1 (text.drop p.written)
  return { p with flowed := p.size, written := max p.written text.length }

/-- Waits for more to look at. Says whether it is time to look at what there is. -/
def isTime (r : Intake) (p : Progress) : Act Bool := do
  let m ← get
  if !attentive.contains r.name || p.seen = p.size then return false
  else if p.isDue then return true
  else
    if !m.hasInput r.index then pause (some (m.clock + patience)) (.input r.index) false
    return !(← get).hasInput r.index

/-- Reads until it is known what comes of the input. Gives that, and how much of it was written
already. -/
def read (fuel : Nat) (r : Intake) (p : Progress) : Act (Effect × Nat) :=
  match fuel with
  | 0 => stay
  | fuel + 1 => do
      let looks ← r.isTime p
      let m ← get
      match if looks then r.early? m p else .none with
      | some e => return (e, p.written)
      | .none =>
          let p := if looks then { p with seen := p.size } else p
          let flows := flowing.contains r.name && flowLimit ≤ p.size && 2 * p.flowed ≤ p.size
          let p ← if flows then r.flow p else pure p
          let here ← readSome r.index (if r.name = "head" then shortRead else readLimit)
          if here.isEmpty then return (r.effect (← get) p.text, p.written)
          else r.read fuel (p.add here)

end Intake

/-- Takes the front off what a utility says to its output. -/
def withoutFront (count : Nat) (e : Effect) : Effect :=
  if count = 0 then e
  else
    let errors := e.said.filter fun
      | .out _ => false
      | .err _ => true
    { e with said := .out ((outputOf e).drop count) :: errors }

/-- Reads a file at a stream to its end, or as far as a utility takes it. -/
def readFile (r : Intake) : Act Effect := do
  let m ← get
  let start := ((m.streamAt? r.index).map Stream.position).getD 0
  let text := m.ahead r.index (m.sizeAt r.index - start)
  let e := r.effect m text
  set (m.skip r.index (e.taken?.getD text.length))
  return e

/-- Reads what a utility asks for, and gives what comes of it. -/
def effectOf (name : String) (called : Raw) (args : List Raw) (utility : Call → Effect) :
    Act Effect := do
  let m ← get
  let effect (m : Machine) (text : Raw) : Effect := utility (callOf m called args text)
  let e := effect m []
  match if e.taken?.isNone && !e.early then m.readable? 0 else none with
  | none => return e
  | some index =>
      let r : Intake := ⟨name, effect, index⟩
      if ((m.streamAt? index).bind Stream.file?).isSome then readFile r
      else
        let (e, written) ← r.read endless Progress.none
        return withoutFront written e

/-! ## Acting -/

/-- Writes the same again and again. Gives the reason of the failure that ends this. -/
def sayAgain (fuel : Nat) (said : List Said) : Act (Option Raw) :=
  match fuel with
  | 0 => stay
  | fuel + 1 => do
      work chunkCost
      match ← sayAll [] none said with
      | none => sayAgain fuel said
      | some reason => return some reason

/-- Does what a utility does. Gives the reason why it could not write. -/
def perform (before : Raw) (e : Effect) : Act (Option Raw) := do
  leave e
  if e.duration ≠ 0 then waitUntil ((← get).clock + e.duration) false
  let failed? ← sayAll before none e.said
  match failed?, e.finish with
  | some reason, _ => return some reason
  | none, .ends => return none
  | none, .repeats => sayAgain endless e.said
  | none, .stays => stay

/-- What a program says that could not write its output, and its status then. -/
def complaint (called reason : Raw) (isOpen : Bool) : Raw × Nat :=
  let line (text : String) : Raw := called ++ text.toList ++ reason ++ ['\n']
  match String.ofList (Utility.lastPart called) with
  | "env" | "nice" | "timeout" | "nohup" => (line ": write error: ", 125)
  | "expr" => (line ": write error: ", 3)
  | "ls" | "grep" | "egrep" | "fgrep" | "printenv" => (line ": write error: ", 2)
  | "sort" =>
      (line ": fflush failed: \x27standard output\x27: " ++ called ++ ": write error\n".toList, 2)
  | "sed" =>
      (line (if isOpen then ": couldn\x27t flush stdout: " else ": couldn\x27t close stdout: "), 4)
  | "yes" => (line ": standard output: ", 1)
  | "tee" => (line ": \x27standard output\x27: ", 1)
  | _ => (line ": write error: ", 1)

/-- Complains that the output could not be written. -/
def complainOfWriting (called reason : Raw) (status : Nat) : Act Unit := do
  let (message, least) := complaint called reason ((← get).stream? 1).isSome
  let _ ← emit 2 message
  setStatus (max least status)

/-- A utility that is a program of its own. -/
def runTool (called : Raw) (e : Effect) : Act Unit := do
  match ← perform [] e with
  | none => setStatus e.status
  | some reason => complainOfWriting called reason e.status

/-- A utility that is part of the shell. It leaves all files as they are. -/
def runInner (name : Raw) (e : Effect) : Act Nat := do
  if e.said.isEmpty then return e.status
  let m ← get
  let before := m.name ++ ": ".toList ++ Raw.ofNat m.line ++ ": ".toList
  match ← sayAll before none e.said with
  | none => return e.status
  | some _ =>
      warn (name ++ ": I/O error".toList)
      return e.status ||| 1

/-! ## Passing on -/

/-- Passes on what is read to some streams. Says what could not be written to the first. -/
def passOn (fuel index : Nat) (targets : List Nat) : Act (Option Raw) :=
  match fuel with
  | 0 => stay
  | fuel + 1 => do
      let here ← readSome index readLimit
      if here.isEmpty then return none
      else
        let mut failed? := none
        for number in targets do
          let result? ← write number here
          if failed?.isNone then failed? := result?
        match failed? with
        | some reason => return some reason
        | none => passOn fuel index targets

/-- Opens a file at a number that no child gets. Gives the number, or why there is none. -/
def openSpare (path : Raw) (kind : RedirectKind) : Act (Except Raw Nat) := do
  let m ← get
  let number := m.freeNumber World.privateNumbers
  match ← openFile false number path kind with
  | none => return .ok number
  | some _ => return .error (m.here.reason path)

/-- Utilities that read the files that they are given. -/
def readers : List String :=
  ["cat", "tac", "rev", "nl", "head", "tail", "wc", "sort", "uniq", "cut", "grep", "egrep", "fgrep",
    "sed", "cp"]

/-- Reads the named pipes among some paths. -/
def readPipes : List Raw → Act (List (Nat × Raw))
  | [] => return []
  | path :: others => do
      match (← get).here.entry? path with
      | some (.fifo pipe) =>
          match ← openSpare path .input with
          | .error _ => readPipes others
          | .ok number =>
              let text ← readAll endless ((← get).placeAt number) []
              close number
              return (pipe, text) :: (← readPipes others)
      | _ => readPipes others

/-- Runs a utility by its name. -/
def runUtility (name : String) (called : Raw) (args : List Raw) : Act Unit := do
  match Utility.installed.lookup name with
  | none => setStatus 127
  | some utility =>
      let isDeep := args.any fun arg => arg.head? = some '-' && arg.any "rRa".toList.contains
      let reads := readers.contains name && !(name = "cp" && isDeep)
      let piped ← if reads then readPipes args else pure []
      runTool called (← effectOf name called args fun c => utility { c with piped := piped })

/-- Writes files one after the other as they are. -/
def passFiles (called : Raw) (status : Nat) : List Raw → Act Nat
  | [] => return status
  | path :: others => do
      let m ← get
      let complain (message : Raw) : Act Nat := do
        let _ ← emit 2 (called ++ ": ".toList ++ message ++ ['\n'])
        passFiles called 1 others
      let opened ← if path = ['-'] then
          pure (match m.unreadable? 0 with
            | none => Except.ok 0
            | some reason => .error reason)
        else if m.here.entry? path = some .directory then
          pure (.error "Is a directory".toList)
        else openSpare path .input
      match opened with
      | .error reason => complain (Citation.bare path ++ ": ".toList ++ reason)
      | .ok number =>
          let m ← get
          let source? := (m.stream? number).map Stream.source
          let target? := m.stream? 1
          let isSame := (target?.bind Stream.file?).isSome
            && source? == target?.map Stream.source
          let target := (target?.map fun s =>
            if s.adds then m.sizeAt (m.placeAt 1) else s.position).getD 0
          let isBehind := ((m.stream? number).map Stream.position).getD 0 < target
          if isSame && isBehind then
            if number ≠ 0 then close number
            complain (Citation.bare path ++ ": input file is output file".toList)
          else
            let failed? ← passOn endless (m.placeAt number) [1]
            if number ≠ 0 then close number
            match failed? with
            | none => passFiles called status others
            | some reason =>
                let _ ← emit 2 (called ++ ": write error: ".toList ++ reason ++ ['\n'])
                return 1

/-- Writes files one after the other as they are, if there is anywhere to write. Gives the
status. -/
def passAll (called : Raw) (paths : List Raw) : Act Nat := do
  match (← get).stream? 1 with
  | some _ =>
      let status ← passFiles called 0 paths
      if paths.contains ['-'] && ((← get).stream? 0).isNone then
        let _ ← emit 2 (called ++ ": closing standard input: Bad file descriptor\n".toList)
        return 1
      else return status
  | none =>
      let _ ← emit 2 (called ++ ": standard output: Bad file descriptor\n".toList)
      return 1

/-- Is the call of `cat` one without options that change anything? -/
def plainCat? (args : List Raw) : Option (List Raw) :=
  let o := Utility.Options.read (Utility.known "u" "") false args
  let isPlain := o.fault?.isNone && o.given.all fun g => g.1 = 'u'
  if isPlain then some (Utility.orInput o.operands) else none

/-- Writes the input to files, too. -/
def tee (called : Raw) (args : List Raw) : Act Unit := do
  let known := Utility.known "aip" "append=a ignore-interrupts=i output-error::"
  let m ← get
  let o := Utility.Options.read known false args
  let c := callOf m called args []
  let words := ["warn", "warn-nopipe", "exit", "exit-nopipe"].map fun word => (word, word)
  let step (_ : Unit) (key : Utility.Key) (value : Raw) : Except Effect Unit := do
    if key = .long "output-error" && !value.isEmpty then
      let _ ← Utility.meant c "--output-error" words value
  match o.over c 1 () step with
  | .error e => runTool called e
  | .ok _ =>
      let kind : RedirectKind := if o.has 'a' then .append else .output
      let mut numbers := []
      let mut status := 0
      for path in o.operands do
        match ← openSpare path kind with
        | .ok number => numbers := numbers ++ [number]
        | .error reason =>
            let _ ← emit 2 (called ++ ": ".toList ++ Citation.bare path ++ ": ".toList ++ reason ++ ['\n'])
            status := 1
      let m ← get
      match m.readable? 0 with
      | none =>
          let reason := (m.unreadable? 0).getD []
          let _ ← emit 2 (called ++ ": read error: ".toList ++ reason ++ ['\n'])
          if (m.stream? 0).isNone then
            let _ ← emit 2 (called ++ ": standard input: ".toList ++ reason ++ ['\n'])
          status := 1
      | some index =>
          match ← passOn endless index (1 :: numbers) with
          | none => pure ()
          | some reason =>
              let _ ← emit 2 (complaint called reason true).1
              status := 1
      setStatus status

end SmtScript.Host.Shell
