import SmtScript.Host.Shell.Integer
import SmtScript.Host.Shell.Option
import SmtScript.Host.Shell.Machine
import SmtScript.Host.Utility.Effect
import SmtScript.Host.Citation
import SmtScript.Host.Signal

/-!
# Other surroundings

`env` starts a program with other variables, in another directory or with signals that have another
effect. A line that names the program that reads a script holds one argument only; `env` can break it
up into several. On request it tells what it does.
-/

namespace SmtScript.Host.Shell

/-! ## Breaking up -/

/-- Steps that tell what they do, and may fail. -/
abbrev Steps := EStateM Effect Raw

/-- Tells about a step if that is wanted. -/
def tell (wanted : Bool) (text : String) (rest : Raw) : Steps Unit :=
  modify fun told => if wanted then told ++ text.toList ++ rest ++ ['\n'] else told

/-- Characters that stand between words. -/
def isSpace (c : Char) : Bool :=
  " \t\n\x0b\x0c\r".toList.contains c

/-- Where the breaking up of a text is. -/
structure Breaking where
  /-- The words so far, the last first, with the last character first. -/
  words : List Raw
  /-- Does the next character start a word? -/
  apart : Bool
  quote? : Option Char

namespace Breaking

/-- Starts a word if none is open. -/
def start (b : Breaking) : Breaking :=
  if b.apart then { b with words := [] :: b.words, apart := false } else b

def add (b : Breaking) (text : Raw) : Breaking :=
  match b.start with
  | ⟨word :: others, apart, quote?⟩ => ⟨(text.reverse ++ word) :: others, apart, quote?⟩
  | b => b

/-- Opens or closes a quotation. -/
def turn (b : Breaking) (quote : Char) : Breaking :=
  { b.start with quote? := if b.quote?.isSome then none else some quote }

def result (b : Breaking) : List Raw :=
  b.words.reverse.map List.reverse

/-- What an escaped character stands for. -/
def escapes : List (Char × Char) :=
  [('"', '"'), ('#', '#'), ('$', '$'), ('\'', '\''), ('\\', '\\'), ('f', '\x0c'), ('n', '\n'),
    ('r', '\r'), ('t', '\t'), ('v', '\x0b')]

/-- The name of a variable in braces behind a dollar sign, and what comes after it. -/
def braced? : Raw → Option (Raw × Raw)
  | '{' :: text =>
      let name := text.takeWhile fun c => c.isAlphanum || c = '_'
      match text.drop name.length with
      | '}' :: rest => if name.head?.any fun c => !c.isDigit then some (name, rest) else none
      | _ => none
  | _ => none

/-- The words of a text. -/
def run (c : Call) (tells : Bool) (fuel : Nat) (b : Breaking) (text : Raw) : Steps (List Raw) := do
  let failed (message : Raw) : Steps (List Raw) := throw (Effect.failing c 125 message)
  match fuel, text with
  | 0, _ | _, [] =>
      if b.quote?.isSome then failed "no terminating quote in -S string".toList
      else return b.result
  | fuel + 1, l :: rest =>
      let isSingle := b.quote? = some '\''
      let isDouble := b.quote? = some '"'
      if l = '\'' && !isDouble || l = '"' && !isSingle then run c tells fuel (b.turn l) rest
      else if isSpace l && b.quote?.isNone then run c tells fuel { b with apart := true } rest
      else if l = '#' && b.apart then return b.result
      else if l = '$' && !isSingle then
        match braced? rest with
        | none =>
            failed ("only $\x7bVARNAME\x7d expansion is supported, error at: ".toList ++ text)
        | some (name, rest) =>
            let shown : Raw := "$\x7b".toList ++ name ++ ['\x7d']
            match c.environment.lookup name with
            | none =>
                tell tells "replacing " (shown ++ " with null string".toList)
                run c tells fuel b rest
            | some value =>
                tell tells "expanding " (shown ++ " into ".toList ++ Citation.escaped value)
                run c tells fuel (b.add value) rest
      else if l = '\\' && (!isSingle || rest.head? = some '\\' || rest.head? = some '\'') then
        match rest with
        | [] => failed "invalid backslash at end of string in -S".toList
        | '_' :: rest =>
            if isDouble then run c tells fuel (b.add [' ']) rest
            else run c tells fuel { b with apart := true } rest
        | 'c' :: _ =>
            if isDouble then
              failed "\x27\\c\x27 must not appear in double-quoted -S string".toList
            else return b.result
        | e :: rest =>
            match escapes.lookup e with
            | some meaning => run c tells fuel (b.add [meaning]) rest
            | none => failed ("invalid sequence \x27\\".toList ++ e :: "\x27 in -S".toList)
      else run c tells fuel (b.add [l]) rest

end Breaking

/-! ## The call -/

/-- What `env` is asked for. -/
structure Surroundings where
  /-- Are there no variables but the new ones? -/
  fresh : Bool
  dropped : List Raw
  assigned : List (Raw × Raw)
  directory? : Option Raw
  /-- What stands behind each variable that is shown. -/
  ending : Char
  /-- Are all steps told? -/
  tells : Bool
  /-- Are the signals shown that are ignored? -/
  lists : Bool
  /-- The signals that get another effect, each with whether it is ignored then and whether it has to
  work. The last one for a signal counts. -/
  signals : List (Nat × Bool × Bool)
  /-- The program and its arguments. Without a program the variables are shown. -/
  command : List Raw

namespace Surroundings

def options : List Utility.Known :=
  Utility.known "C:iS:u:v0 \t\n\x0b\x0c\r" <|
    "ignore-environment=i null=0 unset=u chdir=C default-signal:: ignore-signal::"
    ++ " block-signal:: list-signal-handling debug=v split-string=S"

/-- The signal of a name, of a number or of a status that it leaves. -/
def signal? (text : Raw) : Option Nat :=
  match Integer.count? text with
  | some n => Signal.ofText? 0 (Raw.ofNat (if 255 ≤ n then n - 255 else n % 128))
  | none =>
      let name := text.map Char.toUpper
      Signal.ofText? 0 (if "SIG".toList.isPrefixOf name then name.drop 3 else name)

/-- The signals of a list with commas. Those that are not named have not to work. -/
def signalsOf (c : Call) (ignored : Bool) (list : Raw) : Except Effect (List (Nat × Bool × Bool)) :=
  if list.isEmpty then
    .ok ((List.range Signal.limit).filterMap fun n =>
      if n = 0 || n = 32 || n = 33 then none else some (n, ignored, false))
  else
    ((Raw.split ',' list).filter (· ≠ [])).mapM fun name =>
      match signal? name with
      | some (n + 1) => .ok (n + 1, ignored, true)
      | _ => .error (Utility.misused c 125 (Citation.escaped name ++ ": invalid signal".toList))

/-- Goes on with an option. -/
def step (c : Call) (s : Surroundings) (key : Utility.Key) (value : Raw) :
    Except Effect Surroundings :=
  match key with
  | .letter 'i' => .ok { s with fresh := true }
  | .letter '0' => .ok { s with ending := '\x00' }
  | .letter 'v' => .ok { s with tells := true }
  | .letter 'u' => .ok { s with dropped := s.dropped ++ [value] }
  | .letter 'C' => .ok { s with directory? := some value }
  | .long "list-signal-handling" => .ok { s with lists := true }
  | .long "default-signal" => do
      return { s with signals := s.signals ++ (← signalsOf c false value) }
  | .long "ignore-signal" => do
      return { s with signals := s.signals ++ (← signalsOf c true value) }
  | .long "block-signal" => do
      let _ ← signalsOf c false value
      return s
  | .letter l =>
      if isSpace l then
        let e := Effect.failing c 125 ("invalid option -- ".toList ++ Citation.plain [l])
        let other := Utility.misused c 125 "use -[v]S to pass options in shebang lines".toList
        .error { other with said := e.said ++ other.said }
      else .ok s
  | _ => .ok s

/-- Reads the options word by word. The words of one that is broken up are read in its place. -/
def read (c : Call) (fuel : Nat) (s : Surroundings) (args : List Raw) : Steps Surroundings := do
  match fuel, args with
  | fuel + 1, ('-' :: l :: more) :: rest =>
      if l = '-' && more.isEmpty then return { s with command := rest }
      else
        let (o, rest) := Utility.Options.front options ('-' :: l :: more) rest
        match o.over c 125 s (step c) with
        | .error e => throw e
        | .ok s =>
            match o.value? 'S' with
            | none => read c fuel s rest
            | some text => do
                let words ← Breaking.run c s.tells (text.length + 1) ⟨[], true, none⟩ text
                if let first :: others := words then
                  tell s.tells "split -S:  " (Citation.escaped text)
                  tell s.tells " into:    " (Citation.escaped first)
                  for word in others do tell s.tells "     &    " (Citation.escaped word)
                read c fuel s (words ++ rest)
  | _, ['-'] :: rest => return { s with fresh := true, command := rest }
  | _, args => return { s with command := args }

/-- The bindings before the first argument that is none, and the arguments from there on. -/
def bindings : List Raw → List (Raw × Raw) × List Raw
  | [] => ([], [])
  | arg :: rest =>
      match binding arg with
      | (name, some value) =>
          let (assigned, command) := bindings rest
          ((name, value) :: assigned, command)
      | (_, none) => ([], arg :: rest)

/-- The signals that get another effect, in their order. -/
def changes (s : Surroundings) : List (Nat × Bool × Bool) :=
  (List.range Signal.limit).filterMap fun n =>
    (s.signals.reverse.lookup n).map fun change => (n, change)

/-- Are the signals ignored that were, and are the others, after the changes? -/
def ignored (s : Surroundings) (before : List Nat) : List Nat :=
  s.changes.foldl (fun list (n, ignores, _) =>
    let others := list.filter (· ≠ n)
    if ignores && !Signal.isFinal n then n :: others else others) before

/-- A line for each signal that is ignored. -/
def signalList (ignored : List Nat) : Raw :=
  (List.range Signal.limit).flatMap fun n =>
    if ignored.contains n then
      Utility.pad true 10 (Signal.name n) ++ " (".toList ++ Utility.pad false 2 (Raw.ofNat n)
        ++ "): IGNORE\n".toList
    else []

/-- Tells about the variables, and fails if one of them cannot be dropped. -/
def tellVariables (c : Call) (s : Surroundings) : Steps Unit := do
  if s.fresh then
    tell s.tells "cleaning environ" []
  else
    for name in s.dropped do
      tell s.tells "unset:    " name
      if name.isEmpty || name.contains '=' then
        throw (Effect.failing c 125 ("cannot unset ".toList ++ Citation.escaped name
          ++ ": Invalid argument".toList))
  for (name, value) in s.assigned do
    tell s.tells "setenv:   " (name ++ '=' :: value)

/-- Tells about the signals, and fails if one of them cannot have another effect. -/
def tellSignals (c : Call) (s : Surroundings) (before : List Nat) : Steps Unit := do
  for (n, ignores, required) in s.changes do
    let fails := Signal.isFinal n
    if fails && required then
      throw (Effect.failing c 125 ("failed to set signal action for signal ".toList ++ Raw.ofNat n
        ++ ": Invalid argument".toList))
    let effect := (if ignores then "IGNORE" else "DEFAULT").toList
    let note := (if fails then " (failure ignored)" else "").toList
    tell s.tells "Reset signal "
      (Signal.name n ++ " (".toList ++ Raw.ofNat n ++ ") to ".toList ++ effect ++ note)
  if s.lists then modify fun told => told ++ signalList (s.ignored before)

/-- Tells about the program, and fails if it cannot be started where it is to be. -/
def tellProgram (c : Call) (s : Surroundings) : Steps Unit := do
  if let some path := s.directory? then
    tell s.tells "chdir:    " (Citation.forShell path)
    if !c.isDirectory path then
      throw (Effect.failing c 125 ("cannot change directory to ".toList ++ Citation.forShell path
        ++ ": ".toList ++ if (c.entry? path).isSome then "Not a directory".toList
          else c.files.reason path))
  tell s.tells "executing: " (s.command.headD [])
  for (n, arg) in (List.range s.command.length).zip s.command do
    tell s.tells "   arg[" (Raw.ofNat n ++ "]= ".toList ++ Citation.escaped arg)

/-- What is asked for, where some signals are ignored. -/
def ofCall (c : Call) (before : List Nat) : Steps Surroundings := do
  let plain : Surroundings := ⟨false, [], [], none, '\n', false, false, [], []⟩
  let fuel := (c.args.map List.length).foldl Nat.add c.args.length + 1
  let s ← read c fuel plain c.args
  let (assigned, command) := bindings s.command
  let s := { s with assigned := assigned, command := command }
  s.tellVariables c
  if s.ending ≠ '\n' && !command.isEmpty then
    throw (Utility.misused c 125 "cannot specify --null (-0) with command".toList)
  if s.directory?.isSome && command.isEmpty then
    throw (Utility.misused c 125 "must specify command with --chdir (-C)".toList)
  if !command.isEmpty then
    s.tellSignals c before
    s.tellProgram c
  return s

/-- What is told, and what is asked for or why that cannot be. -/
def prepared (c : Call) (before : List Nat) : Raw × Except Effect Surroundings :=
  match (ofCall c before).run [] with
  | .ok s told => (told, .ok s)
  | .error e told => (told, .error e)

/-- Goes over to the surroundings. -/
def enter (s : Surroundings) : Act Unit := do
  modify fun m => if s.fresh then { m with vars := [] } else m
  if !s.fresh then s.dropped.forM fun name => modify fun m => m.dropVariable name
  s.assigned.forM fun (name, value) =>
    modify fun m => m.putVariable name ⟨some value, true, false⟩
  if !s.command.isEmpty then
    modify fun m => m.adjustSelf fun p => { p with ignored := s.ignored p.ignored }
  if let some path := s.directory? then
    modify fun m =>
      let place := (m.here.locate? path).getD m.working
      m.adjustSelf fun p => { p with working := place }

/-- Shows the variables. -/
def shown (s : Surroundings) (c : Call) : Effect :=
  .saying c (c.environment.flatMap fun v => v.1 ++ '=' :: v.2 ++ [s.ending])

end Surroundings

end SmtScript.Host.Shell
