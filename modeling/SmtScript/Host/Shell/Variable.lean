import SmtScript.Host.Shell.Arithmetic
import SmtScript.Host.Shell.Machine

/-!
# Parameters and variables

A parameter is a variable, an argument, or something that the shell knows about itself. Functions
can have variables of their own: what they had before comes back at the end.
-/

namespace SmtScript.Host.Shell

namespace Machine

def slot? (m : Machine) (name : Raw) : Option Variable :=
  m.vars.lookup name

def value? (m : Machine) (name : String) : Option Raw :=
  (m.slot? name.toList).bind Variable.value?

/-- The separators of fields. -/
def separators (m : Machine) : Raw :=
  (m.value? "IFS").getD standardSeparators

/-- What stands between the arguments where they are joined. -/
def joint (m : Machine) : Raw :=
  match m.value? "IFS" with
  | some separators => separators.take 1
  | none => [' ']

/-- The letters of options, in the order in which they are shown. -/
def optionLetters : Raw := "pubaCEVvxsnmiIfe".toList

/-- The value of a parameter. None where it has none. -/
def lookup? (m : Machine) (name : Raw) : Option Raw :=
  match name with
  | ['?'] => some (Raw.ofNat m.status)
  | ['#'] => some (Raw.ofNat m.args.length)
  | ['$'] => some (Raw.ofNat m.shell)
  | ['!'] => m.lastJob?.map Raw.ofNat
  | ['-'] => some (optionLetters.filter m.options.contains)
  | ['@'] | ['*'] => some (m.joint.intercalate m.args)
  | _ =>
      match Integer.count? name with
      | some 0 => some m.name
      | some n => m.args[n - 1]?
      | none => (m.slot? name).bind Variable.value?

def has (m : Machine) (option : Char) : Bool :=
  m.options.contains option

/-- The variables that other programs are given, the oldest first. -/
def environment (m : Machine) : List (Raw × Raw) :=
  m.vars.reverse.filterMap fun (name, v) => if v.exported then v.value?.map (name, ·) else none

/-- A shell keeps its variables in so many rows. -/
def rows : Nat := 39

/-- The row of a name among so many. -/
def rowOf (count : Nat) (name : Raw) : Nat :=
  name.foldl (fun sum c => sum + c.toNat) (16 * (name.headD '\x00').toNat) % count

/-- The row of a variable. -/
def row (name : Raw) : Nat :=
  rowOf rows name

/-- What is kept in so many rows by names, row by row. -/
def inRows {α : Type} (count : Nat) (items : List (Raw × α)) : List (Raw × α) :=
  items.mergeSort fun a b => rowOf count a.1 ≤ rowOf count b.1

/-- The machine as a shell hands it over to a program: the variables go row by row, and signals
that the shell ignores stay ignored. -/
def handedOver (m : Machine) : Machine :=
  { m with vars := m.vars.mergeSort fun a b => row b.1 ≤ row a.1, traps := [] }

/-- The machine after the search path has changed. -/
def afterPath (m : Machine) (name : Raw) : Machine :=
  if name = "PATH".toList then { m with found := [] } else m

/-- The variable that tells which argument is read next for options. -/
def optionVariable : Raw := "OPTIND".toList

/-- The machine where options are read from the start of an argument, the first if none is meant. -/
def readingFrom (m : Machine) (index : Nat) : Machine :=
  { m with optionIndex := max 1 index, optionPlace := 0 }

/-- The machine after options were asked to be read from another argument. -/
def afterOptions (m : Machine) (name : Raw) (v : Variable) : Machine :=
  if name = optionVariable then
    m.readingFrom (((v.value?.bind (Integer.whole? true)).map Int.toNat).getD 1)
  else m

/-- The machine with other arguments. Options are read from the first. -/
def withArguments (m : Machine) (args : List Raw) : Machine :=
  { m.readingFrom 1 with args := args }

def putVariable (m : Machine) (name : Raw) (v : Variable) : Machine :=
  let m := (m.afterPath name).afterOptions name v
  if m.vars.any fun entry => entry.1 == name then
    { m with vars := m.vars.map fun entry => if entry.1 == name then (name, v) else entry }
  else { m with vars := (name, v) :: m.vars }

def dropVariable (m : Machine) (name : Raw) : Machine :=
  { m.afterPath name with vars := m.vars.filter fun entry => entry.1 ≠ name }

/-- Remembers a variable for the end of the command, unless that was done before. -/
def remember (m : Machine) (name : Raw) : Machine :=
  match m.saved with
  | [] => m
  | frame :: others =>
      if frame.values.any fun entry => entry.1 == name then m
      else
        let values := (name, m.slot? name) :: frame.values
        { m with saved := { frame with values := values } :: others }

/-- Remembers the options for the end of the command, unless that was done before. -/
def rememberOptions (m : Machine) : Machine :=
  match m.saved with
  | [] => m
  | frame :: others =>
      { m with saved := { frame with options? := frame.options?.or (some m.options) } :: others }

/-- Makes room for what a command has as its own. -/
def openFrame (m : Machine) : Machine :=
  { m with saved := ⟨[], none⟩ :: m.saved }

/-- The directories of the search path. -/
def directories (m : Machine) : List Raw :=
  Raw.split ':' ((m.value? "PATH").getD [])

end Machine

/-- A whole number that is not too great. -/
def requireNumber (text : Raw) : Act Nat := do
  match Integer.whole? true text with
  | some n =>
      if 0 ≤ n && n ≤ 2147483647 then return n.toNat
      else failWith ("Illegal number: ".toList ++ text)
  | none => failWith ("Illegal number: ".toList ++ text)

/-- Fails unless a variable may have a value. -/
def requireFit (name value : Raw) : Act Unit := do
  if ((← get).slot? name).any Variable.fixed then failWith (name ++ ": is read only".toList)
  if name = Machine.optionVariable then
    let _ ← requireNumber value

def assign (name value : Raw) : Act Unit := do
  requireFit name value
  modify fun m =>
    let before := (m.slot? name).getD ⟨none, false, false⟩
    m.putVariable name
      { before with value? := some value, exported := before.exported || m.has 'a' }

/-- Gives a variable a value that other programs are given. -/
def assignExported (name value : Raw) : Act Unit := do
  assign name value
  modify fun m => m.putVariable name ⟨some value, true, false⟩

def unset (name : Raw) : Act Unit := do
  requireFit name []
  modify fun m => m.dropVariable name

/-- The variable that a text names: what comes before the first equals sign, if there is one. Fails
if that can be no name. -/
def requireName (text : Raw) : Act Raw := do
  let name := text.takeWhile fun c => c ≠ '='
  if isName name then return name else failWith (name ++ ": bad variable name".toList)

/-- Brings back what commands have made their own, until so many of them have theirs. A variable
whose name is none cannot be dropped. -/
def closeFrames (fuel count : Nat) : Act Unit :=
  match fuel with
  | 0 => return ()
  | fuel + 1 => do
      let m ← get
      match m.saved with
      | [] => return ()
      | frame :: others =>
          if m.saved.length ≤ count then return ()
          set { m with saved := others, options := frame.options?.getD m.options }
          for (name, before?) in frame.values do
            match before? with
            | some v => modify fun m => m.putVariable name v
            | none =>
                let name ← requireName name
                modify fun m => m.dropVariable name
          closeFrames fuel count

/-- Runs a command that may have variables and options of its own. If it ends the shell, they stay
for what the shell does then. -/
def inFrame (body : Act Unit) : Act Unit := do
  let count := (← get).saved.length
  modify Machine.openFrame
  let close : Act Unit := do closeFrames ((← get).saved.length + 1) count
  match ← attempt body with
  | .ok _ => close
  | .error .leave => throw .leave
  | .error .fail => throw .fail
  | .error exit => do
      close
      throw exit

/-- The value of a variable in an expression. -/
def numberIn (m : Machine) (name : Raw) : Except Raw Int :=
  let text := (m.lookup? name).getD []
  if text.all Integer.isBlank then .ok 0
  else
    match Integer.whole? false text with
    | some n => .ok n
    | none => .error ("Illegal number: ".toList ++ text)

/-- Ends by a signal, even if it is ignored. -/
def crash {α : Type} (signal : Nat) : Act α := do
  let m ← get
  set { m with toWorld := m.toWorld.finish m.id (.killed signal) }
  stay

/-- Ends as a process does that calculates what cannot be. One that remembers the signal comes to
the same place again and again. -/
def miscalculate {α : Type} : Act α := do
  if (← get).self?.any fun p => p.caught.contains Signal.arithmetic then stay
  else crash Signal.arithmetic

/-- The value of an expression, with the assignments in it. -/
def calculate (text : Raw) : Act Int := do
  let (result, assigned) := Arithmetic.eval (numberIn (← get)) text
  for (name, value) in assigned do assign name (Decimal.signed value)
  match result with
  | .ok n => return n
  | .error .overflow => miscalculate
  | .error (.expression message) | .error (.value message) => failWith message

end SmtScript.Host.Shell
