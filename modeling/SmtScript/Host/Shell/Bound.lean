import SmtScript.Host.Shell.Option

/-!
# Bounds of processes

A process has bounds on what it uses, one for now and one that the first can be raised to.
-/

namespace SmtScript.Host.Shell

/-- The resources by the letters of their options, with what they are called. -/
def resources : List (Char × String × Resource) :=
  [('t', "time(seconds)", .time), ('f', "file(blocks)", .blocks), ('d', "data(kbytes)", .data),
    ('s', "stack(kbytes)", .stack), ('c', "coredump(blocks)", .core),
    ('m', "memory(kbytes)", .resident), ('l', "locked memory(kbytes)", .locked),
    ('p', "process", .processes), ('n', "nofiles", .files), ('v', "vmemory(kbytes)", .memory),
    ('w', "locks", .locks), ('r', "rtprio", .priority)]

/-- The bounds that the first process has. -/
def standardBounds : List (Resource × Bound) :=
  [(.stack, ⟨some 8192, none⟩), (.core, ⟨some 0, none⟩), (.locked, ⟨some 8192, some 8192⟩),
    (.processes, ⟨some 128620, some 128620⟩), (.files, ⟨some 20000, some 20000⟩),
    (.priority, ⟨some 0, some 0⟩)]

/-- Is the first bound no greater than the second? -/
def isWithin (a? b? : Option Nat) : Bool :=
  match a?, b? with
  | _, none => true
  | none, some _ => false
  | some a, some b => a ≤ b

/-- Shows or sets bounds. -/
def bound (args : List Raw) : Act Nat := do
  let (given, args) ← options "HSatfdscmlpnvwr" args
  let keys := given.map Prod.fst
  let kind? := (keys.filter fun k => k == 'H' || k == 'S').getLast?
  let what := ((keys.filter fun k => !"HSa".toList.contains k).getLast?).getD 'f'
  let resource := ((resources.lookup what).map Prod.snd).getD .blocks
  let bounds := ((← get).self?.map Process.bounds).getD []
  let line (r : Resource) : Raw :=
    let b := (bounds.lookup r).getD ⟨none, none⟩
    (((if kind? = some 'H' then b.hard? else b.soft?).map Raw.ofNat).getD "unlimited".toList)
      ++ ['\n']
  match args with
  | [] =>
      let text := if keys.contains 'a' then
          resources.flatMap fun (_, name, r) => Utility.pad true 20 name.toList ++ ' ' :: line r
        else line resource
      let _ ← emit 1 text
      return 0
  | text :: others =>
      if keys.contains 'a' || !others.isEmpty then failWith "too many arguments".toList
      else if text ≠ "unlimited".toList && !text.all Char.isDigit then
        failWith "bad number".toList
      else
        let value? := if text = "unlimited".toList then none else some (Nat.ofDigitChars 10 text 0)
        let old := (bounds.lookup resource).getD ⟨none, none⟩
        let new : Bound :=
          { soft? := if kind? = some 'H' then old.soft? else value?
            hard? := if kind? = some 'S' then old.hard? else value? }
        let refused (reason : String) : Act Nat :=
          failWith ("error setting limit (" ++ reason ++ ")").toList
        if !isWithin new.soft? new.hard? then refused "Invalid argument"
        else if !isWithin new.hard? old.hard? then refused "Operation not permitted"
        else
          let others := bounds.filter fun b => b.1 ≠ resource
          modify fun m => m.adjustSelf fun p => { p with bounds := (resource, new) :: others }
          return 0

end SmtScript.Host.Shell
