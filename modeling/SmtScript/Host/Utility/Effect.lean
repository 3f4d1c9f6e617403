import SmtScript.Host.Citation
import SmtScript.Host.FileSystem

/-!
# What utilities do

A utility is a small program. It reads files and its input, may change files, writes output and
messages, takes time, and ends with a status.
-/

namespace SmtScript.Host

/-- Gives a file a new content, as a utility does, and makes it where there is none. -/
def FileSystem.overwrite? (fs : FileSystem) (path : Raw) (content : Utf8.Bytes) :
    Option FileSystem :=
  match fs.locate? path with
  | none => none
  | some loc =>
      match fs.at? loc with
      | none => some (fs.create loc standardMode ⟨content.toArray⟩)
      | some (.file number) => some (fs.store number ⟨content.toArray⟩)
      | some (.device .full) => if content.isEmpty then some fs else none
      | some (.device _) => some fs
      | some .directory | some (.program _) | some (.link _) | some (.fifo _) => none

/-- What a utility is called with. -/
structure Call where
  name : Raw
  args : List Raw
  files : FileSystem
  input : Raw
  /-- Why nothing can be read. -/
  inputFault? : Option Raw
  /-- Is there no input, not even one that cannot be read? -/
  inputIsClosed : Bool
  /-- The file that the input comes from. -/
  inputFile? : Option Nat
  /-- The file that the output goes to. -/
  outputFile? : Option Nat
  environment : List (Raw × Raw)
  /-- The permissions that new files do not get. -/
  mask : Nat
  /-- What came out of named pipes, by their numbers. -/
  piped : List (Nat × Raw)

/-- A piece of what a utility writes. -/
inductive Said where
  | out (text : Raw)
  | err (text : Raw)

/-- What a utility does when all is done. -/
inductive Finish where
  | ends
  /-- It writes the same once more, until nobody reads any more. -/
  | repeats
  /-- It stays without doing anything. -/
  | stays
deriving DecidableEq

structure Effect where
  files : FileSystem
  /-- In the order in which it is written. -/
  said : List Said
  status : Nat
  /-- Nanoseconds. -/
  duration : Nat
  /-- How much of the input was taken. None if it was read to its end. -/
  taken? : Option Nat
  /-- Would more input change nothing? -/
  early : Bool
  finish : Finish

namespace Effect

/-- Nothing but a status. -/
def quiet (c : Call) (status : Nat) : Effect :=
  ⟨c.files, [], status, 0, some 0, false, .ends⟩

def say (e : Effect) (text : Raw) : Effect :=
  if text.isEmpty then e else { e with said := e.said ++ [.out text] }

def saying (c : Call) (text : Raw) : Effect :=
  (quiet c 0).say text

/-- Goes on with a message about a failure. -/
def complain (e : Effect) (c : Call) (status : Nat) (message : Raw) : Effect :=
  { e with status := status
           said := e.said ++ [.err (c.name ++ ": ".toList ++ message ++ ['\n'])] }

def failing (c : Call) (status : Nat) (message : Raw) : Effect :=
  (quiet c 0).complain c status message

/-- Says at the end that the input, if it is among the paths, cannot be closed. -/
def closing (e : Effect) (c : Call) (paths : List Raw) (name : String) : Effect :=
  if c.inputIsClosed && paths.contains ['-'] then
    e.complain c 1 (name.toList ++ ": Bad file descriptor".toList)
  else e

/-- Says that all of the input was read. -/
def afterAll (e : Effect) : Effect :=
  { e with taken? := none }

/-- Says that more input would change nothing. -/
def settled (e : Effect) : Effect :=
  { e with early := true }

/-- Says that there is no end of it. -/
def repeating (e : Effect) : Effect :=
  { e with finish := .repeats }

def staying (e : Effect) : Effect :=
  { e with finish := .stays }

end Effect

/-- Does the path stand for a stream of whoever uses it? -/
def FileSystem.isStream (files : FileSystem) (path : Raw) (number : Nat) : Bool :=
  files.entry? path == some (.device (.stream number))

/-- The number of the file at a path. -/
def FileSystem.number? (files : FileSystem) (path : Raw) : Option Nat :=
  match files.entry? path with
  | some (.file number) => some number
  | _ => none

namespace Call

def entry? (c : Call) (path : Raw) : Option Entry :=
  c.files.entry? path

def isDirectory (c : Call) (path : Raw) : Bool :=
  c.entry? path == some .directory

/-- Does the path stand for the input? -/
def isInput (c : Call) (path : Raw) : Bool :=
  path = ['-'] || c.files.isStream path 0

end Call

/-- Why a path cannot be used as a file. -/
def FileSystem.reason (files : FileSystem) (path : Raw) : Raw :=
  match files.resolve true path with
  | .error fault => fault.text
  | .ok loc => if files.isDirectoryAt loc then "Is a directory".toList else Fault.missing.text

namespace Call

/-- The content of a file, or why it has none. A lone dash is the input. -/
def read (c : Call) (path : Raw) : Except Raw Raw :=
  if c.isInput path then
    match c.inputFault? with
    | some reason => .error reason
    | none => .ok c.input
  else
    match c.entry? path, c.files.read? path with
    | some (.fifo number), _ => .ok ((c.piped.lookup number).getD [])
    | _, some content => .ok (Raw.ofBytes content)
    | _, none => .error (c.files.reason path)

/-- Has the file no end? -/
def isEndless (c : Call) (path : Raw) : Bool :=
  match c.entry? path with
  | some (.device .zero) | some (.device .full) => path ≠ ['-']
  | _ => false

/-- What each of several paths holds, or why it cannot be read. The input can be read once. -/
def sources (c : Call) : List Raw → List (Raw × Except Raw Raw)
  | [] => []
  | path :: others =>
      (path, c.read path)
        :: (if c.isInput path then { c with input := [] } else c).sources others

/-- Does a path lead to the file that the output goes to? -/
def isOutput (c : Call) (path : Raw) : Bool :=
  c.outputFile?.isSome
    && c.outputFile? == if c.isInput path then c.inputFile? else c.files.number? path

end Call

/-- Says what comes of reading a path. -/
def Effect.afterPath (e : Effect) (c : Call) (path : Raw) : Effect :=
  let e := if c.isInput path then e.afterAll else e
  if c.isEndless path then e.repeating else e

namespace Utility

/-- The paths, or the input where there is none. -/
def orInput (paths : List Raw) : List Raw :=
  if paths.isEmpty then [['-']] else paths

/-- Spaces to the left, or to the right, up to a width. -/
def pad (left : Bool) (width : Nat) (text : Raw) : Raw :=
  let missing := List.replicate (width - text.length) ' '
  if left then text ++ missing else missing ++ text

/-! ## Options -/

/-- What an option wants behind it. -/
inductive Argument where
  | none
  /-- Only in the same word. -/
  | optional
  | required
deriving DecidableEq

/-- What tells an option from others: a letter, or the name of one that has no letter. -/
inductive Key where
  | letter (l : Char)
  | long (name : String)
deriving DecidableEq

instance : Coe Char Key :=
  ⟨.letter⟩

instance : Coe String Key :=
  ⟨.long⟩

/-- An option that a utility knows, by one of its names. -/
structure Known where
  key : Key
  long? : Option String
  argument : Argument

/-- The options that are given, with their arguments, and the other arguments. -/
structure Options where
  given : List (Key × Raw)
  operands : List Raw
  /-- What is wrong with the argument behind those that were read. -/
  fault? : Option Raw

namespace Options

def has (o : Options) (key : Key) : Bool :=
  o.given.any fun g => g.1 == key

def hasAny (o : Options) (letters : String) : Bool :=
  letters.toList.any fun l => o.has l

/-- The argument of an option. The last one counts. -/
def value? (o : Options) (key : Key) : Option Raw :=
  (o.given.reverse.find? fun g => g.1 == key).map Prod.snd

def values (o : Options) (key : Key) : List Raw :=
  (o.given.filter fun g => g.1 == key).map Prod.snd

/-- The letters that are given. -/
def letters (o : Options) : List Char :=
  o.given.filterMap fun g =>
    match g.1 with
    | .letter l => some l
    | .long _ => none

/-- The last of some options that is given. -/
def last? (o : Options) (keys : List Key) : Option Key :=
  (o.given.map Prod.fst).reverse.find? keys.contains

/-- An option by its long name or the start of one. What begins so has to be one option, whatever
names that has. -/
def longNamed (known : List Known) (name text : Raw) : Except Raw (Raw × Known) :=
  let word (name : Raw) : Raw := Citation.plain ("--".toList ++ name)
  let named := known.filterMap fun k => k.long?.map fun long => (long.toList, k)
  let fitting := named.filter fun (long, _) => name.isPrefixOf long
  match named.find? fun (long, _) => long == name, fitting with
  | some found, _ => .ok found
  | none, [] => .error ("unrecognized option ".toList ++ word text)
  | none, first :: others =>
      match others.filter fun other => other.2.key ≠ first.2.key with
      | [] => .ok first
      | others =>
          .error ("option ".toList ++ word text ++ " is ambiguous; possibilities:".toList
            ++ (first :: others).flatMap fun (long, _) => ' ' :: word long)

/-- Puts an option before the others. -/
def add (key : Key) (value : Raw) (o : Options) : Options :=
  { o with given := (key, value) :: o.given }

/-- No arguments but one with a fault. -/
def faulty (message : Raw) : Options :=
  ⟨[], [], some message⟩

/-- The letters after a dash, the last of which may take the next argument. Gives whether it
does. -/
def afterDash (known : List Known) (next? : Option Raw) : Raw → Options × Bool
  | [] => (⟨[], [], none⟩, false)
  | l :: rest =>
      match known.find? fun k => k.key = .letter l with
      | none => (faulty ("invalid option -- ".toList ++ Citation.plain [l]), false)
      | some k =>
          let alone : Options := ⟨[], [], none⟩
          match k.argument, rest, next? with
          | .none, _, _ =>
              let (o, takes) := afterDash known next? rest
              (o.add l [], takes)
          | .optional, _, _ | .required, _ :: _, _ => (alone.add l rest, false)
          | .required, [], some next => (alone.add l next, true)
          | .required, [], none =>
              (faulty ("option requires an argument -- ".toList ++ Citation.plain [l]), false)

/-- The options, and those that come after them. -/
def andThen (o next : Options) : Options :=
  if o.fault?.isSome then o else { next with given := o.given ++ next.given }

/-- The options that ask what a utility can do. -/
def common : List Known :=
  ["help", "version"].map fun name => ⟨.long name, some name, .none⟩

/-- Reads the arguments. With `strict`, the options end at the first other argument. -/
def read (known : List Known) (strict : Bool) : List Raw → Options
  | [] => ⟨[], [], none⟩
  | ['-', '-'] :: rest => ⟨[], rest, none⟩
  | ('-' :: '-' :: text) :: rest =>
      let name := text.takeWhile (· ≠ '=')
      match longNamed (known ++ common) name text with
      | .error message => faulty message
      | .ok (long, k) =>
          let refused (what : String) : Options :=
            faulty ("option ".toList ++ Citation.plain ("--".toList ++ long) ++ what.toList)
          match text.drop name.length, k.argument, rest with
          | _ :: _, .none, _ => refused " doesn\x27t allow an argument"
          | [], .required, [] => refused " requires an argument"
          | [], .required, value :: rest => (read known strict rest).add k.key value
          | value, _, rest => (read known strict rest).add k.key (value.drop 1)
  | ('-' :: l :: more) :: rest =>
      match afterDash known rest.head? (l :: more), rest with
      | (o, true), _ :: rest => o.andThen (read known strict rest)
      | (o, _), rest => o.andThen (read known strict rest)
  | operand :: rest =>
      if strict then ⟨[], operand :: rest, none⟩
      else
        let o := read known strict rest
        { o with operands := operand :: o.operands }

/-- The options in the first argument, and the arguments that come after them. -/
def front (known : List Known) (first : Raw) (others : List Raw) : Options × List Raw :=
  let alone := read known true [first]
  match alone.fault?, others with
  | some _, next :: others => (read known true [first, next], others)
  | _, _ => (alone, others)

end Options

/-- Options by their letters; a colon after a letter says that it takes an argument, and two
that it may. -/
def lettered : Raw → List Known
  | l :: ':' :: ':' :: rest => ⟨l, none, .optional⟩ :: lettered rest
  | l :: ':' :: rest => ⟨l, none, .required⟩ :: lettered rest
  | l :: rest => ⟨l, none, .none⟩ :: lettered rest
  | [] => []

/-- An option by its long name. Behind an equals sign stands what it is another name of: a letter, or
an option that has no letter. Such an option has colons behind it as letters have. -/
def named (short : List Known) (spec : Raw) : Known :=
  let plain := spec.takeWhile (· ≠ ':')
  let name := plain.takeWhile (· ≠ '=')
  let key : Key := match plain.drop (name.length + 1) with
    | [] => .long (String.ofList name)
    | [l] => .letter l
    | other => .long (String.ofList other)
  let argument : Argument := match short.find? fun k => k.key == key, spec.length - plain.length with
    | some k, _ => k.argument
    | none, 0 => .none
    | none, 1 => .required
    | none, _ => .optional
  ⟨key, some (String.ofList name), argument⟩

/-- The options of a utility: the letters, and the long names with blanks between them. -/
def known (letters long : String) : List Known :=
  let short := lettered letters.toList
  short ++ ((Raw.split ' ' long.toList).filter (· ≠ [])).map (named short)

/-- Goes on with a hint where to find help. -/
def hinted (c : Call) (e : Effect) : Effect :=
  let hint := "Try ".toList ++ Citation.plain (c.name ++ " --help".toList)
    ++ " for more information.\n".toList
  { e with said := e.said ++ [.err hint] }

/-- Fails with a message and a hint. -/
def misused (c : Call) (status : Nat) (message : Raw) : Effect :=
  hinted c (.failing c status message)

/-- What a word stands for among words, of which those with one meaning stand together. The start of a
word is enough where it is the start of no other. -/
def meant {α : Type} [DecidableEq α] (c : Call) (option : String) (words : List (String × α))
    (text : Raw) : Except Effect α :=
  let refused (what : String) : Effect :=
    let e := misused c 1 ((what ++ " argument ").toList ++ Citation.escaped text ++ " for ".toList
      ++ Citation.plain option.toList)
    let line := fun (before, shown) (word, meaning) =>
      (some meaning, shown ++ (if before = some meaning then ", ".toList else "\n  - ".toList)
        ++ Citation.plain (String.toList word))
    let list := (words.foldl line (none, "Valid arguments are:".toList)).2 ++ ['\n']
    { e with said := e.said.take 1 ++ .err list :: e.said.drop 1 }
  match words.find? fun (word, _) => word.toList = text,
      words.filter fun (word, _) => text.isPrefixOf word.toList with
  | some (_, meaning), _ => .ok meaning
  | none, [] => .error (refused "invalid")
  | none, (_, meaning) :: others =>
      if others.all fun (_, other) => other = meaning then .ok meaning
      else .error (refused "ambiguous")

/-- Goes over the options one after the other. Whoever asks for help gets nothing else. -/
def Options.over {α : Type} (o : Options) (c : Call) (status : Nat) (first : α)
    (step : α → Key → Raw → Except Effect α) : Except Effect α := do
  let last ← o.given.foldlM
    (fun a (key, value) =>
      if Options.common.any fun k => k.key == key then .error (.quiet c 0) else step a key value)
    first
  match o.fault? with
  | some message => .error (misused c status message)
  | none => return last

/-- Goes on with the options that are read. -/
def withRead (c : Call) (status : Nat) (o : Options) (body : Options → Effect) : Effect :=
  match o.over c status () fun _ _ _ => .ok () with
  | .ok _ => body o
  | .error e => e

/-- Does what is asked with the options that are given. -/
def withOptions (c : Call) (status : Nat) (known : List Known) (body : Options → Effect) : Effect :=
  withRead c status (Options.read known false c.args) body

/-- Goes on with the options, which end at the first operand. -/
def withFrontOptions (c : Call) (status : Nat) (known : List Known) (body : Options → Effect) :
    Effect :=
  withRead c status (Options.read known true c.args) body

end Utility

end SmtScript.Host
