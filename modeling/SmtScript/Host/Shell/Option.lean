import SmtScript.Host.Shell.Variable

/-!
# Arguments of commands

Numbers and options that the arguments of built-in commands give.
-/

namespace SmtScript.Host.Shell

/-- Options with letters, some of which take an argument, and the other arguments. -/
def letterOptions (fuel : Nat) (allowed : Raw) (args : List Raw) :
    Act (List (Char × Raw) × List Raw) := do
  match fuel, args with
  | 0, _ => return ([], args)
  | _ + 1, ['-', '-'] :: rest => return ([], rest)
  | fuel + 1, ('-' :: l :: more) :: rest =>
      let following := (allowed.dropWhile (· ≠ l)).drop 1
      if l == ':' || !allowed.contains l then failWith ("Illegal option -".toList ++ [l])
      else if following.head? == some ':' then
        match more, rest with
        | [], value :: rest =>
            let (given, rest) ← letterOptions fuel allowed rest
            return ((l, value) :: given, rest)
        | [], [] => failWith ("No arg for -".toList ++ [l] ++ " option".toList)
        | value, rest =>
            let (given, rest) ← letterOptions fuel allowed rest
            return ((l, value) :: given, rest)
      else
        let rest := if more.isEmpty then rest else ('-' :: more) :: rest
        let (given, rest) ← letterOptions fuel allowed rest
        return ((l, []) :: given, rest)
  | _ + 1, args => return ([], args)

def options (allowed : String) (args : List Raw) : Act (List (Char × Raw) × List Raw) :=
  letterOptions (2 * args.flatten.length + args.length + 1) allowed.toList args

/-- The name and the value of an argument with an equals sign. -/
def binding (arg : Raw) : Raw × Option Raw :=
  let name := arg.takeWhile (· ≠ '=')
  match arg.drop name.length with
  | _ :: value => (name, some value)
  | [] => (name, none)

end SmtScript.Host.Shell
