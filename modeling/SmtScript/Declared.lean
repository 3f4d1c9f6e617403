import SmtScript.Graph

/-!
# Declared symbols

A symbol declared without parameters is a constant and stands for itself. A symbol declared
with parameters is a function, which is applied to exactly as many arguments.
-/

namespace SmtScript

structure FunSymbol where
  name : String
  arity : Nat
deriving DecidableEq

/-- The application of the function, as a new form. -/
def FunSymbol.apply (f : FunSymbol) (g : Graph) (args : List Term) :
    Except BuildError (Term × Graph) :=
  if args.length = f.arity then
    let (id, grown) := g.add (.form (some f.name) args)
    .ok (.node id, grown)
  else .error (.arity f.name f.arity args.length)

inductive Declared where
  | const (name : String)
  | function (symbol : FunSymbol)
deriving DecidableEq

namespace Declared

/-- The symbol that a declaration with so many parameters gives. -/
def ofArity (name : String) (arity : Nat) : Declared :=
  if arity = 0 then .const name else .function ⟨name, arity⟩

def name : Declared → String
  | .const name => name
  | .function f => f.name

def arity : Declared → Nat
  | .const _ => 0
  | .function f => f.arity

def asConst? : Declared → Option String
  | .const name => some name
  | .function _ => none

def asFunction? : Declared → Option FunSymbol
  | .const _ => none
  | .function f => some f

/-- A constant is applied to nothing and gives itself. -/
def apply (d : Declared) (g : Graph) (args : List Term) : Except BuildError (Term × Graph) :=
  match d with
  | .const name =>
      if args.length = 0 then .ok (.atom name, g)
      else .error (.arity name 0 args.length)
  | .function f => f.apply g args

end Declared

end SmtScript
