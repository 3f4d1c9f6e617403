import SmtScript.Serialize
import SmtScript.Declared
import SmtScript.Writer

/-!
# The stack of commands

A script is a stack of top-level commands. Commands are only pushed, and each is written
on lines of its own, in the order of pushing. A script names its logic at most once.
-/

namespace SmtScript

/-- A top-level command, with terms given as `α`. -/
inductive Command (α : Type) where
  | setLogic (logic : α)
  | checkSat
  | getModel
  | exit
  | assert (term : α)
  | maximize (term : α)
  | declareConst (name : String) (sort : α)
  | declareFun (name : String) (params : List α) (result : α)

namespace Command

def logicHead : String := "set-logic"

def head {α : Type} : Command α → String
  | .setLogic _ => logicHead
  | .checkSat => "check-sat"
  | .getModel => "get-model"
  | .exit => "exit"
  | .assert _ => "assert"
  | .maximize _ => "maximize"
  | .declareConst _ _ => "declare-const"
  | .declareFun _ _ _ => "declare-fun"

def args : Command Term → List Term
  | .setLogic logic => [logic]
  | .checkSat | .getModel | .exit => []
  | .assert term | .maximize term => [term]
  | .declareConst name sort => [.atom name, sort]
  | .declareFun name params result => [.atom name, .list params, result]

/-- The form that stands for the command. -/
def node (c : Command Term) : Node :=
  .form (some c.head) c.args

def namesLogic {α : Type} : Command α → Bool
  | .setLogic _ => true
  | _ => false

end Command

structure Stack where
  commands : List Term

namespace Stack

def empty : Stack :=
  ⟨[]⟩

def size (s : Stack) : Nat :=
  s.commands.length

def push (s : Stack) (t : Term) : Stack :=
  ⟨s.commands ++ [t]⟩

/-- Is there a command that names a logic? -/
def hasLogic (s : Stack) (g : Graph) : Bool :=
  s.commands.any (g.isFormNamed Command.logicHead)

/-- Pushes a command as a new form. Only naming a logic again fails. -/
def issue (s : Stack) (g : Graph) (c : Command Term) : Except BuildError (Stack × Graph) :=
  if c.namesLogic && s.hasLogic g then .error .duplicateLogic
  else
    let (id, grown) := g.add c.node
    .ok (s.push (.node id), grown)

/-- Pushes a `;` comment between two commands. -/
def comment (s : Stack) (text : String) : Stack :=
  s.push (.comment ⟨text, false⟩)

/-! ## Text -/

/-- Every command with a line feed behind it. -/
def renderAll (g : Graph) : List Term → Except Halt Text
  | [] => .ok []
  | command :: rest => do
      let first ← g.render command 0 .auto
      let others ← renderAll g rest
      return first ++ '\n' :: others

def render (s : Stack) (g : Graph) : Except Halt Text :=
  renderAll g s.commands

/-- The script. The first command without a text decides the error. -/
def serialize (s : Stack) (g : Graph) : Except Halt String :=
  (s.render g).map String.ofList

/-- Delivers the script. A stack without a text leaves the sink alone. -/
def writeTo (s : Stack) (g : Graph) (sink : Sink) : Except Halt Delivery :=
  (s.serialize g).map fun text => sink.deliver (Utf8.ofString text)

end Stack

end SmtScript
