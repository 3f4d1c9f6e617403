import SmtScript.Graph

/-!
# Connectives

The fluent way to build: a constructor makes a form and hangs it from its receiver, a form or an
expression, and the new form can then receive children itself. Binary connectives are made
from two arguments, but more may be appended later.
-/

namespace SmtScript

inductive Connective where
  | and
  | or
  | not
  | implies
  | plus
  | times
  | minus
  | gt
  | ge
  | equals
  | lt
  | le
  /-- An application of any other name. -/
  | fn (name : String)
deriving DecidableEq

namespace Connective

def name : Connective → String
  | .and => "and"
  | .or => "or"
  | .not => "not"
  | .implies => "implies"
  | .plus => "+"
  | .times => "*"
  | .minus => "-"
  | .gt => ">"
  | .ge => ">="
  | .equals => "="
  | .lt => "<"
  | .le => "<="
  | .fn name => name

end Connective

namespace Graph

/-- Makes the connective's form and hangs it from the receiver. -/
def construct (g : Graph) (receiver : NodeId) (c : Connective) (args : List Term) :
    Except BuildError (NodeId × Graph) :=
  g.attachForm receiver c.name args

/-- Hangs a comment from the receiver, set apart by blank lines. -/
def annotate (g : Graph) (receiver : NodeId) (text : String) :
    Except BuildError (Comment × Graph) :=
  let note : Comment := ⟨text, true⟩
  (g.attach receiver (.comment note)).map (note, ·)

end Graph

end SmtScript
