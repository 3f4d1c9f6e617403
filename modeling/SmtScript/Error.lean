/-!
# Errors of building and of writing a script

Building fails where a caller breaks a rule; writing fails on a node that has no text.
Each cause has one message.
-/

namespace SmtScript

/-- A broken rule of building. The call that breaks it changes nothing. -/
inductive BuildError where
  /-- A script names its logic once. -/
  | duplicateLogic
  /-- A declared symbol takes as many arguments as it was declared with. -/
  | arity (name : String) (expected got : Nat)
  /-- An expression holds one term and keeps it. -/
  | overfullExpression
deriving DecidableEq

/-- A node that has no text. -/
inductive SerializeError where
  | unnamedForm
  | emptyExpression
deriving DecidableEq

def BuildError.message : BuildError → String
  | .duplicateLogic => "set-logic has already been set"
  | .arity name expected got =>
      "`" ++ name ++ "` expects " ++ expected.repr ++ " argument(s), got " ++ got.repr
  | .overfullExpression => "an expression can hold a single term"

def SerializeError.message : SerializeError → String
  | .unnamedForm => "a logic stub has no name and can't be serialized"
  | .emptyExpression => "an expression must hold exactly one term to be serialized"

end SmtScript
