import SmtScript.Host.Utility.Names

/-!
# Questions

Some utilities ask before they do what cannot be undone. The answers are lines of the input; where it
has ended there is no agreement.
-/

namespace SmtScript.Host.Utility

/-- What comes of a call so far, and the answers that are still to come. -/
structure Dialog where
  answers : Raw
  effect : Effect

namespace Dialog

def start (c : Call) : Dialog :=
  ⟨c.input, .quiet c 0⟩

/-- Goes on without a question. -/
def map (d : Dialog) (step : Effect → Effect) : Dialog :=
  { d with effect := step d.effect }

/-- Asks a question. Does the answer start with a y? -/
def ask (d : Dialog) (c : Call) (question : Raw) : Bool × Dialog :=
  let said := d.effect.said ++ [.err (c.name ++ ": ".toList ++ question ++ "? ".toList)]
  (d.answers.head?.any fun answer => answer.toLower == 'y',
    { answers := (d.answers.dropWhile (· ≠ '\n')).drop 1
      effect := { d.effect.afterAll with said := said } })

/-- Does something with each path, one after the other. -/
def forEach (c : Call) (paths : List Raw) (step : Dialog → Raw → Dialog) : Effect :=
  (paths.foldl step (start c)).effect

end Dialog

end SmtScript.Host.Utility
