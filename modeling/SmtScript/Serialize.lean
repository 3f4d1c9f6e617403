import SmtScript.Graph
import SmtScript.Layout

/-!
# The text of a term

A term is written from left to right, and the first node without a text ends the writing.
A child of a form or of an expression stands one level deeper than its parent and chooses
its own layout; the items of a list start again at depth 0. A node may reach itself, and
then the writing may have no end; it is cut off after as many nested nodes as the graph
has, since a longer descent meets a node again.
-/

namespace SmtScript

/-- Why there is no text. -/
inductive Halt where
  /-- A node has none. -/
  | failed (error : SerializeError)
  /-- The descent was cut off. -/
  | unfinished
deriving DecidableEq

/-- A way to write the node with an identifier, at a depth and in a mode. -/
abbrev NodeWriter := NodeId → Nat → Layout.Mode → Except Halt Text

mutual

/-- Writes a term, given a way to write nodes. -/
def Term.write (writeNode : NodeWriter) (depth : Nat) (mode : Layout.Mode) :
    Term → Except Halt Text
  | .atom text => .ok text.toList
  | .str content => .ok (Layout.quoted content.toList)
  | .list items => do return Layout.list (← Term.writeAll writeNode 0 items)
  | .comment c => .ok (Layout.comment depth c)
  | .node id => writeNode id depth mode

/-- Writes terms one after the other, each in its own layout. -/
def Term.writeAll (writeNode : NodeWriter) (depth : Nat) : List Term → Except Halt (List Text)
  | [] => .ok []
  | t :: ts => do
      let first ← Term.write writeNode depth .auto t
      let rest ← Term.writeAll writeNode depth ts
      return first :: rest

end

/-- Writes what a node holds. The mode of an expression is not passed on. -/
def Node.write (writeNode : NodeWriter) (depth : Nat) (mode : Layout.Mode) :
    Node → Except Halt Text
  | .form none _ => .error (.failed .unnamedForm)
  | .form (some name) children => do
      return Layout.form mode depth name.toList (← Term.writeAll writeNode (depth + 1) children)
  | .expr none => .error (.failed .emptyExpression)
  | .expr (some content) => content.write writeNode (depth + 1) .auto

namespace Graph

/-- Writes nodes down to `fuel` nested ones. -/
def writeNode (g : Graph) : Nat → NodeWriter
  | 0 => fun _ _ _ => .error .unfinished
  | fuel + 1 => fun id depth mode => (g.node id).write (g.writeNode fuel) depth mode

/-- The text of a term as it stands `depth` levels deep. -/
def render (g : Graph) (t : Term) (depth : Nat) (mode : Layout.Mode) : Except Halt Text :=
  t.write (g.writeNode (g.size + 1)) depth mode

/-- The text of a term as a string. -/
def serialize (g : Graph) (t : Term) (depth : Nat) (mode : Layout.Mode) : Except Halt String :=
  (g.render t depth mode).map String.ofList

end Graph

end SmtScript
