import SmtScript.Term
import SmtScript.Error

/-!
# The graph of shared nodes

A node is a form, that is a name applied to children, or an expression, that is a slot
for one term. Nodes are only ever added and grown: a form's name stays and its children
are appended to, and a slot once filled stays filled. An identifier that no node has reads
as a form without a name, so that reading is total.
-/

namespace SmtScript

inductive Node where
  /-- A form. Without a name it is a stub, which only serves to hang other nodes from. -/
  | form (name : Option String) (children : List Term)
  /-- An expression, with what its slot holds. -/
  | expr (content : Option Term)

namespace Node

/-- A form without a name and without children. -/
def stub : Node :=
  .form none []

instance : Inhabited Node := ⟨stub⟩

/-- A form takes every child, an expression only its first. -/
def attach (child : Term) : Node → Except BuildError Node
  | .form name children => .ok (.form name (children ++ [child]))
  | .expr none => .ok (.expr (some child))
  | .expr (some _) => .error .overfullExpression

end Node

/-- All nodes, in the order of their making. -/
structure Graph where
  nodes : Array Node

namespace Graph

def empty : Graph :=
  ⟨#[]⟩

def size (g : Graph) : Nat :=
  g.nodes.size

/-- What a node holds. Every node of the graph is read through this view. -/
def node (g : Graph) (id : NodeId) : Node :=
  g.nodes.getD id .stub

/-! ## Growth -/

/-- A new node, with an identifier that no node had. -/
def add (g : Graph) (n : Node) : NodeId × Graph :=
  (g.size, ⟨g.nodes.push n⟩)

/-- Replaces what a node holds. -/
def put (g : Graph) (id : NodeId) (n : Node) : Graph :=
  ⟨g.nodes.setIfInBounds id n⟩

/-- Appends a child to a form, or fills an expression. -/
def attach (g : Graph) (id : NodeId) (child : Term) : Except BuildError Graph :=
  ((g.node id).attach child).map (g.put id)

/-- A new form that is at once the last child of `parent`. -/
def attachForm (g : Graph) (parent : NodeId) (name : String) (args : List Term) :
    Except BuildError (NodeId × Graph) :=
  let (id, grown) := g.add (.form (some name) args)
  (grown.attach parent (.node id)).map (id, ·)

/-! ## Questions -/

/-- Only forms have names: a leaf or an expression answers no, whatever it holds. -/
def isFormNamed (g : Graph) (name : String) : Term → Bool
  | .node id =>
      match g.node id with
      | .form (some own) _ => own == name
      | _ => false
  | _ => false

/-! ## The view after growth -/

@[simp] theorem size_empty : empty.size = 0 := rfl

@[simp] theorem add_fst (g : Graph) (n : Node) : (g.add n).1 = g.size := rfl

@[simp] theorem size_add (g : Graph) (n : Node) : (g.add n).2.size = g.size + 1 := by
  simp [add, size]

@[simp] theorem size_put (g : Graph) (id : NodeId) (n : Node) : (g.put id n).size = g.size := by
  simp [put, size]

theorem node_eq_stub {g : Graph} {id : NodeId} (h : g.size ≤ id) : g.node id = .stub := by
  unfold node size at *
  simp [Array.getD, Nat.not_lt.mpr h]

theorem node_add (g : Graph) (n : Node) (id : NodeId) :
    (g.add n).2.node id = if id = g.size then n else g.node id := by
  unfold node add size
  simp only [Array.getD_eq_getD_getElem?, Array.getElem?_push]
  split <;> simp

theorem node_put (g : Graph) (id : NodeId) (n : Node) (other : NodeId) :
    (g.put id n).node other = if other = id ∧ id < g.size then n else g.node other := by
  unfold node put size
  simp only [Array.getD_eq_getD_getElem?, Array.getElem?_setIfInBounds]
  by_cases h : id = other
  · subst h
    by_cases hlt : id < g.nodes.size <;> simp [hlt]
  · simp [h, Ne.symm h]

end Graph

end SmtScript
