import SmtScript.Serialize

/-!
# Trees

A term unfolds to a tree in which nothing is shared: each node is replaced by what it holds,
again and again. A stub keeps its children in the tree, though its text goes no further. A term
that reaches itself has no finite tree. A tree has a text by itself, without a graph.
-/

namespace SmtScript

inductive Tree where
  | atom (text : String)
  | str (content : String)
  | list (items : List Tree)
  | comment (comment : Comment)
  /-- A form without a name. -/
  | stub (children : List Tree)
  | form (name : String) (children : List Tree)
  | emptyExpr
  | expr (content : Tree)

instance : Inhabited Tree := ⟨.list []⟩

/-- Induction on trees, where a list and the forms follow from the trees right below them. -/
@[elab_as_elim, induction_eliminator]
theorem Tree.induct {motive : Tree → Prop} (atom : ∀ text, motive (.atom text))
    (str : ∀ content, motive (.str content))
    (list : ∀ items, (∀ t ∈ items, motive t) → motive (.list items))
    (comment : ∀ c, motive (.comment c))
    (stub : ∀ children, (∀ t ∈ children, motive t) → motive (.stub children))
    (form : ∀ name children, (∀ t ∈ children, motive t) → motive (.form name children))
    (emptyExpr : motive .emptyExpr) (expr : ∀ content, motive content → motive (.expr content)) :
    ∀ t, motive t
  | .atom text => atom text
  | .str content => str content
  | .list items =>
      list items fun t _ => Tree.induct atom str list comment stub form emptyExpr expr t
  | .comment c => comment c
  | .stub children =>
      stub children fun t _ => Tree.induct atom str list comment stub form emptyExpr expr t
  | .form name children =>
      form name children fun t _ =>
        Tree.induct atom str list comment stub form emptyExpr expr t
  | .emptyExpr => emptyExpr
  | .expr content =>
      expr content (Tree.induct atom str list comment stub form emptyExpr expr content)

/-! ## The text of a tree -/

mutual

def Tree.render (depth : Nat) (mode : Layout.Mode) : Tree → Except SerializeError Text
  | .atom text => .ok text.toList
  | .str content => .ok (Layout.quoted content.toList)
  | .list items => do return Layout.list (← Tree.renderAll 0 items)
  | .comment c => .ok (Layout.comment depth c)
  | .stub _ => .error .unnamedForm
  | .form name children => do
      return Layout.form mode depth name.toList (← Tree.renderAll (depth + 1) children)
  | .emptyExpr => .error .emptyExpression
  | .expr content => Tree.render (depth + 1) .auto content

/-- The texts of trees one after the other, each in its own layout. -/
def Tree.renderAll (depth : Nat) : List Tree → Except SerializeError (List Text)
  | [] => .ok []
  | t :: ts => do
      let first ← Tree.render depth .auto t
      let rest ← Tree.renderAll depth ts
      return first :: rest

end

/-! ## Unfolding -/

mutual

/-- The tree of a term, given the trees of nodes. -/
def Term.unfold (tree? : NodeId → Option Tree) : Term → Option Tree
  | .atom text => some (.atom text)
  | .str content => some (.str content)
  | .list items => (Term.unfoldAll tree? items).map .list
  | .comment c => some (.comment c)
  | .node id => tree? id

def Term.unfoldAll (tree? : NodeId → Option Tree) : List Term → Option (List Tree)
  | [] => some []
  | t :: ts => do
      let first ← Term.unfold tree? t
      let rest ← Term.unfoldAll tree? ts
      return first :: rest

end

def Node.unfold (tree? : NodeId → Option Tree) : Node → Option Tree
  | .form none children => (Term.unfoldAll tree? children).map .stub
  | .form (some name) children => (Term.unfoldAll tree? children).map (.form name)
  | .expr none => some .emptyExpr
  | .expr (some content) => (content.unfold tree?).map .expr

namespace Graph

/-- The trees of nodes that are at most `fuel` nodes deep. -/
def treeOf? (g : Graph) : Nat → NodeId → Option Tree
  | 0 => fun _ => none
  | fuel + 1 => fun id => (g.node id).unfold (g.treeOf? fuel)

/-- The tree of a term, if it is finite. -/
def tree? (g : Graph) (t : Term) : Option Tree :=
  t.unfold (g.treeOf? (g.size + 1))

end Graph

end SmtScript
