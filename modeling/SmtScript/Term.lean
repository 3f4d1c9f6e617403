/-!
# Terms

A term is a leaf, a list of terms, or a reference to a node of a graph. Leaves and
lists are plain values. A node is shared: every term that holds its identifier shows
what the node holds at the moment of reading.
-/

namespace SmtScript

/-- A `;` comment. A spaced comment stands on lines of its own, an inline one does not. -/
structure Comment where
  text : String
  spaced : Bool
deriving DecidableEq

/-- The place of a node in its graph. -/
abbrev NodeId := Nat

inductive Term where
  /-- A symbol or a numeral, written as it is. -/
  | atom (text : String)
  /-- A string literal. Its content is quoted and not escaped. -/
  | str (content : String)
  /-- A parenthesised list, such as the parameter sorts of a function. -/
  | list (items : List Term)
  | comment (comment : Comment)
  /-- What the node holds now. -/
  | node (id : NodeId)

instance : Inhabited Term := ⟨.list []⟩

/-- Induction on terms, where a list follows from its items. -/
@[elab_as_elim, induction_eliminator]
theorem Term.induct {motive : Term → Prop} (atom : ∀ text, motive (.atom text))
    (str : ∀ content, motive (.str content))
    (list : ∀ items, (∀ t ∈ items, motive t) → motive (.list items))
    (comment : ∀ c, motive (.comment c)) (node : ∀ id, motive (.node id)) : ∀ t, motive t
  | .atom text => atom text
  | .str content => str content
  | .list items => list items fun t _ => Term.induct atom str list comment node t
  | .comment c => comment c
  | .node id => node id

/-! ## Built-in sorts -/

/-- The sorts every solver knows. -/
inductive BuiltInSort where
  | int
  | bool
  | string
  | real
deriving DecidableEq

namespace BuiltInSort

def all : List BuiltInSort :=
  [.int, .bool, .string, .real]

theorem mem_all (s : BuiltInSort) : s ∈ all := by
  cases s <;> simp [all]

def name : BuiltInSort → String
  | .int => "Int"
  | .bool => "Bool"
  | .string => "String"
  | .real => "Real"

def term (s : BuiltInSort) : Term :=
  .atom s.name

end BuiltInSort

end SmtScript
