import SmtScript.Connective
import SmtScript.Proofs.Closed

/-!
# Growth is local

Nodes are shared, so a child that a node takes may change the text of many terms. It changes no
others than those that reach the node: the rest of the graph stays as it was, and new nodes are
reached by nothing that was there before.
-/

namespace SmtScript

namespace Graph

variable {g grown : Graph} {receiver : NodeId}

/-- A node takes a child: any term, a new form of a connective, or a comment. -/
inductive Grows (g : Graph) (receiver : NodeId) : Graph → Prop
  | attach {child : Term} {grown : Graph} (h : g.attach receiver child = .ok grown) :
      Grows g receiver grown
  | construct {c : Connective} {args : List Term} {form : NodeId} {grown : Graph}
      (h : g.construct receiver c args = .ok (form, grown)) : Grows g receiver grown
  | annotate {text : String} {note : Comment} {grown : Graph}
      (h : g.annotate receiver text = .ok (note, grown)) : Grows g receiver grown

/-- The connective's form is added, and then the receiver takes it. -/
theorem construct_ok {c : Connective} {args : List Term} {form : NodeId}
    (h : g.construct receiver c args = .ok (form, grown)) :
    (g.add (.form (some c.name) args)).2.attach receiver (.node g.size) = .ok grown := by
  simp only [construct, attachForm, add_fst] at h
  cases hattach : (g.add (.form (some c.name) args)).2.attach receiver (.node g.size) with
  | error e => rw [hattach] at h; cases h
  | ok other => rw [hattach] at h; cases h; rfl

theorem annotate_ok {text : String} {note : Comment}
    (h : g.annotate receiver text = .ok (note, grown)) :
    g.attach receiver (.comment ⟨text, true⟩) = .ok grown := by
  simp only [annotate] at h
  cases hattach : g.attach receiver (.comment ⟨text, true⟩) with
  | error e => rw [hattach] at h; cases h
  | ok other => rw [hattach] at h; cases h; rfl

/-- First new nodes may be made, then the receiver alone changes. -/
theorem Grows.exists_attach (h : g.Grows receiver grown) :
    ∃ fresh child, g.Extends fresh ∧ fresh.attach receiver child = .ok grown := by
  cases h with
  | attach h => exact ⟨g, _, .refl g, h⟩
  | construct h => exact ⟨_, _, .add g _, construct_ok h⟩
  | annotate h => exact ⟨g, _, .refl g, annotate_ok h⟩

theorem Grows.size_le (h : g.Grows receiver grown) : g.size ≤ grown.size := by
  obtain ⟨fresh, child, hextends, hattach⟩ := h.exists_attach
  rw [size_attach hattach]
  exact hextends.size_le

theorem Grows.node_eq (h : g.Grows receiver grown) {id : NodeId} (hid : id < g.size)
    (hne : id ≠ receiver) : grown.node id = g.node id := by
  obtain ⟨fresh, child, hextends, hattach⟩ := h.exists_attach
  rw [node_attach hattach hne, hextends.node_eq id hid]

/-- What the term reaches is as before. -/
theorem Grows.renames (h : g.Grows receiver grown) (hclosed : g.Closed) {t : Term} (ht : g.Has t)
    (hreach : ¬ g.Reaches t (.node receiver)) : Renames id g grown t := by
  intro a ha
  have hlt : a < g.size := has_node.mp (hclosed.has_of_reaches ht ha)
  have hne : a ≠ receiver := by
    rintro rfl
    exact hreach ha
  rw [Node.rename_id]
  exact h.node_eq hlt hne

/-- **Growth is local.** In every graph without dangling references, with cycles or without, a node
that takes a child changes neither the text nor the error of any term that does not reach it, at any
depth and in any mode, and it makes none end that did not end before. So it does not change what
comes of a stack none of whose commands reaches it. Forms and expressions are alike in this. -/
theorem serialize_of_grows (hclosed : g.Closed) (hgrows : g.Grows receiver grown) :
    (∀ t, g.Has t → ¬ g.Reaches t (.node receiver) → ∀ depth mode,
      grown.serialize t depth mode = g.serialize t depth mode) ∧
      ∀ stack : Stack, (∀ t ∈ stack.commands, g.Has t ∧ ¬ g.Reaches t (.node receiver)) →
        stack.serialize grown = stack.serialize g := by
  constructor
  · intro t ht hreach depth mode
    have hsame := serialize_rename (hgrows.renames hclosed ht hreach) hgrows.size_le depth mode
    rwa [Term.rename_id] at hsame
  · intro stack hstack
    have hsame := Stack.serialize_rename
      (fun t ht => hgrows.renames hclosed (hstack t ht).1 (hstack t ht).2) hgrows.size_le
    rwa [Term.map_rename_id] at hsame

/-- A disjunction that holds itself, and beside it an assertion about an expression. -/
def beside : Graph :=
  ⟨#[.form (some "or") [.node 0], .form (some "assert") [.list [.node 2]],
    .expr (some (.atom "q"))]⟩

/-- The disjunction took the negation of the assertion, which is a new form. -/
def besideGrown : Graph :=
  ⟨#[.form (some "or") [.node 0, .node 3], .form (some "assert") [.list [.node 2]],
    .expr (some (.atom "q")), .form (some "not") [.node 1]]⟩

theorem not_reaches_beside : ¬ beside.Reaches (.node 1) (.node 0) := by
  have hall : ∀ u, beside.Reaches (.node 1) u →
      u ∈ [.node 1, .list [.node 2], .node 2, .atom "q"] := by
    intro u hu
    induction hu with
    | refl => exact List.mem_cons_self
    | tail _ hpart ih =>
        simp only [List.mem_cons, List.not_mem_nil, or_false] at ih
        rcases ih with rfl | rfl | rfl | rfl <;>
          simp_all [IsPart, parts, beside, node, Node.held]
  intro h
  simpa using hall _ h

theorem serialize_beside : beside.Closed ∧ beside.Grows 0 besideGrown ∧
    (∀ depth mode,
      besideGrown.serialize (.node 1) depth mode = beside.serialize (.node 1) depth mode) ∧
    Stack.serialize ⟨[.node 1]⟩ besideGrown = Stack.serialize ⟨[.node 1]⟩ beside := by
  have hclosed : beside.Closed := by decide
  have hconstruct : beside.construct 0 .not [.node 1] = .ok (3, besideGrown) := rfl
  have hgrows : beside.Grows 0 besideGrown := .construct hconstruct
  obtain ⟨hterm, hstack⟩ := serialize_of_grows hclosed hgrows
  have hhas : beside.Has (.node 1) := by decide
  refine ⟨hclosed, hgrows, hterm _ hhas not_reaches_beside, hstack ⟨[.node 1]⟩ ?_⟩
  exact List.forall_mem_singleton.mpr ⟨hhas, not_reaches_beside⟩

end Graph

end SmtScript
