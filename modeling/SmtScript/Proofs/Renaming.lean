import SmtScript.Stack
import SmtScript.Proofs.Walk

/-!
# Identifiers are never written

Where one graph holds under some identifiers what another holds under others, terms that differ by
these identifiers alone have the same text, the same error, or both no end. Only the nodes that a
term reaches have to agree, so what happens elsewhere in a graph cannot be read off the term.
-/

namespace SmtScript

open Relation (ReflTransGen)

/-! ## The nodes of a term -/

mutual

/-- The nodes that a term refers to by itself, and not only through other nodes. -/
def Term.nodes : Term → List NodeId
  | .list items => Term.nodesAll items
  | .node id => [id]
  | _ => []

def Term.nodesAll : List Term → List NodeId
  | [] => []
  | t :: ts => t.nodes ++ Term.nodesAll ts

end

theorem Term.mem_nodesAll {id : NodeId} {ts : List Term} :
    id ∈ nodesAll ts ↔ ∃ t ∈ ts, id ∈ t.nodes := by
  induction ts with
  | nil => simp [nodesAll]
  | cons t ts ih =>
      rw [nodesAll, List.mem_append, ih]
      simp

theorem Term.mem_nodes_list {id : NodeId} {items : List Term} :
    id ∈ (Term.list items).nodes ↔ ∃ t ∈ items, id ∈ t.nodes := by
  rw [nodes, mem_nodesAll]

/-! ## Renaming -/

mutual

/-- The term with other identifiers for the nodes. -/
def Term.rename (f : NodeId → NodeId) : Term → Term
  | .atom text => .atom text
  | .str content => .str content
  | .list items => .list (Term.renameAll f items)
  | .comment c => .comment c
  | .node id => .node (f id)

def Term.renameAll (f : NodeId → NodeId) : List Term → List Term
  | [] => []
  | t :: ts => t.rename f :: Term.renameAll f ts

end

def Node.rename (f : NodeId → NodeId) : Node → Node
  | .form name children => .form name (children.map (Term.rename f))
  | .expr content => .expr (content.map (Term.rename f))

variable {f : NodeId → NodeId}

theorem Term.renameAll_eq_map (ts : List Term) : renameAll f ts = ts.map (rename f) := by
  induction ts with
  | nil => rfl
  | cons t ts ih => rw [renameAll, ih, List.map_cons]

theorem Term.rename_list (items : List Term) :
    (Term.list items).rename f = .list (items.map (rename f)) := by
  rw [rename, renameAll_eq_map]

/-- Only the identifiers that a term refers to matter. -/
theorem Term.rename_congr {f₂ : NodeId → NodeId} {t : Term} (h : ∀ id ∈ t.nodes, f id = f₂ id) :
    t.rename f = t.rename f₂ := by
  induction t with
  | list items ih =>
      have heach : ∀ u ∈ items, u.rename f = u.rename f₂ := fun u hu =>
        ih u hu fun id hid => h id (mem_nodes_list.mpr ⟨u, hu, hid⟩)
      rw [rename_list, rename_list, List.map_congr_left heach]
  | node id => rw [rename, rename, h id (List.mem_singleton_self id)]
  | _ => rfl

theorem Node.rename_congr {f₂ : NodeId → NodeId} {n : Node}
    (h : ∀ t ∈ n.held, t.rename f = t.rename f₂) : n.rename f = n.rename f₂ := by
  cases n with
  | form name children =>
      have hchildren : children.map (Term.rename f) = children.map (Term.rename f₂) :=
        List.map_congr_left h
      rw [rename, rename, hchildren]
  | expr content =>
      cases content with
      | none => rfl
      | some content =>
          have hcontent := h content (List.mem_singleton_self content)
          rw [rename, rename, Option.map_some, Option.map_some, hcontent]

@[simp] theorem Term.rename_id (t : Term) : t.rename id = t := by
  induction t with
  | list items ih => rw [rename_list, List.map_congr_left ih, List.map_id']
  | _ => rfl

theorem Term.map_rename_id (ts : List Term) : ts.map (rename id) = ts := by
  rw [List.map_congr_left fun t _ => t.rename_id, List.map_id']

@[simp] theorem Node.rename_id (n : Node) : n.rename id = n := by
  cases n with
  | form name children => rw [rename, Term.map_rename_id]
  | expr content => cases content <;> simp [rename]

/-! ## Writing -/

section

variable {w v : NodeWriter}

theorem Term.writeAll_rename {depth : Nat} : ∀ {ts : List Term},
    (∀ t ∈ ts, (t.rename f).write v depth .auto = t.write w depth .auto) →
      Term.writeAll v depth (ts.map (rename f)) = Term.writeAll w depth ts
  | [], _ => rfl
  | t :: ts, h => by
      rw [List.map_cons, Term.writeAll, Term.writeAll, h t List.mem_cons_self,
        writeAll_rename fun u hu => h u (List.mem_cons_of_mem t hu)]

/-- Nodes that are written alike make terms that are written alike. -/
theorem Term.write_rename {t : Term}
    (h : ∀ id ∈ t.nodes, ∀ depth mode, v (f id) depth mode = w id depth mode) (depth : Nat)
    (mode : Layout.Mode) : (t.rename f).write v depth mode = t.write w depth mode := by
  induction t generalizing depth mode with
  | list items ih =>
      have heach : ∀ u ∈ items, (u.rename f).write v 0 .auto = u.write w 0 .auto := fun u hu =>
        ih u hu (fun id hid => h id (mem_nodes_list.mpr ⟨u, hu, hid⟩)) 0 .auto
      rw [rename_list, Term.write, Term.write, writeAll_rename heach]
  | node id => exact h id (List.mem_singleton_self id) depth mode
  | _ => rfl

theorem Node.write_rename {n : Node} {depth : Nat} {mode : Layout.Mode}
    (h : ∀ t ∈ n.held, (t.rename f).write v (depth + 1) .auto = t.write w (depth + 1) .auto) :
    (n.rename f).write v depth mode = n.write w depth mode := by
  cases n with
  | form name children =>
      cases name with
      | none => rfl
      | some name =>
          have hchildren : Term.writeAll v (depth + 1) (children.map (Term.rename f)) =
              Term.writeAll w (depth + 1) children := Term.writeAll_rename h
          rw [rename, Node.write, Node.write, hchildren]
  | expr content =>
      cases content with
      | none => rfl
      | some content => exact h content (List.mem_singleton_self content)

end

namespace Graph

variable {g g₂ : Graph}

theorem reaches_of_mem_nodes {t : Term} {id : NodeId} (h : id ∈ t.nodes) :
    g.Reaches t (.node id) := by
  induction t with
  | list items ih =>
      obtain ⟨u, hu, hid⟩ := Term.mem_nodes_list.mp h
      exact (ih u hu hid).head hu
  | node own =>
      rw [List.mem_singleton.mp h]
      exact .refl
  | _ => cases h

/-- The other graph holds under the other identifiers whatever the term reaches. -/
def Renames (f : NodeId → NodeId) (g g₂ : Graph) (t : Term) : Prop :=
  ∀ id, g.Reaches t (.node id) → g₂.node (f id) = (g.node id).rename f

/-- The induction is on the fuel: what a node holds is written with less. -/
theorem writeNode_rename (fuel : Nat) {id : NodeId} (h : Renames f g g₂ (.node id)) (depth : Nat)
    (mode : Layout.Mode) :
    g₂.writeNode fuel (f id) depth mode = g.writeNode fuel id depth mode := by
  induction fuel generalizing id depth mode with
  | zero => rfl
  | succ fuel ih =>
      show (g₂.node (f id)).write (g₂.writeNode fuel) depth mode
        = (g.node id).write (g.writeNode fuel) depth mode
      rw [h id .refl]
      refine Node.write_rename fun t ht => ?_
      refine Term.write_rename (fun a ha => ih ?_) (depth + 1) .auto
      have hbelow : g.Reaches (.node id) (.node a) := (reaches_of_mem_nodes ha).head ht
      exact fun b hb => h b (hbelow.trans hb)

/-- The text of a term does not depend on identifiers, nor on how many nodes there are. -/
theorem render_rename {t : Term} (h : Renames f g g₂ t) (hsize : g.size ≤ g₂.size) (depth : Nat)
    (mode : Layout.Mode) : g₂.render (t.rename f) depth mode = g.render t depth mode := by
  rw [← write_eq_render (Nat.lt_succ_of_le hsize) t depth mode]
  refine Term.write_rename (fun a ha => writeNode_rename (g₂.size + 1) ?_) depth mode
  exact fun b hb => h b ((reaches_of_mem_nodes ha).trans hb)

theorem serialize_rename {t : Term} (h : Renames f g g₂ t) (hsize : g.size ≤ g₂.size) (depth : Nat)
    (mode : Layout.Mode) : g₂.serialize (t.rename f) depth mode = g.serialize t depth mode := by
  rw [serialize, serialize, render_rename h hsize]

end Graph

theorem Stack.serialize_rename {g g₂ : Graph} {stack : Stack}
    (h : ∀ t ∈ stack.commands, Graph.Renames f g g₂ t) (hsize : g.size ≤ g₂.size) :
    Stack.serialize ⟨stack.commands.map (Term.rename f)⟩ g₂ = stack.serialize g := by
  have hall : ∀ {ts : List Term}, (∀ t ∈ ts, Graph.Renames f g g₂ t) →
      renderAll g₂ (ts.map (Term.rename f)) = renderAll g ts := by
    intro ts hts
    induction ts with
    | nil => rfl
    | cons t ts ih =>
        rw [List.forall_mem_cons] at hts
        rw [List.map_cons, renderAll, renderAll, Graph.render_rename hts.1 hsize, ih hts.2]
  rw [serialize, serialize, render, render, hall h]

end SmtScript
