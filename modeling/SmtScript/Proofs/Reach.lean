import SmtScript.Graph
import Mathlib.Data.List.Nodup
import Mathlib.Data.List.Perm.Subperm
import Mathlib.Logic.Relation

/-!
# What a term reaches

Writing goes from a term to its parts: the items of a list, the children of a form, the content
of an expression. A term whose parts never lead back is acyclic, and then every way down from it
is short: it meets no node twice.
-/

namespace SmtScript

open Relation (ReflTransGen TransGen)

/-- The terms that a node holds. -/
def Node.held : Node → List Term
  | .form _ children => children
  | .expr content => content.toList

/-- A node that took a child holds it last. -/
theorem Node.held_attach {n grown : Node} {child : Term} (h : n.attach child = .ok grown) :
    grown.held = n.held ++ [child] := by
  cases n with
  | form name children => cases h; rfl
  | expr content =>
      cases content with
      | none => cases h; rfl
      | some content => cases h

namespace Graph

variable {g : Graph}

/-- The terms right below a term. -/
def parts (g : Graph) : Term → List Term
  | .list items => items
  | .node id => (g.node id).held
  | _ => []

def IsPart (g : Graph) (t part : Term) : Prop :=
  part ∈ g.parts t

def Reaches (g : Graph) : Term → Term → Prop :=
  ReflTransGen g.IsPart

/-- No cycle can be reached: nothing below the term is below itself. -/
def Acyclic (g : Graph) (t : Term) : Prop :=
  ∀ u, g.Reaches t u → ¬ TransGen g.IsPart u u

theorem Acyclic.of_reaches {t u : Term} (h : g.Acyclic t) (hu : g.Reaches t u) :
    g.Acyclic u :=
  fun v hv => h v (hu.trans hv)

theorem Acyclic.of_part {t u : Term} (h : g.Acyclic t) (hu : u ∈ g.parts t) :
    g.Acyclic u :=
  h.of_reaches (ReflTransGen.single hu)

theorem held_eq_nil {id : NodeId} (h : g.size ≤ id) : (g.node id).held = [] := by
  rw [node_eq_stub h]
  rfl

theorem lt_size_of_mem_held {id : NodeId} {u : Term} (h : u ∈ (g.node id).held) :
    id < g.size := by
  by_contra hge
  rw [held_eq_nil (Nat.le_of_not_lt hge)] at h
  exact List.not_mem_nil h

/-- So many different nodes a graph has at most. -/
theorem length_le_size {path : List NodeId} (hnodup : path.Nodup) (hlt : ∀ a ∈ path, a < g.size) :
    path.length ≤ g.size := by
  have hsub : path ⊆ List.range g.size := fun a ha => List.mem_range.mpr (hlt a ha)
  simpa using (List.subperm_of_subset hnodup hsub).length_le

/-! ## The nodes on the way down -/

/-- The nodes of `path` are different nodes of the graph, and the term is below each of them. -/
structure Above (g : Graph) (path : List NodeId) (t : Term) : Prop where
  nodup : path.Nodup
  lt_size : ∀ a ∈ path, a < g.size
  below : ∀ a ∈ path, TransGen g.IsPart (.node a) t

namespace Above

variable {path : List NodeId}

theorem nil (t : Term) : g.Above [] t :=
  ⟨List.nodup_nil, by simp, by simp⟩

theorem length_le {t : Term} (h : g.Above path t) : path.length ≤ g.size :=
  length_le_size h.nodup h.lt_size

theorem of_part {t u : Term} (h : g.Above path t) (hu : u ∈ g.parts t) : g.Above path u :=
  ⟨h.nodup, h.lt_size, fun a ha => (h.below a ha).tail hu⟩

/-- The way down to what a node shows goes through the node, which it has not met before. -/
theorem cons {id : NodeId} {u : Term} (h : g.Above path (.node id))
    (hacyclic : g.Acyclic (.node id)) (hu : u ∈ (g.node id).held) :
    g.Above (id :: path) u := by
  refine ⟨List.nodup_cons.mpr ⟨?_, h.nodup⟩, ?_, ?_⟩
  · intro hid
    exact hacyclic (.node id) ReflTransGen.refl (h.below id hid)
  · intro a ha
    rcases List.mem_cons.mp ha with rfl | ha
    · exact lt_size_of_mem_held hu
    · exact h.lt_size a ha
  · intro a ha
    rcases List.mem_cons.mp ha with rfl | ha
    · exact TransGen.single hu
    · exact (h.below a ha).tail hu

end Above

/-! ## Places in a term -/

/-- The term at a place, which is given by the positions of the parts on the way to it. -/
def at? (g : Graph) : Term → List Nat → Option Term
  | t, [] => some t
  | t, i :: place => (g.parts t)[i]?.bind fun part => g.at? part place

theorem at?_append : ∀ (t : Term) (place rest : List Nat),
    g.at? t (place ++ rest) = (g.at? t place).bind fun u => g.at? u rest
  | _, [], _ => rfl
  | t, i :: place, rest => by
      simp only [List.cons_append, at?]
      cases (g.parts t)[i]? with
      | none => rfl
      | some part => exact at?_append part place rest

/-! ## Growth -/

/-- Only the receiver changes, and it becomes what the node becomes. -/
theorem attach_ok {g₂ : Graph} {id : NodeId} {child : Term} (h : g.attach id child = .ok g₂) :
    ∃ grown, (g.node id).attach child = .ok grown ∧ g₂ = g.put id grown := by
  unfold attach at h
  cases hn : (g.node id).attach child with
  | error e => rw [hn] at h; cases h
  | ok grown =>
      rw [hn] at h
      cases h
      exact ⟨grown, rfl, rfl⟩

theorem node_attach {g₂ : Graph} {receiver id : NodeId} {child : Term}
    (h : g.attach receiver child = .ok g₂) (hid : id ≠ receiver) : g₂.node id = g.node id := by
  obtain ⟨n, -, rfl⟩ := attach_ok h
  rw [node_put, if_neg fun hreceiver => hid hreceiver.1]

/-- The receiver holds the new child last. -/
theorem parts_attach {g₂ : Graph} {id : NodeId} {child : Term} (h : g.attach id child = .ok g₂)
    (hid : id < g.size) : g₂.parts (.node id) = g.parts (.node id) ++ [child] := by
  obtain ⟨grown, hgrown, rfl⟩ := attach_ok h
  simp only [parts, node_put, hid, and_self, if_true]
  exact Node.held_attach hgrown

theorem parts_prefix_attach {g₂ : Graph} {id : NodeId} {child : Term}
    (h : g.attach id child = .ok g₂) (t : Term) : g.parts t <+: g₂.parts t := by
  obtain ⟨grown, hgrown, rfl⟩ := attach_ok h
  cases t with
  | node other =>
      simp only [parts, node_put]
      split
      · next hother =>
        rw [hother.1, Node.held_attach hgrown]
        exact List.prefix_append ..
      · exact List.prefix_rfl
  | _ => exact List.prefix_rfl

/-- A place keeps its term when nodes grow. -/
theorem at?_of_prefix {g₂ : Graph} (h : ∀ t, g.parts t <+: g₂.parts t) {u : Term} :
    ∀ {t : Term} {place : List Nat}, g.at? t place = some u → g₂.at? t place = some u
  | t, [], hu => hu
  | t, i :: place, hu => by
      simp only [at?, Option.bind_eq_some_iff] at hu ⊢
      obtain ⟨part, hpart, hu⟩ := hu
      obtain ⟨hi, hpart⟩ := List.getElem?_eq_some_iff.mp hpart
      refine ⟨part, ?_, at?_of_prefix h hu⟩
      rw [List.prefix_iff_getElem?.mp (h t) i hi, hpart]

end Graph

end SmtScript
