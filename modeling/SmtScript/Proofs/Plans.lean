import SmtScript.Proofs.Run
import SmtScript.Proofs.Unfolding
import Mathlib.Logic.Function.Basic

/-!
# Trees under construction

While a tree is built from the root down, its nodes lack children. A plan says which ones: for each
node the trees that it has still to take. What a term is to become is then known at every moment.
It stays the same when a node takes the child that was planned next, and when anything else grows.
-/

namespace SmtScript

open Relation (ReflTransGen)

section

variable {α β : Type} {R Q : α → β → Prop} {as : List α} {bs : List β}

theorem exists_of_forall₂ (h : List.Forall₂ R as bs) {a : α} (ha : a ∈ as) : ∃ b, R a b := by
  induction h with
  | nil => cases ha
  | cons first _ ih =>
      rcases List.mem_cons.mp ha with rfl | ha
      · exact ⟨_, first⟩
      · exact ih ha

theorem forall₂_imp_of_mem (h : List.Forall₂ R as bs)
    (himp : ∀ a ∈ as, ∀ b ∈ bs, R a b → Q a b) : List.Forall₂ Q as bs := by
  induction h with
  | nil => exact .nil
  | cons first _ ih =>
      refine .cons (himp _ List.mem_cons_self _ List.mem_cons_self first) (ih ?_)
      exact fun a ha b hb => himp a (List.mem_cons_of_mem _ ha) b (List.mem_cons_of_mem _ hb)

end

/-- For each node, the trees of the children that it has still to take. -/
abbrev Plan := NodeId → List Tree

/-- No node has anything to take. -/
def Plan.done : Plan :=
  fun _ => []

namespace Graph

/-- The term unfolds to the tree once every node has taken what is planned for it. -/
inductive Becomes (g : Graph) (plan : Plan) : Term → Tree → Prop
  | atom (text : String) : Becomes g plan (.atom text) (.atom text)
  | str (content : String) : Becomes g plan (.str content) (.str content)
  | list {items : List Term} {trees : List Tree} (h : List.Forall₂ (Becomes g plan) items trees) :
      Becomes g plan (.list items) (.list trees)
  | comment (c : Comment) : Becomes g plan (.comment c) (.comment c)
  | form {id : NodeId} {name : String} {children : List Term} {trees : List Tree}
      (hnode : g.node id = .form (some name) children)
      (h : List.Forall₂ (Becomes g plan) children trees) :
      Becomes g plan (.node id) (.form name (trees ++ plan id))
  | slot {id : NodeId} {tree : Tree} (hnode : g.node id = .expr none) (hplan : plan id = [tree]) :
      Becomes g plan (.node id) (.expr tree)
  | expr {id : NodeId} {content : Term} {tree : Tree} (hnode : g.node id = .expr (some content))
      (hplan : plan id = []) (h : Becomes g plan content tree) :
      Becomes g plan (.node id) (.expr tree)

variable {g grown : Graph} {plan next : Plan}

theorem lt_size_of_node {id : NodeId} {n : Node} (h : g.node id = n) (hn : n ≠ .stub) :
    id < g.size := by
  by_contra hge
  exact hn (h.symm.trans (node_eq_stub (Nat.le_of_not_lt hge)))

theorem Becomes.lt_size {id : NodeId} {tree : Tree} (h : g.Becomes plan (.node id) tree) :
    id < g.size := by
  cases h with
  | form hnode => exact lt_size_of_node hnode nofun
  | slot hnode => exact lt_size_of_node hnode nofun
  | expr hnode => exact lt_size_of_node hnode nofun

/-! ## What is below -/

theorem Becomes.of_part {t u : Term} {tree : Tree} (h : g.Becomes plan t tree)
    (hu : g.IsPart t u) : ∃ sub, g.Becomes plan u sub := by
  cases h with
  | atom | str | comment => cases hu
  | list h => exact exists_of_forall₂ h hu
  | form hnode h =>
      rw [IsPart, parts, hnode] at hu
      exact exists_of_forall₂ h hu
  | slot hnode =>
      rw [IsPart, parts, hnode] at hu
      cases hu
  | expr hnode _ h =>
      rw [IsPart, parts, hnode] at hu
      rw [List.mem_singleton.mp hu]
      exact ⟨_, h⟩

theorem Becomes.of_reaches {t u : Term} {tree : Tree} (h : g.Becomes plan t tree)
    (hu : g.Reaches t u) : ∃ sub, g.Becomes plan u sub := by
  induction hu with
  | refl => exact ⟨tree, h⟩
  | tail _ hpart ih =>
      obtain ⟨sub, hsub⟩ := ih
      exact hsub.of_part hpart

/-- A node for which something is planned has room for it. -/
theorem Becomes.takes {t : Term} {tree : Tree} {id : NodeId} (h : g.Becomes plan t tree)
    (hid : g.Reaches t (.node id)) (hplan : plan id ≠ []) (child : Term) :
    ∃ grown, g.attach id child = .ok grown := by
  obtain ⟨sub, hsub⟩ := h.of_reaches hid
  rw [attach]
  cases hsub with
  | form hnode => rw [hnode]; exact ⟨_, rfl⟩
  | slot hnode => rw [hnode]; exact ⟨_, rfl⟩
  | expr _ hdone => exact absurd hdone hplan

/-! ## What growth leaves as planned -/

/-- The node is as before, or it took a child with the tree that was planned next. -/
inductive Serves (g grown : Graph) (plan next : Plan) (S : Term → Prop) (id : NodeId) : Prop
  | same (hnode : grown.node id = g.node id) (hplan : next id = plan id)
  | took {child : Term} {tree : Tree} (hplan : plan id = tree :: next id)
      (hchild : g.Becomes plan child tree) (hS : S child)
      (hnode : (g.node id).attach child = .ok (grown.node id))

/-- What a term is to become stays the same if every node below it is served. The induction is on
the tree, in which the children that nodes took are already planned for. -/
theorem Becomes.of_serves {S : Term → Prop} (hparts : ∀ t, S t → ∀ u, g.IsPart t u → S u)
    (hserves : ∀ id < g.size, S (.node id) → g.Serves grown plan next S id) {t : Term}
    {tree : Tree} (h : g.Becomes plan t tree) (ht : S t) : grown.Becomes next t tree := by
  induction tree generalizing t with
  | atom text => cases h; exact .atom text
  | str content => cases h; exact .str content
  | list trees ih =>
      cases h with
      | list h =>
          exact .list (forall₂_imp_of_mem h fun u hu sub hsub hbecomes =>
            ih sub hsub hbecomes (hparts _ ht u hu))
  | comment c => cases h; exact .comment c
  | stub children ih => cases h
  | form name kids ih =>
      cases h with
      | @form id _ children trees hnode h =>
          have hkids : List.Forall₂ (grown.Becomes next) children trees := by
            refine forall₂_imp_of_mem h fun u hu sub hsub hbecomes => ?_
            refine ih sub (List.mem_append_left _ hsub) hbecomes (hparts _ ht u ?_)
            rwa [IsPart, parts, hnode]
          cases hserves id (Becomes.form hnode h).lt_size ht with
          | same hsame hplan =>
              rw [← hplan]
              exact .form (hsame.trans hnode) hkids
          | @took child tree hplan hchild hS hattach =>
              -- the new child has the tree that moves from the plan to the children
              rw [hnode] at hattach
              have hgrown : grown.node id = .form (some name) (children ++ [child]) :=
                (Except.ok.inj hattach).symm
              have hlast : grown.Becomes next child tree :=
                ih tree (by rw [hplan]; exact List.mem_append_right _ List.mem_cons_self) hchild hS
              have htrees : trees ++ plan id = trees ++ [tree] ++ next id := by
                rw [hplan, List.append_assoc, List.singleton_append]
              rw [htrees]
              exact .form hgrown (List.rel_append hkids (.cons hlast .nil))
  | emptyExpr => cases h
  | expr content ih =>
      cases h with
      | @slot id _ hnode hplan =>
          cases hserves id (Becomes.slot hnode hplan).lt_size ht with
          | same hsame hnext => exact .slot (hsame.trans hnode) (hnext.trans hplan)
          | @took child tree hnext hchild hS hattach =>
              rw [hnode] at hattach
              obtain ⟨rfl, hdone⟩ := List.cons.inj (hplan.symm.trans hnext)
              exact .expr (Except.ok.inj hattach).symm hdone.symm (ih hchild hS)
      | @expr id held _ hnode hplan h =>
          cases hserves id (Becomes.expr hnode hplan h).lt_size ht with
          | same hsame hnext =>
              refine .expr (hsame.trans hnode) (hnext.trans hplan) (ih h (hparts _ ht held ?_))
              rw [IsPart, parts, hnode]
              exact List.mem_singleton_self held
          | took hnext =>
              -- nothing is planned for an expression that is filled
              rw [hplan] at hnext
              cases hnext

/-- New nodes do not matter, nor what is planned for them. -/
theorem Becomes.of_extends {t : Term} {tree : Tree} (h : g.Becomes plan t tree)
    (hextends : g.Extends grown) (hplan : ∀ id < g.size, next id = plan id) :
    grown.Becomes next t tree :=
  h.of_serves (fun _ _ _ _ => trivial)
    (fun id hid _ => .same (hextends.node_eq id hid) (hplan id hid)) trivial

/-- Nor does a node that the term does not reach. -/
theorem Becomes.of_elsewhere {fresh : Graph} {id : NodeId} {child t : Term} {tree : Tree}
    (h : g.Becomes plan t tree) (hextends : g.Extends fresh)
    (hattach : fresh.attach id child = .ok grown) (hreach : ¬ g.Reaches t (.node id))
    (hplan : ∀ a < g.size, next a = plan a) : grown.Becomes next t tree := by
  -- only the nodes below the term have to be served, and the receiver is none of them
  refine h.of_serves (S := g.Reaches t) (fun _ ht _ hu => ht.tail hu) (fun a ha hreached => ?_)
    .refl
  have hne : a ≠ id := by
    rintro rfl
    exact hreach hreached
  refine .same ?_ (hplan a ha)
  rw [node_attach hattach hne, hextends.node_eq a ha]

/-- A node takes the child that is planned next. -/
theorem Becomes.of_take {id : NodeId} {child t : Term} {tree first : Tree} {rest : List Tree}
    (h : g.Becomes plan t tree) (hplan : plan id = first :: rest)
    (hchild : g.Becomes plan child first) (hattach : g.attach id child = .ok grown) :
    grown.Becomes (Function.update plan id rest) t tree := by
  refine h.of_serves (S := fun _ => True) (fun _ _ _ _ => trivial) (fun a ha _ => ?_) trivial
  by_cases hid : a = id
  · subst hid
    obtain ⟨n, hn, rfl⟩ := attach_ok hattach
    refine .took ?_ hchild trivial ?_
    · rw [Function.update_self, hplan]
    · rw [node_put, if_pos ⟨rfl, ha⟩, hn]
  · exact .same (node_attach hattach hid) (Function.update_of_ne hid rest plan)

/-! ## A root and its plan -/

theorem Extends.parts_prefix (h : g.Extends grown) (t : Term) : g.parts t <+: grown.parts t := by
  cases t with
  | node id =>
      by_cases hid : id < g.size
      · have hsame : grown.parts (.node id) = g.parts (.node id) :=
          congrArg Node.held (h.node_eq id hid)
        exact ⟨[], by rw [List.append_nil, hsame]⟩
      · rw [parts, held_eq_nil (Nat.le_of_not_lt hid)]
        exact List.nil_prefix
  | _ => exact List.prefix_rfl

theorem Reaches.mono {t u : Term} (h : g.Reaches t u)
    (hparts : ∀ t, g.parts t <+: grown.parts t) : grown.Reaches t u :=
  ReflTransGen.mono (fun a _ hb => (hparts a).subset hb) _ _ h

/-- The root becomes the tree, and all that is planned is planned for nodes below it. -/
structure Building (g : Graph) (root : NodeId) (plan : Plan) (tree : Tree) : Prop where
  becomes : g.Becomes plan (.node root) tree
  reached : ∀ id, plan id ≠ [] → g.Reaches (.node root) (.node id)

variable {root : NodeId} {tree : Tree}

theorem Building.of_extends (h : g.Building root plan tree) (hextends : g.Extends grown) :
    grown.Building root plan tree :=
  ⟨h.becomes.of_extends hextends fun _ _ => rfl,
    fun id hid => (h.reached id hid).mono hextends.parts_prefix⟩

theorem Building.reaches (h : g.Building root plan tree) {id : NodeId} {first : Tree}
    {rest : List Tree} (hplan : plan id = first :: rest) : g.Reaches (.node root) (.node id) :=
  h.reached id (by rw [hplan]; exact List.cons_ne_nil _ _)

/-- A node below the root takes the child that is planned next. More may be planned below the child
than is planned below the root. -/
theorem Building.of_take {id : NodeId} {child : Term} {first : Tree} {rest : List Tree}
    (hroot : g.Becomes plan (.node root) tree) (hid : g.Reaches (.node root) (.node id))
    (hplan : plan id = first :: rest) (hchild : g.Becomes plan child first)
    (hreached : ∀ a, plan a ≠ [] →
      g.Reaches (.node root) (.node a) ∨ g.Reaches child (.node a)) :
    ∃ grown, g.attach id child = .ok grown ∧
      grown.Building root (Function.update plan id rest) tree := by
  obtain ⟨grown, hattach⟩ := hroot.takes hid (by rw [hplan]; exact List.cons_ne_nil _ _) child
  have hparts := parts_prefix_attach hattach
  refine ⟨grown, hattach, hroot.of_take hplan hchild hattach, fun a ha => ?_⟩
  by_cases heq : a = id
  · rw [heq]
    exact hid.mono hparts
  · rw [Function.update_of_ne heq] at ha
    rcases hreached a ha with hroot' | hchild'
    · exact hroot'.mono hparts
    · obtain ⟨_, hnode⟩ := hroot.of_reaches hid
      have hpart : grown.IsPart (.node id) child := by
        rw [IsPart, parts_attach hattach hnode.lt_size]
        exact List.mem_append_right _ List.mem_cons_self
      exact ((hid.mono hparts).tail hpart).trans (hchild'.mono hparts)

theorem Building.of_attach {fresh : Graph} {id : NodeId} {child : Term} {first : Tree}
    {rest : List Tree} (h : g.Building root plan tree) (hextends : g.Extends fresh)
    (hplan : plan id = first :: rest) (hchild : fresh.Becomes plan child first) :
    ∃ grown, fresh.attach id child = .ok grown ∧
      grown.Building root (Function.update plan id rest) tree := by
  have hfresh := h.of_extends hextends
  exact of_take hfresh.becomes (hfresh.reaches hplan) hplan hchild fun a ha =>
    .inl (hfresh.reached a ha)

/-- A form with its first children becomes the form with all of them. -/
theorem becomes_form {id : NodeId} {name : String} {terms : List Term} {given later : List Tree}
    (hnode : g.node id = .form (some name) terms)
    (hgiven : List.Forall₂ (g.Becomes plan) terms given) (hplan : plan id = later) :
    g.Becomes plan (.node id) (.form name (given ++ later)) := by
  rw [← hplan]
  exact .form hnode hgiven

/-- A node below the root takes a new form, and the other children of the form are planned. -/
theorem Building.of_construct {fresh : Graph} {id : NodeId} {name : String} {terms : List Term}
    {given later rest : List Tree} (h : g.Building root plan tree) (hextends : g.Extends fresh)
    (hplan : plan id = .form name (given ++ later) :: rest)
    (hgiven : List.Forall₂ (fresh.Becomes plan) terms given) :
    ∃ grown, (fresh.add (.form (some name) terms)).2.attach id (.node fresh.size) = .ok grown ∧
      grown.Building root (Function.update (Function.update plan fresh.size later) id rest)
        tree := by
  have hfresh := h.of_extends hextends
  have hadd := Extends.add fresh (.form (some name) terms)
  have hold (a : NodeId) (ha : a < fresh.size) :
      Function.update plan fresh.size later a = plan a :=
    Function.update_of_ne (Nat.ne_of_lt ha) later plan
  obtain ⟨_, hreceiver⟩ := hfresh.becomes.of_reaches (hfresh.reaches hplan)
  have hform : (fresh.add (.form (some name) terms)).2.Becomes
      (Function.update plan fresh.size later) (.node fresh.size) (.form name (given ++ later)) := by
    exact becomes_form (node_added fresh _)
      (hgiven.imp fun _ _ hchild => hchild.of_extends hadd hold)
      (Function.update_self fresh.size later plan)
  refine of_take (hfresh.becomes.of_extends hadd hold)
    ((hfresh.reaches hplan).mono hadd.parts_prefix) ((hold id hreceiver.lt_size).trans hplan)
    hform fun a ha => ?_
  by_cases heq : a = fresh.size
  · rw [heq]
    exact .inr .refl
  · rw [Function.update_of_ne heq] at ha
    exact .inl ((hfresh.reached a ha).mono hadd.parts_prefix)

theorem Building.of_elsewhere {fresh : Graph} {id : NodeId} {child : Term}
    (h : g.Building root plan tree) (hextends : g.Extends fresh)
    (hattach : fresh.attach id child = .ok grown) (hreach : ¬ g.Reaches (.node root) (.node id)) :
    grown.Building root plan tree :=
  ⟨h.becomes.of_elsewhere hextends hattach hreach fun _ _ => rfl, fun a ha =>
    ((h.reached a ha).mono hextends.parts_prefix).mono (parts_prefix_attach hattach)⟩

/-- At first all that is planned is planned for the root. -/
theorem Building.of_root {trees : List Tree}
    (h : g.Becomes (Function.update Plan.done root trees) (.node root) tree) :
    g.Building root (Function.update Plan.done root trees) tree := by
  refine ⟨h, fun a ha => ?_⟩
  by_cases heq : a = root
  · rw [heq]
    exact .refl
  · rw [Function.update_of_ne heq] at ha
    exact absurd rfl ha

/-! ## When nothing is left to do -/

theorem unfoldsAll_of_forall₂ {ts : List Term} {trees : List Tree}
    (h : List.Forall₂ g.Unfolds ts trees) : g.UnfoldsAll ts trees := by
  induction h with
  | nil => exact .nil
  | cons first _ ih => exact .cons first ih

theorem Becomes.unfolds {t : Term} {tree : Tree} (h : g.Becomes .done t tree) :
    g.Unfolds t tree := by
  induction tree generalizing t with
  | atom text => cases h; exact .atom text
  | str content => cases h; exact .str content
  | list trees ih =>
      cases h with
      | list h =>
          exact .list (unfoldsAll_of_forall₂ (forall₂_imp_of_mem h fun _ _ sub hsub => ih sub hsub))
  | comment c => cases h; exact .comment c
  | stub children ih => cases h
  | form name kids ih =>
      cases h with
      | @form id _ children trees hnode h =>
          have hkids := forall₂_imp_of_mem h fun _ _ sub hsub =>
            ih sub (List.mem_append_left _ hsub)
          rw [Plan.done, List.append_nil]
          exact .form hnode (unfoldsAll_of_forall₂ hkids)
  | emptyExpr => cases h
  | expr content ih =>
      cases h with
      | slot _ hplan => cases hplan
      | expr hnode _ h => exact .expr hnode (ih h)

/-- A tree that is done has neither stubs nor empty expressions. -/
theorem Becomes.complete {t : Term} {tree : Tree} (h : g.Becomes .done t tree) :
    tree.Complete := by
  induction tree generalizing t with
  | atom | str | comment => simp [Tree.Complete, Tree.pieces, Piece.HasText]
  | list trees ih =>
      cases h with
      | list h =>
          rw [Tree.Complete, Tree.forall_pieces_list]
          intro sub hsub
          obtain ⟨u, hu⟩ := exists_of_forall₂ h.flip hsub
          exact ih sub hsub hu
  | stub children ih => cases h
  | form name kids ih =>
      cases h with
      | @form id _ children trees hnode h =>
          rw [Tree.Complete, Tree.forall_pieces_form, Plan.done, List.append_nil]
          refine ⟨trivial, fun sub hsub => ?_⟩
          obtain ⟨u, hu⟩ := exists_of_forall₂ h.flip hsub
          exact ih sub (List.mem_append_left _ hsub) hu
  | emptyExpr => cases h
  | expr content ih =>
      cases h with
      | slot _ hplan => cases hplan
      | expr hnode _ h =>
          rw [Tree.Complete, Tree.forall_pieces_expr]
          exact ih h

end Graph

/-! ## The direct way -/

mutual

/-- The draft that makes a tree from its leaves up. -/
def Tree.draft : Tree → Draft
  | .atom text => .atom text
  | .str content => .str content
  | .list items => .list (Tree.draftAll items)
  | .comment c => .comment c
  | .stub children => .form none (Tree.draftAll children)
  | .form name children => .form (some name) (Tree.draftAll children)
  | .emptyExpr => .emptyExpr
  | .expr content => .expr content.draft

def Tree.draftAll : List Tree → List Draft
  | [] => []
  | t :: ts => t.draft :: Tree.draftAll ts

end

namespace Tree

variable {lookup : String → Option Term}

theorem exists_buildAll_draft {trees : List Tree} (h : ∀ tree ∈ trees, ∀ g : Graph,
      ∃ t grown, tree.draft.build lookup g = some (t, grown) ∧ grown.Becomes .done t tree)
    (g : Graph) : ∃ ts grown, Draft.buildAll lookup g (draftAll trees) = some (ts, grown) ∧
      List.Forall₂ (grown.Becomes .done) ts trees := by
  induction trees generalizing g with
  | nil => exact ⟨[], g, rfl, .nil⟩
  | cons tree trees ih =>
      rw [List.forall_mem_cons] at h
      obtain ⟨t, g₁, hbuilt, htree⟩ := h.1 g
      obtain ⟨ts, grown, hrest, htrees⟩ := ih h.2 g₁
      refine ⟨t :: ts, grown, ?_, ?_⟩
      · simp only [draftAll, Draft.buildAll, hbuilt, hrest]
      · have hfirst := htree.of_extends (Draft.buildAll_extends hrest) fun _ _ => rfl
        exact .cons hfirst htrees

/-- A complete tree can be made from its leaves up, in any graph. -/
theorem Complete.exists_build {tree : Tree} (h : tree.Complete) (g : Graph) :
    ∃ t grown, tree.draft.build lookup g = some (t, grown) ∧ grown.Becomes .done t tree := by
  induction tree generalizing g with
  | atom text => exact ⟨_, g, rfl, .atom text⟩
  | str content => exact ⟨_, g, rfl, .str content⟩
  | list items ih =>
      rw [Complete, forall_pieces_list] at h
      obtain ⟨ts, grown, hbuilt, hitems⟩ := exists_buildAll_draft (fun t ht => ih t ht (h t ht)) g
      exact ⟨.list ts, grown, by rw [draft, Draft.build, hbuilt], .list hitems⟩
  | comment c => exact ⟨_, g, rfl, .comment c⟩
  | stub children ih =>
      rw [Complete, forall_pieces_stub] at h
      exact h.1.elim
  | form name children ih =>
      rw [Complete, forall_pieces_form] at h
      obtain ⟨ts, grown, hbuilt, hchildren⟩ :=
        exists_buildAll_draft (fun t ht => ih t ht (h.2 t ht)) g
      refine ⟨_, _, by rw [draft, Draft.build, hbuilt], ?_⟩
      rw [← List.append_nil children]
      exact .form (Graph.node_added grown _) <| hchildren.imp fun _ _ hchild =>
        hchild.of_extends (.add grown _) fun _ _ => rfl
  | emptyExpr => simp [Complete, pieces, Piece.HasText] at h
  | expr content ih =>
      rw [Complete, forall_pieces_expr] at h
      obtain ⟨t, grown, hbuilt, hcontent⟩ := ih h g
      refine ⟨_, _, by rw [draft, Draft.build, hbuilt], ?_⟩
      exact .expr (Graph.node_added grown _) rfl (hcontent.of_extends (.add grown _) fun _ _ => rfl)

end Tree

end SmtScript
