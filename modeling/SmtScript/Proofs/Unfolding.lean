import SmtScript.Proofs.Pieces
import SmtScript.Proofs.Reach

/-!
# Sharing cannot be read off the text

The tree of a term is given twice: by a relation that follows what the nodes hold, and by the
function that unfolds so many nested nodes as the graph has. An acyclic term has exactly one tree,
the function finds it, and the text of the term is the text of the tree.
-/

namespace SmtScript

open Relation (ReflTransGen TransGen)

/-- The text of a tree as a string. -/
def Tree.serialize (depth : Nat) (mode : Layout.Mode) (t : Tree) :
    Except SerializeError String :=
  (t.render depth mode).map String.ofList

namespace Graph

variable {g : Graph}

/-! ## The relation -/

mutual

/-- The term unfolds to the tree: every node is replaced by what it holds. -/
inductive Unfolds (g : Graph) : Term → Tree → Prop
  | atom (text : String) : Unfolds g (.atom text) (.atom text)
  | str (content : String) : Unfolds g (.str content) (.str content)
  | list {items : List Term} {trees : List Tree} (h : UnfoldsAll g items trees) :
      Unfolds g (.list items) (.list trees)
  | comment (c : Comment) : Unfolds g (.comment c) (.comment c)
  | stub {id : NodeId} {children : List Term} {trees : List Tree}
      (hnode : g.node id = .form none children) (h : UnfoldsAll g children trees) :
      Unfolds g (.node id) (.stub trees)
  | form {id : NodeId} {name : String} {children : List Term} {trees : List Tree}
      (hnode : g.node id = .form (some name) children) (h : UnfoldsAll g children trees) :
      Unfolds g (.node id) (.form name trees)
  | emptyExpr {id : NodeId} (hnode : g.node id = .expr none) : Unfolds g (.node id) .emptyExpr
  | expr {id : NodeId} {content : Term} {tree : Tree} (hnode : g.node id = .expr (some content))
      (h : Unfolds g content tree) : Unfolds g (.node id) (.expr tree)

inductive UnfoldsAll (g : Graph) : List Term → List Tree → Prop
  | nil : UnfoldsAll g [] []
  | cons {t : Term} {ts : List Term} {tree : Tree} {trees : List Tree}
      (first : Unfolds g t tree) (rest : UnfoldsAll g ts trees) :
      UnfoldsAll g (t :: ts) (tree :: trees)

end

mutual

theorem Unfolds.unique {t : Term} {a b : Tree} (ha : g.Unfolds t a) (hb : g.Unfolds t b) :
    a = b := by
  cases ha with
  | atom text => cases hb; rfl
  | str content => cases hb; rfl
  | list ha =>
      cases hb with
      | list hb => rw [ha.unique hb]
  | comment c => cases hb; rfl
  | stub hnode ha =>
      cases hb with
      | stub hother hb =>
          rw [hnode] at hother
          cases hother
          rw [ha.unique hb]
      | form hother | emptyExpr hother | expr hother => rw [hnode] at hother; cases hother
  | form hnode ha =>
      cases hb with
      | form hother hb =>
          rw [hnode] at hother
          cases hother
          rw [ha.unique hb]
      | stub hother | emptyExpr hother | expr hother => rw [hnode] at hother; cases hother
  | emptyExpr hnode =>
      cases hb with
      | emptyExpr => rfl
      | _ hother => rw [hnode] at hother; cases hother
  | expr hnode ha =>
      cases hb with
      | expr hother hb =>
          rw [hnode] at hother
          cases hother
          rw [ha.unique hb]
      | stub hother | form hother | emptyExpr hother => rw [hnode] at hother; cases hother

theorem UnfoldsAll.unique {ts : List Term} {as bs : List Tree} (ha : g.UnfoldsAll ts as)
    (hb : g.UnfoldsAll ts bs) : as = bs := by
  cases ha with
  | nil => cases hb; rfl
  | cons first rest =>
      cases hb with
      | cons first' rest' => rw [first.unique first', rest.unique rest']

end

/-! ## The function agrees with the relation -/

mutual

theorem unfolds_of_unfold {tree? : NodeId → Option Tree}
    (h : ∀ id tree, tree? id = some tree → g.Unfolds (.node id) tree) :
    ∀ {t : Term} {tree : Tree}, t.unfold tree? = some tree → g.Unfolds t tree
  | .atom text, _, ht => by cases ht; exact .atom text
  | .str content, _, ht => by cases ht; exact .str content
  | .list items, _, ht => by
      rw [Term.unfold, Option.map_eq_some_iff] at ht
      obtain ⟨trees, htrees, rfl⟩ := ht
      exact .list (unfoldsAll_of_unfoldAll h htrees)
  | .comment c, _, ht => by cases ht; exact .comment c
  | .node id, tree, ht => h id tree ht

theorem unfoldsAll_of_unfoldAll {tree? : NodeId → Option Tree}
    (h : ∀ id tree, tree? id = some tree → g.Unfolds (.node id) tree) :
    ∀ {ts : List Term} {trees : List Tree}, Term.unfoldAll tree? ts = some trees →
      g.UnfoldsAll ts trees
  | [], _, hts => by cases hts; exact .nil
  | t :: ts, _, hts => by
      simp only [Term.unfoldAll, Option.bind_eq_bind, Option.bind_eq_some_iff, Option.pure_def,
        Option.some.injEq] at hts
      obtain ⟨first, hfirst, rest, hrest, rfl⟩ := hts
      exact .cons (unfolds_of_unfold h hfirst) (unfoldsAll_of_unfoldAll h hrest)

end

theorem unfolds_of_treeOf? : ∀ {fuel : Nat} {id : NodeId} {tree : Tree},
    g.treeOf? fuel id = some tree → g.Unfolds (.node id) tree
  | 0, _, _, h => by cases h
  | fuel + 1, id, tree, h => by
      have hrest : ∀ id tree, g.treeOf? fuel id = some tree → g.Unfolds (.node id) tree :=
        fun _ _ => unfolds_of_treeOf?
      change (g.node id).unfold (g.treeOf? fuel) = some tree at h
      cases hnode : g.node id with
      | form name children =>
          rw [hnode] at h
          cases name with
          | none =>
              rw [Node.unfold, Option.map_eq_some_iff] at h
              obtain ⟨trees, htrees, rfl⟩ := h
              exact .stub hnode (unfoldsAll_of_unfoldAll hrest htrees)
          | some name =>
              rw [Node.unfold, Option.map_eq_some_iff] at h
              obtain ⟨trees, htrees, rfl⟩ := h
              exact .form hnode (unfoldsAll_of_unfoldAll hrest htrees)
      | expr content =>
          rw [hnode] at h
          cases content with
          | none => cases h; exact .emptyExpr hnode
          | some content =>
              rw [Node.unfold, Option.map_eq_some_iff] at h
              obtain ⟨inner, hinner, rfl⟩ := h
              exact .expr hnode (unfolds_of_unfold hrest hinner)

theorem unfolds_of_tree? {t : Term} {tree : Tree} (h : g.tree? t = some tree) :
    g.Unfolds t tree :=
  unfolds_of_unfold (fun _ _ => unfolds_of_treeOf?) h

/-! ## An acyclic term has a tree -/

theorem exists_unfoldAll {tree? : NodeId → Option Tree} : ∀ {ts : List Term},
    (∀ t ∈ ts, ∃ tree, t.unfold tree? = some tree) →
      ∃ trees, Term.unfoldAll tree? ts = some trees
  | [], _ => ⟨[], rfl⟩
  | t :: ts, h => by
      obtain ⟨first, hfirst⟩ := h t List.mem_cons_self
      obtain ⟨rest, hrest⟩ := exists_unfoldAll fun u hu => h u (List.mem_cons_of_mem t hu)
      exact ⟨first :: rest, by rw [Term.unfoldAll, hfirst, hrest]; rfl⟩

theorem exists_node_unfold {tree? : NodeId → Option Tree} {n : Node}
    (h : ∀ t ∈ n.held, ∃ tree, t.unfold tree? = some tree) :
    ∃ tree, n.unfold tree? = some tree := by
  cases n with
  | form name children =>
      obtain ⟨trees, htrees⟩ : ∃ trees, Term.unfoldAll tree? children = some trees :=
        exists_unfoldAll h
      cases name with
      | none => exact ⟨.stub trees, by rw [Node.unfold, htrees]; rfl⟩
      | some name => exact ⟨.form name trees, by rw [Node.unfold, htrees]; rfl⟩
  | expr content =>
      cases content with
      | none => exact ⟨.emptyExpr, rfl⟩
      | some content =>
          obtain ⟨tree, htree⟩ := h content (by simp [Node.held])
          exact ⟨.expr tree, by rw [Node.unfold, htree]; rfl⟩

/-- Fuel does not run out. Going down to a node costs one unit and puts the node on the path, and
no path is longer than the graph has nodes. -/
theorem exists_unfold_treeOf? (fuel : Nat) : ∀ (path : List NodeId) (t : Term),
    g.size < fuel + path.length → g.Above path t → g.Acyclic t →
      ∃ tree, t.unfold (g.treeOf? fuel) = some tree := by
  induction fuel with
  | zero =>
      intro path t hfuel habove _
      have := habove.length_le
      omega
  | succ fuel ih =>
      intro path t hfuel habove hacyclic
      induction t with
      | atom text => exact ⟨.atom text, rfl⟩
      | str content => exact ⟨.str content, rfl⟩
      | list items ihitems =>
          have hitems : ∀ t ∈ items, ∃ tree, t.unfold (g.treeOf? (fuel + 1)) = some tree :=
            fun t ht => ihitems t ht (habove.of_part ht) (hacyclic.of_part ht)
          obtain ⟨trees, htrees⟩ := exists_unfoldAll hitems
          exact ⟨.list trees, by rw [Term.unfold, htrees]; rfl⟩
      | comment c => exact ⟨.comment c, rfl⟩
      | node id =>
          -- the node joins the path, so the sum of fuel and path stays the same
          apply exists_node_unfold
          intro u hu
          exact ih (id :: path) u (by simp only [List.length_cons]; omega)
            (habove.cons hacyclic hu) (hacyclic.of_part hu)

theorem Acyclic.exists_tree? {t : Term} (h : g.Acyclic t) : ∃ tree, g.tree? t = some tree :=
  exists_unfold_treeOf? (g.size + 1) [] t (by simp) (.nil t) h

/-! ## The parts of a term and of its tree -/

theorem UnfoldsAll.of_cons {t : Term} {ts : List Term} {trees : List Tree}
    (h : g.UnfoldsAll (t :: ts) trees) :
    ∃ tree rest, trees = tree :: rest ∧ g.Unfolds t tree ∧ g.UnfoldsAll ts rest := by
  cases h with
  | cons first rest => exact ⟨_, _, rfl, first, rest⟩

theorem UnfoldsAll.of_append : ∀ {ts us : List Term} {trees : List Tree},
    g.UnfoldsAll (ts ++ us) trees →
      ∃ as bs, trees = as ++ bs ∧ g.UnfoldsAll ts as ∧ g.UnfoldsAll us bs
  | [], _, trees, h => ⟨[], trees, rfl, .nil, h⟩
  | _ :: _, _, _, h => by
      obtain ⟨tree, rest, rfl, first, hrest⟩ := h.of_cons
      obtain ⟨as, bs, rfl, has, hbs⟩ := hrest.of_append
      exact ⟨tree :: as, bs, rfl, .cons first has, hbs⟩

theorem UnfoldsAll.getElem? : ∀ {ts : List Term} {trees : List Tree}, g.UnfoldsAll ts trees →
    ∀ {i : Nat} {t : Term}, ts[i]? = some t →
      ∃ tree, trees[i]? = some tree ∧ g.Unfolds t tree
  | _, _, .nil, _, _, ht => by cases ht
  | _, _, .cons first rest, 0, _, ht => by
      cases ht
      exact ⟨_, rfl, first⟩
  | _, _, .cons first rest, _ + 1, _, ht => rest.getElem? ht

theorem Unfolds.parts {t : Term} {tree : Tree} (h : g.Unfolds t tree) :
    g.UnfoldsAll (g.parts t) tree.parts := by
  cases h with
  | atom text => exact .nil
  | str content => exact .nil
  | list h => exact h
  | comment c => exact .nil
  | stub hnode h => rw [Graph.parts, hnode]; exact h
  | form hnode h => rw [Graph.parts, hnode]; exact h
  | emptyExpr hnode => rw [Graph.parts, hnode]; exact .nil
  | expr hnode h => rw [Graph.parts, hnode]; exact .cons h .nil

/-- The tree at a place unfolds the term at that place. -/
theorem Unfolds.at? : ∀ {place : List Nat} {t u : Term} {tree : Tree}, g.Unfolds t tree →
    g.at? t place = some u → ∃ sub, tree.at? place = some sub ∧ g.Unfolds u sub
  | [], _, _, tree, h, hu => by
      cases hu
      exact ⟨tree, rfl, h⟩
  | i :: place, _, _, tree, h, hu => by
      rw [Graph.at?, Option.bind_eq_some_iff] at hu
      obtain ⟨part, hpart, hu⟩ := hu
      obtain ⟨inner, hinner, hpart⟩ := h.parts.getElem? hpart
      obtain ⟨sub, hsub, hunfolds⟩ := hpart.at? hu
      exact ⟨sub, by rw [Tree.at?, hinner]; exact hsub, hunfolds⟩

/-! ## Only acyclic terms have a tree -/

theorem Unfolds.part_lt {t u : Term} {tree : Tree} (h : g.Unfolds t tree) (hu : g.IsPart t u) :
    ∃ sub, g.Unfolds u sub ∧ sizeOf sub < sizeOf tree := by
  obtain ⟨i, hi⟩ := List.mem_iff_getElem?.mp hu
  obtain ⟨sub, hsub, hunfolds⟩ := h.parts.getElem? hi
  exact ⟨sub, hunfolds, Tree.sizeOf_part (List.mem_of_getElem? hsub)⟩

theorem Unfolds.below_lt {t u : Term} {tree : Tree} (h : g.Unfolds t tree)
    (hu : TransGen g.IsPart t u) : ∃ sub, g.Unfolds u sub ∧ sizeOf sub < sizeOf tree := by
  induction hu with
  | single hu => exact h.part_lt hu
  | tail _ hu ih =>
      obtain ⟨mid, hmid, hlt⟩ := ih
      obtain ⟨sub, hsub, hlt'⟩ := hmid.part_lt hu
      exact ⟨sub, hsub, Nat.lt_trans hlt' hlt⟩

/-- A term on a cycle would have a tree that is smaller than itself. -/
theorem Unfolds.acyclic {t : Term} {tree : Tree} (h : g.Unfolds t tree) : g.Acyclic t := by
  intro u hu hcycle
  have hsub : ∃ sub, g.Unfolds u sub := by
    rcases Relation.reflTransGen_iff_eq_or_transGen.mp hu with rfl | hu
    · exact ⟨tree, h⟩
    · obtain ⟨sub, hsub, _⟩ := h.below_lt hu
      exact ⟨sub, hsub⟩
  obtain ⟨sub, hsub⟩ := hsub
  obtain ⟨again, hagain, hlt⟩ := hsub.below_lt hcycle
  rw [hagain.unique hsub] at hlt
  exact Nat.lt_irrefl _ hlt

theorem tree?_eq_some_iff {t : Term} {tree : Tree} :
    g.tree? t = some tree ↔ g.Unfolds t tree := by
  constructor
  · exact unfolds_of_tree?
  · intro h
    obtain ⟨other, hother⟩ := h.acyclic.exists_tree?
    rw [hother, (unfolds_of_tree? hother).unique h]

theorem acyclic_iff {t : Term} : g.Acyclic t ↔ ∃ tree, g.Unfolds t tree := by
  constructor
  · intro h
    obtain ⟨tree, htree⟩ := h.exists_tree?
    exact ⟨tree, unfolds_of_tree? htree⟩
  · rintro ⟨tree, htree⟩
    exact htree.acyclic

/-! ## The text of a term is the text of its tree -/

/-- A way to write nodes that writes each node as its tree is written. -/
def WritesTrees (writeNode : NodeWriter) (tree? : NodeId → Option Tree) : Prop :=
  ∀ id tree, tree? id = some tree → ∀ depth mode,
    writeNode id depth mode = (tree.render depth mode).mapError .failed

section

variable {writeNode : NodeWriter} {tree? : NodeId → Option Tree}

mutual

theorem write_of_unfold (h : WritesTrees writeNode tree?) (depth : Nat) (mode : Layout.Mode) :
    ∀ {t : Term} {tree : Tree}, t.unfold tree? = some tree →
      t.write writeNode depth mode = (tree.render depth mode).mapError .failed
  | .atom text, _, ht => by cases ht; rfl
  | .str content, _, ht => by cases ht; rfl
  | .list items, _, ht => by
      rw [Term.unfold, Option.map_eq_some_iff] at ht
      obtain ⟨trees, htrees, rfl⟩ := ht
      rw [Term.write, Tree.render, writeAll_of_unfoldAll h 0 htrees]
      cases Tree.renderAll 0 trees <;> rfl
  | .comment c, _, ht => by cases ht; rfl
  | .node id, tree, ht => h id tree ht depth mode

theorem writeAll_of_unfoldAll (h : WritesTrees writeNode tree?) (depth : Nat) :
    ∀ {ts : List Term} {trees : List Tree}, Term.unfoldAll tree? ts = some trees →
      Term.writeAll writeNode depth ts = (Tree.renderAll depth trees).mapError .failed
  | [], _, hts => by cases hts; rfl
  | t :: ts, _, hts => by
      simp only [Term.unfoldAll, Option.bind_eq_bind, Option.bind_eq_some_iff, Option.pure_def,
        Option.some.injEq] at hts
      obtain ⟨first, hfirst, rest, hrest, rfl⟩ := hts
      rw [Term.writeAll, Tree.renderAll, write_of_unfold h depth .auto hfirst,
        writeAll_of_unfoldAll h depth hrest]
      cases Tree.render depth .auto first with
      | error e => rfl
      | ok text => cases Tree.renderAll depth rest <;> rfl

end

theorem node_write_of_unfold (h : WritesTrees writeNode tree?) (depth : Nat)
    (mode : Layout.Mode) {n : Node} {tree : Tree} (hn : n.unfold tree? = some tree) :
    n.write writeNode depth mode = (tree.render depth mode).mapError .failed := by
  cases n with
  | form name children =>
      cases name with
      | none =>
          rw [Node.unfold, Option.map_eq_some_iff] at hn
          obtain ⟨trees, htrees, rfl⟩ := hn
          rfl
      | some name =>
          rw [Node.unfold, Option.map_eq_some_iff] at hn
          obtain ⟨trees, htrees, rfl⟩ := hn
          rw [Node.write, Tree.render, writeAll_of_unfoldAll h (depth + 1) htrees]
          cases Tree.renderAll (depth + 1) trees <;> rfl
  | expr content =>
      cases content with
      | none => cases hn; rfl
      | some content =>
          rw [Node.unfold, Option.map_eq_some_iff] at hn
          obtain ⟨inner, hinner, rfl⟩ := hn
          exact write_of_unfold h (depth + 1) .auto hinner

end

theorem writesTrees (g : Graph) : ∀ fuel, WritesTrees (g.writeNode fuel) (g.treeOf? fuel)
  | 0, _, _, h => by cases h
  | fuel + 1, _, _, h => fun depth mode =>
      node_write_of_unfold (g.writesTrees fuel) depth mode h

theorem Unfolds.render {t : Term} {tree : Tree} (h : g.Unfolds t tree) (depth : Nat)
    (mode : Layout.Mode) : g.render t depth mode = (tree.render depth mode).mapError .failed :=
  write_of_unfold (g.writesTrees (g.size + 1)) depth mode (tree?_eq_some_iff.mpr h)

theorem Unfolds.serialize {t : Term} {tree : Tree} (h : g.Unfolds t tree) (depth : Nat)
    (mode : Layout.Mode) :
    g.serialize t depth mode = (tree.serialize depth mode).mapError .failed := by
  rw [Graph.serialize, Tree.serialize, h.render]
  cases tree.render depth mode <;> rfl

/-! ## What has a text has a tree -/

theorem exists_text_of_writeAll {writeNode : NodeWriter} {depth : Nat} :
    ∀ {ts : List Term} {texts : List Text}, Term.writeAll writeNode depth ts = .ok texts →
      ∀ t ∈ ts, ∃ text, t.write writeNode depth .auto = .ok text
  | [], _, _, _, ht => absurd ht List.not_mem_nil
  | first :: rest, _, h, t, ht => by
      simp only [Term.writeAll, bind_eq_ok_iff] at h
      obtain ⟨text, hfirst, texts, hrest, -⟩ := h
      rcases List.mem_cons.mp ht with rfl | ht
      · exact ⟨text, hfirst⟩
      · exact exists_text_of_writeAll hrest t ht

theorem exists_unfold_of_write {writeNode : NodeWriter} {tree? : NodeId → Option Tree}
    (h : ∀ id depth mode text, writeNode id depth mode = .ok text →
      ∃ tree, tree? id = some tree) {t : Term} {depth : Nat} {mode : Layout.Mode} {text : Text}
    (ht : t.write writeNode depth mode = .ok text) : ∃ tree, t.unfold tree? = some tree := by
  induction t generalizing depth mode text with
  | atom own => exact ⟨.atom own, rfl⟩
  | str content => exact ⟨.str content, rfl⟩
  | list items ih =>
      rw [Term.write, bind_eq_ok_iff] at ht
      obtain ⟨texts, hitems, -⟩ := ht
      have heach : ∀ t ∈ items, ∃ tree, t.unfold tree? = some tree := by
        intro t ht
        obtain ⟨text, htext⟩ := exists_text_of_writeAll hitems t ht
        exact ih t ht htext
      obtain ⟨trees, htrees⟩ := exists_unfoldAll heach
      exact ⟨.list trees, by rw [Term.unfold, htrees]; rfl⟩
  | comment c => exact ⟨.comment c, rfl⟩
  | node id => exact h id depth mode text ht

theorem exists_treeOf?_of_writeNode : ∀ {fuel : Nat} {id : NodeId} {depth : Nat}
    {mode : Layout.Mode} {text : Text}, g.writeNode fuel id depth mode = .ok text →
      ∃ tree, g.treeOf? fuel id = some tree
  | 0, _, _, _, _, h => by cases h
  | fuel + 1, id, depth, mode, text, h => by
      have hbelow : ∀ {t : Term} {depth : Nat} {mode : Layout.Mode} {text : Text},
          t.write (g.writeNode fuel) depth mode = .ok text →
            ∃ tree, t.unfold (g.treeOf? fuel) = some tree :=
        exists_unfold_of_write fun _ _ _ _ hnode => exists_treeOf?_of_writeNode hnode
      change (g.node id).write (g.writeNode fuel) depth mode = .ok text at h
      show ∃ tree, (g.node id).unfold (g.treeOf? fuel) = some tree
      apply exists_node_unfold
      intro t ht
      cases hnode : g.node id with
      | form name children =>
          rw [hnode] at h ht
          cases name with
          | none => cases h
          | some name =>
              rw [Node.write, bind_eq_ok_iff] at h
              obtain ⟨texts, hchildren, -⟩ := h
              obtain ⟨text, htext⟩ := exists_text_of_writeAll hchildren t ht
              exact hbelow htext
      | expr content =>
          rw [hnode] at h ht
          cases content with
          | none => cases h
          | some content =>
              rw [List.mem_singleton.mp ht]
              exact hbelow h

theorem exists_unfolds_of_render {t : Term} {depth : Nat} {mode : Layout.Mode} {text : Text}
    (h : g.render t depth mode = .ok text) : ∃ tree, g.Unfolds t tree := by
  have htree : ∃ tree, g.tree? t = some tree :=
    exists_unfold_of_write (fun _ _ _ _ hnode => exists_treeOf?_of_writeNode hnode) h
  exact htree.imp fun _ => unfolds_of_tree?

/-! ## Growth is seen everywhere -/

/-- After a node took a child, every place of the node in a term has the tree of the child as its
last part. -/
theorem Unfolds.last_part_attach {g₂ : Graph} {t child : Term} {id : NodeId} {tree : Tree}
    (h : g₂.Unfolds t tree) (hattach : g.attach id child = .ok g₂)
    (hid : id < g.size) {place : List Nat} (hplace : g.at? t place = some (.node id)) :
    ∃ last, g₂.Unfolds child last ∧
      tree.at? (place ++ [(g.parts (.node id)).length]) = some last := by
  -- the place does not move, since children are only appended
  have hgrown := at?_of_prefix (parts_prefix_attach hattach) hplace
  obtain ⟨last, hlast, hchild⟩ : ∃ last,
      tree.at? (place ++ [(g.parts (.node id)).length]) = some last ∧ g₂.Unfolds child last := by
    apply h.at?
    rw [Graph.at?_append, hgrown]
    simp [Graph.at?, parts_attach hattach hid]
  exact ⟨last, hchild, hlast⟩

/-- **The text depends on the tree alone.** An acyclic term has exactly one tree. Its text, or its
error, is that of the tree at every depth and in every mode, and so is that of any term of any
graph with the same tree. A child that a node takes shows up at every place of that node in the
tree of any term. -/
theorem serialize_eq_tree_serialize {t : Term} (h : g.Acyclic t) :
    ∃ tree, (g.Unfolds t tree ∧ ∀ other, g.Unfolds t other → other = tree) ∧
      (∀ depth mode,
        g.serialize t depth mode = (tree.serialize depth mode).mapError .failed) ∧
      (∀ (g₂ : Graph) (t₂ : Term), g₂.Unfolds t₂ tree → ∀ depth mode,
        g₂.serialize t₂ depth mode = g.serialize t depth mode) ∧
      ∀ id child g₂, id < g.size → g.attach id child = .ok g₂ → g₂.Acyclic t →
        ∃ grown, g₂.Unfolds t grown ∧ ∀ place, g.at? t place = some (.node id) →
          ∃ last, g₂.Unfolds child last ∧
            grown.at? (place ++ [(g.parts (.node id)).length]) = some last := by
  obtain ⟨tree, htree⟩ := acyclic_iff.mp h
  refine ⟨tree, ⟨htree, fun other hother => hother.unique htree⟩, htree.serialize, ?_, ?_⟩
  · intro g₂ t₂ h₂ depth mode
    rw [h₂.serialize, htree.serialize]
  · intro id child g₂ hid hattach hacyclic
    obtain ⟨grown, hgrown⟩ := acyclic_iff.mp hacyclic
    exact ⟨grown, hgrown, fun place hplace => hgrown.last_part_attach hattach hid hplace⟩

/-- A disjunction that holds one conjunction twice. -/
def twice : Graph :=
  ⟨#[.form (some "and") [.atom "p"], .form (some "or") [.node 0, .node 0]]⟩

/-- The same after the conjunction took a child. -/
def twiceGrown : Graph :=
  ⟨#[.form (some "and") [.atom "p", .atom "q"], .form (some "or") [.node 0, .node 0]]⟩

theorem serialize_twice : twice.Acyclic (.node 1) ∧
    (∃ tree, twice.Unfolds (.node 1) tree ∧ ∀ depth mode,
      twice.serialize (.node 1) depth mode = (tree.serialize depth mode).mapError .failed) ∧
    ∃ grown, twiceGrown.Unfolds (.node 1) grown ∧
      grown.at? [0, 1] = some (.atom "q") ∧ grown.at? [1, 1] = some (.atom "q") := by
  have htree : twice.Unfolds (.node 1)
      (.form "or" [.form "and" [.atom "p"], .form "and" [.atom "p"]]) := unfolds_of_tree? rfl
  have hgrown : twiceGrown.Unfolds (.node 1) (.form "or"
      [.form "and" [.atom "p", .atom "q"], .form "and" [.atom "p", .atom "q"]]) :=
    unfolds_of_tree? rfl
  obtain ⟨tree, ⟨hunfolds, _⟩, htext, _, hchild⟩ := serialize_eq_tree_serialize htree.acyclic
  obtain ⟨grown, hunfoldsGrown, hplaces⟩ :=
    hchild 0 (.atom "q") twiceGrown (by decide) rfl hgrown.acyclic
  obtain ⟨_, ⟨⟩, hfirst⟩ := hplaces [0] rfl
  obtain ⟨_, ⟨⟩, hsecond⟩ := hplaces [1] rfl
  exact ⟨htree.acyclic, ⟨tree, hunfolds, htext⟩, grown, hunfoldsGrown, hfirst, hsecond⟩

example : twiceGrown.serialize (.node 1) 0 .auto = .ok "(or (and p q) (and p q))" := by rfl

end Graph

end SmtScript
