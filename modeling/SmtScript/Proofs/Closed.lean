import SmtScript.Proofs.Renaming
import SmtScript.Proofs.Run

/-!
# Nothing dangles

In a closed graph every node that a node refers to exists. A session stays closed in all its nodes,
stacks and handles, whatever steps it takes, for a step has no other way to name a node than by what
it builds and by the handles.
-/

namespace SmtScript

open Relation (ReflTransGen)

namespace Graph

/-- Every node that the term refers to exists. -/
def Has (g : Graph) (t : Term) : Prop :=
  ∀ id ∈ t.nodes, id < g.size

instance (g : Graph) (t : Term) : Decidable (g.Has t) :=
  inferInstanceAs (Decidable (∀ id ∈ t.nodes, id < g.size))

/-- Every node that a node refers to exists. -/
def Closed (g : Graph) : Prop :=
  ∀ id < g.size, ∀ t ∈ (g.node id).held, g.Has t

instance (g : Graph) : Decidable g.Closed :=
  inferInstanceAs (Decidable (∀ id < g.size, ∀ t ∈ (g.node id).held, g.Has t))

variable {g : Graph}

theorem has_node {id : NodeId} : g.Has (.node id) ↔ id < g.size := by
  simp [Has, Term.nodes]

theorem has_list {items : List Term} : g.Has (.list items) ↔ ∀ t ∈ items, g.Has t := by
  constructor
  · intro h t ht id hid
    exact h id (Term.mem_nodes_list.mpr ⟨t, ht, hid⟩)
  · intro h id hid
    obtain ⟨t, ht, hid⟩ := Term.mem_nodes_list.mp hid
    exact h t ht id hid

theorem has_of_nodes_eq_nil {t : Term} (h : t.nodes = []) : g.Has t := by
  intro id hid
  rw [h] at hid
  cases hid

theorem Has.mono {g₂ : Graph} {t : Term} (h : g.Has t) (hsize : g.size ≤ g₂.size) : g₂.Has t :=
  fun id hid => Nat.lt_of_lt_of_le (h id hid) hsize

/-! ## Ways down -/

theorem Closed.has_of_part (hg : g.Closed) {t u : Term} (ht : g.Has t) (hu : g.IsPart t u) :
    g.Has u := by
  cases t with
  | list items => exact has_list.mp ht u hu
  | node id => exact hg id (has_node.mp ht) u hu
  | _ => cases hu

theorem Closed.has_of_reaches (hg : g.Closed) {t u : Term} (ht : g.Has t) (hu : g.Reaches t u) :
    g.Has u := by
  induction hu with
  | refl => exact ht
  | tail _ hpart ih => exact hg.has_of_part ih hpart

/-! ## Growth -/

theorem closed_empty : empty.Closed :=
  fun _ hid => absurd hid (Nat.not_lt_zero _)

theorem has_added (g : Graph) (n : Node) : (g.add n).2.Has (.node g.size) := by
  rw [has_node, size_add]
  exact Nat.lt_succ_self _

theorem Closed.add (hg : g.Closed) (n : Node) (hn : ∀ t ∈ n.held, g.Has t) :
    (g.add n).2.Closed := by
  have hsize : g.size ≤ (g.add n).2.size := by
    rw [size_add]
    exact Nat.le_succ _
  intro id hid t ht
  rw [node_add] at ht
  split at ht
  · exact (hn t ht).mono hsize
  · exact (hg id (lt_size_of_mem_held ht) t ht).mono hsize

theorem Closed.attach (hg : g.Closed) {grown : Graph} {id : NodeId} {child : Term}
    (hattach : g.attach id child = .ok grown) (hchild : g.Has child) : grown.Closed := by
  obtain ⟨n, hn, rfl⟩ := attach_ok hattach
  intro other hother t ht
  rw [size_put] at hother
  rw [node_put] at ht
  have hsize : g.size ≤ (g.put id n).size := Nat.le_of_eq (size_put g id n).symm
  split at ht
  · next hid =>
    rw [Node.held_attach hn, List.mem_append, List.mem_singleton] at ht
    rcases ht with ht | rfl
    · exact (hg id hid.2 t ht).mono hsize
    · exact hchild.mono hsize
  · exact (hg other hother t ht).mono hsize

theorem size_attach {grown : Graph} {id : NodeId} {child : Term}
    (hattach : g.attach id child = .ok grown) : grown.size = g.size := by
  obtain ⟨n, -, rfl⟩ := attach_ok hattach
  exact size_put g id n

end Graph

/-! ## Building -/

namespace Draft

variable {lookup : String → Option Term}

mutual

theorem build_closed : ∀ {g grown : Graph} {d : Draft} {t : Term},
    d.build lookup g = some (t, grown) → g.Closed →
      (∀ name u, lookup name = some u → g.Has u) → grown.Closed ∧ grown.Has t
  | g, _, .atom _, _, h, hg, _ | g, _, .sort _, _, h, hg, _ | g, _, .num _, _, h, hg, _
  | g, _, .str _, _, h, hg, _ | g, _, .comment _, _, h, hg, _ => by
      cases h
      exact ⟨hg, Graph.has_of_nodes_eq_nil rfl⟩
  | g, _, .list items, _, h, hg, hlookup => by
      obtain ⟨ts, hitems, rfl⟩ := build_list_ok h
      obtain ⟨hgrown, hterms⟩ := buildAll_closed hitems hg hlookup
      exact ⟨hgrown, Graph.has_list.mpr hterms⟩
  | g, _, .form name args, _, h, hg, hlookup => by
      obtain ⟨ts, g₁, hargs, rfl, rfl⟩ := build_form_ok h
      obtain ⟨hgrown, hterms⟩ := buildAll_closed hargs hg hlookup
      exact ⟨hgrown.add (.form name ts) hterms, Graph.has_added g₁ (.form name ts)⟩
  | g, _, .emptyExpr, _, h, hg, _ => by
      cases h
      exact ⟨hg.add (.expr none) fun _ ht => absurd ht List.not_mem_nil,
        Graph.has_added g (.expr none)⟩
  | g, _, .expr content, _, h, hg, hlookup => by
      obtain ⟨u, g₁, hcontent, rfl, rfl⟩ := build_expr_ok h
      obtain ⟨hgrown, hterm⟩ := build_closed hcontent hg hlookup
      exact ⟨hgrown.add (.expr (some u)) (List.forall_mem_singleton.mpr hterm),
        Graph.has_added g₁ (.expr (some u))⟩
  | g, _, .ref handle, _, h, hg, hlookup => by
      obtain ⟨ht, rfl⟩ := build_ref_ok h
      exact ⟨hg, hlookup handle _ ht⟩

theorem buildAll_closed : ∀ {g grown : Graph} {ds : List Draft} {ts : List Term},
    buildAll lookup g ds = some (ts, grown) → g.Closed →
      (∀ name u, lookup name = some u → g.Has u) → grown.Closed ∧ ∀ t ∈ ts, grown.Has t
  | g, _, [], _, h, hg, _ => by
      cases h
      exact ⟨hg, fun _ ht => absurd ht List.not_mem_nil⟩
  | g, _, d :: ds, _, h, hg, hlookup => by
      obtain ⟨t, us, g₁, hfirst, hrest, rfl⟩ := buildAll_cons_ok h
      have hsize := (build_extends hfirst).size_le
      obtain ⟨hg₁, hterm⟩ := build_closed hfirst hg hlookup
      obtain ⟨hg₂, hterms⟩ := buildAll_closed hrest hg₁ fun name u hu =>
        (hlookup name u hu).mono hsize
      exact ⟨hg₂, List.forall_mem_cons.mpr
        ⟨hterm.mono (buildAll_extends hrest).size_le, hterms⟩⟩

end

end Draft

/-- An application refers to nothing but its arguments. -/
theorem Declared.apply_closed {d : Declared} {g grown : Graph} {args : List Term} {t : Term}
    (h : d.apply g args = .ok (t, grown)) (hg : g.Closed) (hargs : ∀ u ∈ args, g.Has u) :
    grown.Closed ∧ grown.Has t := by
  cases d with
  | const name =>
      rw [apply] at h
      split at h
      · cases h
        exact ⟨hg, Graph.has_of_nodes_eq_nil rfl⟩
      · cases h
  | function f =>
      rw [apply, FunSymbol.apply] at h
      split at h
      · cases h
        exact ⟨hg.add (.form (some f.name) args) hargs,
          Graph.has_added g (.form (some f.name) args)⟩
      · cases h

/-! ## Sessions -/

namespace Session

/-- All nodes that the nodes, the stacks and the handles refer to exist. -/
structure Closed (s : Session) : Prop where
  graph : s.graph.Closed
  commands : ∀ name, ∀ t ∈ (s.stack name).commands, s.graph.Has t
  handle : ∀ name t, s.handle? name = some (.term t) → s.graph.Has t

variable {s : Session}

theorem closed_empty : empty.Closed :=
  ⟨Graph.closed_empty, fun _ _ ht => absurd ht List.not_mem_nil, fun _ _ h => by cases h⟩

namespace Closed

theorem term? (h : s.Closed) {name : String} {t : Term} (ht : s.term? name = some t) :
    s.graph.Has t := by
  rw [Session.term?, Option.bind_eq_some_iff] at ht
  obtain ⟨handle, hhandle, ht⟩ := ht
  cases handle with
  | term u => cases ht; exact h.handle name _ hhandle
  | declared d =>
      cases d with
      | const own => cases ht; exact Graph.has_of_nodes_eq_nil rfl
      | function f => cases ht

theorem node? (h : s.Closed) {name : String} {id : NodeId}
    (hnode : s.node? name = some id) : id < s.graph.size := by
  unfold Session.node? at hnode
  split at hnode
  · next own hhandle =>
    cases hnode
    exact Graph.has_node.mp (h.handle name _ hhandle)
  · cases hnode

theorem build (h : s.Closed) {d : Draft} {t : Term} {g : Graph}
    (hbuilt : s.build d = some (t, g)) : g.Closed ∧ g.Has t :=
  Draft.build_closed hbuilt h.graph fun _ _ => h.term?

theorem buildAll (h : s.Closed) {ds : List Draft} {ts : List Term} {g : Graph}
    (hbuilt : s.buildAll ds = some (ts, g)) : g.Closed ∧ ∀ t ∈ ts, g.Has t :=
  Draft.buildAll_closed hbuilt h.graph fun _ _ => h.term?

theorem buildCommand (h : s.Closed) {command : Command Draft} {built : Command Term} {g : Graph}
    (hbuilt : s.buildCommand command = some (built, g)) :
    g.Closed ∧ ∀ t ∈ built.args, g.Has t := by
  cases command with
  | checkSat | getModel | exit =>
      cases hbuilt
      exact ⟨h.graph, fun _ ht => absurd ht List.not_mem_nil⟩
  | setLogic d | assert d | maximize d =>
      rw [Session.buildCommand, Option.map_eq_some_iff] at hbuilt
      obtain ⟨⟨t, grown⟩, hd, heq⟩ := hbuilt
      cases heq
      obtain ⟨hg, ht⟩ := h.build hd
      exact ⟨hg, List.forall_mem_singleton.mpr ht⟩
  | declareConst name d =>
      rw [Session.buildCommand, Option.map_eq_some_iff] at hbuilt
      obtain ⟨⟨t, grown⟩, hd, heq⟩ := hbuilt
      cases heq
      obtain ⟨hg, ht⟩ := h.build hd
      simp only [Command.args, List.forall_mem_cons]
      exact ⟨hg, Graph.has_of_nodes_eq_nil rfl, ht, fun _ hu => absurd hu List.not_mem_nil⟩
  | declareFun name params result =>
      obtain ⟨ts, g₁, t, hparams, hresult, rfl⟩ := buildCommand_declareFun_ok hbuilt
      obtain ⟨hg₁, hts⟩ := h.buildAll hparams
      have hparamsSize := (Draft.buildAll_extends hparams).size_le
      obtain ⟨hgrown, ht⟩ := Draft.build_closed hresult hg₁ fun _ _ hu =>
        (h.term? hu).mono hparamsSize
      have hresultSize := (Draft.build_extends hresult).size_le
      have hlist : g.Has (.list ts) := Graph.has_list.mpr fun u hu => (hts u hu).mono hresultSize
      simp only [Command.args, List.forall_mem_cons]
      exact ⟨hgrown, Graph.has_of_nodes_eq_nil rfl, hlist, ht,
        fun _ hu => absurd hu List.not_mem_nil⟩

theorem set_graph (h : s.Closed) {g : Graph} (hg : g.Closed) (hsize : s.graph.size ≤ g.size) :
    Closed { s with graph := g } :=
  ⟨hg, fun name t ht => (h.commands name t ht).mono hsize,
    fun name t ht => (h.handle name t ht).mono hsize⟩

theorem remember (h : s.Closed) (name? : Option String) {handle : Handle}
    (hhandle : ∀ t, handle = .term t → s.graph.Has t) : (s.remember name? handle).Closed := by
  cases name? with
  | none => exact h
  | some name =>
      refine ⟨h.graph, h.commands, fun other t hfound => ?_⟩
      rw [Session.remember, handle?, List.lookup_cons] at hfound
      split at hfound
      · exact hhandle t (Option.some.inj hfound)
      · exact h.handle other t hfound

theorem remember_term (h : s.Closed) (name? : Option String) {t : Term} (ht : s.graph.Has t) :
    (s.remember name? (.term t)).Closed :=
  h.remember name? fun u hu => by cases hu; exact ht

theorem setStack (h : s.Closed) (name : String) {stack : Stack}
    (hstack : ∀ t ∈ stack.commands, s.graph.Has t) : (s.setStack name stack).Closed := by
  refine ⟨h.graph, fun other t ht => ?_, h.handle⟩
  rw [stack_setStack] at ht
  split at ht
  · exact hstack t ht
  · exact h.commands other t ht

theorem push (h : s.Closed) (name : String) {t : Term} (ht : s.graph.Has t) :
    (s.setStack name ((s.stack name).push t)).Closed :=
  h.setStack name <| List.forall_mem_append.mpr
    ⟨h.commands name, List.forall_mem_singleton.mpr ht⟩

/-- A step makes no reference to a node that does not exist. -/
theorem step (h : s.Closed) (step : Step) : (s.step step).2.Closed := by
  cases step with
  | issue stack command into =>
      rcases s.issue_cases stack command into with ⟨e, he⟩ | ⟨built, g, answer, hbuilt, hissue⟩
      · rw [Session.step, he]; exact h
      · obtain ⟨hg, hargs⟩ := h.buildCommand hbuilt
        have hsize : s.graph.size ≤ (g.add built.node).2.size :=
          Nat.le_trans (buildCommand_extends hbuilt).size_le (Graph.Extends.add g _).size_le
        have hnext := (h.set_graph (hg.add built.node hargs) hsize).push stack
          (Graph.has_added g built.node)
        rw [Session.step, hissue]
        cases hhandle : declares built with
        | none => exact hnext
        | some handle =>
            refine hnext.remember into fun t ht => ?_
            subst ht
            -- a declared symbol is remembered as a name
            cases built <;> cases hhandle
            exact Graph.has_of_nodes_eq_nil rfl
  | comment stack text => exact h.push stack (Graph.has_of_nodes_eq_nil rfl)
  | copyStack source target => exact h.setStack target (h.commands source)
  | serialize | measure | listCommands | writeTo => exact h
  | fetch stack index into =>
      rw [Session.step]
      split
      · next id hcommand =>
        exact h.remember_term into (h.commands stack _ (List.mem_of_getElem? hcommand))
      · exact h
  | store term into =>
      rw [Session.step]
      cases hbuilt : s.build term with
      | none => exact h
      | some pair =>
          obtain ⟨hg, ht⟩ := h.build hbuilt
          exact (h.set_graph hg (Draft.build_extends hbuilt).size_le).remember_term into ht
  | attach receiver child =>
      rcases s.attach_cases receiver child with
        ⟨e, he⟩ | ⟨id, term, g, grown, answer, -, hbuilt, hattach, heq⟩
      · rw [Session.step, he]; exact h
      · obtain ⟨hg, ht⟩ := h.build hbuilt
        rw [Session.step, heq]
        refine h.set_graph (hg.attach hattach ht) ?_
        rw [Graph.size_attach hattach]
        exact (Draft.build_extends hbuilt).size_le
  | annotate receiver text into =>
      rcases s.annotate_cases receiver text into with ⟨e, he⟩ | ⟨id, g, answer, -, hattach, heq⟩
      · rw [Session.step, he]; exact h
      · have hg := h.graph.attach hattach (Graph.has_of_nodes_eq_nil rfl)
        rw [Session.step, heq]
        exact (h.set_graph hg (Nat.le_of_eq (Graph.size_attach hattach).symm)).remember_term into
          (Graph.has_of_nodes_eq_nil rfl)
  | construct receiver c args into =>
      rcases s.construct_cases receiver c args into with
        ⟨e, he⟩ | ⟨id, terms, g, grown, answer, -, hbuilt, hattach, heq⟩
      · rw [Session.step, he]; exact h
      · obtain ⟨hg, hterms⟩ := h.buildAll hbuilt
        have hadded := hg.add (.form (some c.name) terms) hterms
        have hform := Graph.has_added g (.form (some c.name) terms)
        have hextends := (Draft.buildAll_extends hbuilt).trans (.add g (.form (some c.name) terms))
        have hsize := Nat.le_of_eq (Graph.size_attach hattach).symm
        have hnext := h.set_graph (hadded.attach hattach hform)
          (Nat.le_trans hextends.size_le hsize)
        rw [Session.step, heq]
        exact hnext.remember_term into (hform.mono hsize)
  | serializeTerm | describe | sameNode | isFormNamed | compare =>
      rw [Session.step]
      split <;> exact h
  | apply symbol args onlyFunction into =>
      rcases s.apply_cases symbol args onlyFunction into with
        ⟨e, he⟩ | ⟨answer, heq⟩ | ⟨d, terms, g, term, grown, answer, -, hbuilt, happly, heq⟩
      · rw [Session.step, he]; exact h
      · rw [Session.step, heq]; exact h
      · obtain ⟨hg, hterms⟩ := h.buildAll hbuilt
        obtain ⟨hgrown, ht⟩ := Declared.apply_closed happly hg hterms
        have hextends := (Draft.buildAll_extends hbuilt).trans (d.apply_extends happly)
        rw [Session.step, heq]
        exact (h.set_graph hgrown hextends.size_le).remember_term into ht

theorem run (h : s.Closed) (steps : List Step) : (s.run steps).2.Closed := by
  induction steps generalizing s with
  | nil => exact h
  | cons first rest ih => exact ih (h.step first)

end Closed

end Session

end SmtScript
