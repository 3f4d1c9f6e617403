import SmtScript.Proofs.Closed
import SmtScript.Proofs.Passes

/-!
# Without a knot every text ends

New nodes hold only what was there before, so a cycle can come about in one way alone: a node takes
a child from which the node can be reached already. As long as no step does that, no cycle comes
about, and everything has a text or an error. This includes the second pass of a form that is too
wide for its line.
-/

namespace SmtScript

open Relation (ReflTransGen TransGen)

namespace Graph

variable {g : Graph}

/-! ## Cycles -/

/-- No term is below itself. -/
def Knotless (g : Graph) : Prop :=
  ∀ t, ¬ TransGen g.IsPart t t

theorem Knotless.acyclic (h : g.Knotless) (t : Term) : g.Acyclic t :=
  fun u _ => h u

theorem knotless_empty : empty.Knotless := by
  have hpart : ∀ {t u : Term}, empty.IsPart t u → sizeOf u < sizeOf t := by
    intro t u hu
    cases t with
    | list items =>
        have : sizeOf u < sizeOf items := List.sizeOf_lt_of_mem hu
        simp only [Term.list.sizeOf_spec]
        omega
    | node id =>
        have hlt : id < empty.size := lt_size_of_mem_held hu
        exact absurd hlt (Nat.not_lt_zero id)
    | _ => cases hu
  have hbelow : ∀ {t u : Term}, TransGen empty.IsPart t u → sizeOf u < sizeOf t := by
    intro t u hu
    induction hu with
    | single hu => exact hpart hu
    | tail _ hu ih => exact Nat.lt_trans (hpart hu) ih
  exact fun t ht => Nat.lt_irrefl _ (hbelow ht)

/-- Below a term of a closed graph a new node adds nothing. -/
theorem Closed.below_of_add (hg : g.Closed) {n : Node} {t u : Term} (ht : g.Has t)
    (hu : TransGen (g.add n).2.IsPart t u) : TransGen g.IsPart t u ∧ g.Has u := by
  have hpart : ∀ {a b : Term}, g.Has a → (g.add n).2.IsPart a b → g.IsPart a b := by
    intro a b ha hb
    cases a with
    | node id =>
        have hne : id ≠ g.size := Nat.ne_of_lt (has_node.mp ha)
        simpa only [IsPart, parts, node_add, if_neg hne] using hb
    | _ => exact hb
  induction hu with
  | single hu =>
      have hold := hpart ht hu
      exact ⟨.single hold, hg.has_of_part ht hold⟩
  | tail _ hu ih =>
      have hold := hpart ih.2 hu
      exact ⟨ih.1.tail hold, hg.has_of_part ih.2 hold⟩

/-- A new node is below nothing that it holds. -/
theorem Knotless.add (h : g.Knotless) (hg : g.Closed) {n : Node} (hn : ∀ t ∈ n.held, g.Has t) :
    (g.add n).2.Knotless := by
  intro t hcycle
  -- a way down either stays in the old graph, or goes through the new node into it
  have hpart : ∀ {a b : Term}, (g.add n).2.IsPart a b → g.IsPart a b ∨ g.Has b := by
    intro a b hb
    cases a with
    | node id =>
        simp only [IsPart, parts, node_add] at hb
        split at hb
        · exact .inr (hn b hb)
        · exact .inl hb
    | _ => exact .inl hb
  have hsplit : ∀ {u : Term}, TransGen (g.add n).2.IsPart t u →
      TransGen g.IsPart t u ∨ g.Has u := by
    intro u hu
    induction hu with
    | single hu => exact (hpart hu).imp_left .single
    | tail _ hu ih =>
        rcases hpart hu with hold | hnew
        · exact ih.imp (·.tail hold) (hg.has_of_part · hold)
        · exact .inr hnew
  rcases hsplit hcycle with hold | ht
  · exact h t hold
  · exact h t (hg.below_of_add ht hcycle).1

/-- A child from which the receiver cannot be reached closes no cycle. -/
theorem Knotless.attach (h : g.Knotless) {grown : Graph} {id : NodeId} {child : Term}
    (hattach : g.attach id child = .ok grown) (hreach : ¬ g.Reaches child (.node id)) :
    grown.Knotless := by
  obtain ⟨n, hn, rfl⟩ := attach_ok hattach
  intro t hcycle
  have hpart : ∀ {a b : Term}, (g.put id n).IsPart a b →
      g.IsPart a b ∨ a = .node id ∧ b = child := by
    intro a b hb
    cases a with
    | node other =>
        simp only [IsPart, parts, node_put] at hb
        split at hb
        · next hother =>
          obtain ⟨rfl, -⟩ := hother
          rw [Node.held_attach hn, List.mem_append, List.mem_singleton] at hb
          exact hb.imp_right fun hb => ⟨rfl, hb⟩
        · exact .inl hb
    | _ => exact .inl hb
  -- a way down either is an old one, or leads to the receiver and goes on from the child
  have hsplit : ∀ {u : Term}, TransGen (g.put id n).IsPart t u →
      TransGen g.IsPart t u ∨ g.Reaches t (.node id) ∧ g.Reaches child u := by
    intro u hu
    induction hu with
    | single hu =>
        rcases hpart hu with hold | ⟨rfl, rfl⟩
        · exact .inl (.single hold)
        · exact .inr ⟨.refl, .refl⟩
    | tail _ hu ih =>
        rcases hpart hu with hold | ⟨rfl, rfl⟩
        · exact ih.imp (·.tail hold) fun hway => ⟨hway.1, hway.2.tail hold⟩
        · rcases ih with hway | ⟨-, hway⟩
          · exact .inr ⟨hway.to_reflTransGen, .refl⟩
          · exact absurd hway hreach
  rcases hsplit hcycle with hold | ⟨hup, hdown⟩
  · exact h t hold
  · exact hreach (hdown.trans hup)

/-- A constructor makes its form first, and from the form no more can be reached than from what it
holds. -/
theorem Knotless.construct (h : g.Knotless) (hg : g.Closed) {grown : Graph} {n : Node}
    {id : NodeId} (hn : ∀ t ∈ n.held, g.Has t) (hid : id < g.size)
    (hreach : ∀ t ∈ n.held, ¬ g.Reaches t (.node id))
    (hattach : (g.add n).2.attach id (.node g.size) = .ok grown) : grown.Knotless := by
  refine (h.add hg hn).attach hattach fun hway => ?_
  rcases ReflTransGen.cases_head hway with heq | ⟨t, ht, hrest⟩
  · cases heq
    exact Nat.lt_irrefl _ hid
  · have ht : t ∈ n.held := by simpa only [IsPart, parts, node_add, if_pos] using ht
    rcases Relation.reflTransGen_iff_eq_or_transGen.mp hrest with rfl | hrest
    · exact hreach _ ht .refl
    · exact hreach t ht (hg.below_of_add (hn t ht) hrest).1.to_reflTransGen

/-- Nodes that are not among those that the term leads to are not reached. -/
theorem not_reaches_of_nodes {t : Term} {id : NodeId} (S : List NodeId) (ht : ∀ a ∈ t.nodes, a ∈ S)
    (hS : ∀ a ∈ S, ∀ u ∈ (g.node a).held, ∀ b ∈ u.nodes, b ∈ S) (hid : id ∉ S) :
    ¬ g.Reaches t (.node id) := by
  have hall : ∀ {u : Term}, g.Reaches t u → ∀ a ∈ u.nodes, a ∈ S := by
    intro u hu
    induction hu with
    | refl => exact ht
    | @tail v u _ hpart ih =>
        cases v with
        | list items => exact fun a ha => ih a (Term.mem_nodes_list.mpr ⟨u, hpart, ha⟩)
        | node own => exact hS own (ih own (List.mem_singleton_self own)) u hpart
        | _ => cases hpart
  exact fun hway => hid (hall hway id (List.mem_singleton_self id))

/-- A leaf leads to nothing but itself. -/
theorem not_reaches_of_leaf {t u : Term} (ht : ∀ part, ¬ g.IsPart t part) (hne : t ≠ u) :
    ¬ g.Reaches t u := by
  intro hway
  rcases ReflTransGen.cases_head hway with heq | ⟨part, hpart, -⟩
  · exact hne heq
  · exact ht part hpart

end Graph

/-! ## Building -/

namespace Draft

variable {lookup : String → Option Term}

mutual

/-- Building adds one node after the other. -/
theorem build_knotless : ∀ {g grown : Graph} {d : Draft} {t : Term},
    d.build lookup g = some (t, grown) → g.Closed →
      (∀ name u, lookup name = some u → g.Has u) → g.Knotless → grown.Knotless
  | g, _, .atom _, _, h, _, _, hk | g, _, .sort _, _, h, _, _, hk | g, _, .num _, _, h, _, _, hk
  | g, _, .str _, _, h, _, _, hk | g, _, .comment _, _, h, _, _, hk => by
      cases h
      exact hk
  | g, _, .list items, _, h, hg, hlookup, hk => by
      obtain ⟨ts, hitems, rfl⟩ := build_list_ok h
      exact buildAll_knotless hitems hg hlookup hk
  | g, _, .form name args, _, h, hg, hlookup, hk => by
      obtain ⟨ts, g₁, hargs, rfl, rfl⟩ := build_form_ok h
      obtain ⟨hg₁, hterms⟩ := buildAll_closed hargs hg hlookup
      exact (buildAll_knotless hargs hg hlookup hk).add hg₁ hterms
  | g, _, .emptyExpr, _, h, hg, _, hk => by
      cases h
      exact hk.add hg fun _ ht => absurd ht List.not_mem_nil
  | g, _, .expr content, _, h, hg, hlookup, hk => by
      obtain ⟨u, g₁, hcontent, rfl, rfl⟩ := build_expr_ok h
      obtain ⟨hg₁, hterm⟩ := build_closed hcontent hg hlookup
      exact (build_knotless hcontent hg hlookup hk).add hg₁ (List.forall_mem_singleton.mpr hterm)
  | g, _, .ref handle, _, h, _, _, hk => by
      obtain ⟨-, rfl⟩ := build_ref_ok h
      exact hk

theorem buildAll_knotless : ∀ {g grown : Graph} {ds : List Draft} {ts : List Term},
    buildAll lookup g ds = some (ts, grown) → g.Closed →
      (∀ name u, lookup name = some u → g.Has u) → g.Knotless → grown.Knotless
  | g, _, [], _, h, _, _, hk => by
      cases h
      exact hk
  | g, _, d :: ds, _, h, hg, hlookup, hk => by
      obtain ⟨t, us, g₁, hfirst, hrest, rfl⟩ := buildAll_cons_ok h
      have hsize := (build_extends hfirst).size_le
      exact buildAll_knotless hrest (build_closed hfirst hg hlookup).1
        (fun name u hu => (hlookup name u hu).mono hsize) (build_knotless hfirst hg hlookup hk)

end

end Draft

theorem Declared.apply_knotless {d : Declared} {g grown : Graph} {args : List Term} {t : Term}
    (h : d.apply g args = .ok (t, grown)) (hg : g.Closed) (hargs : ∀ u ∈ args, g.Has u)
    (hk : g.Knotless) : grown.Knotless := by
  cases d with
  | const name =>
      rw [apply] at h
      split at h
      · cases h; exact hk
      · cases h
  | function f =>
      rw [apply, FunSymbol.apply] at h
      split at h
      · cases h; exact hk.add hg hargs
      · cases h

/-! ## Sessions -/

namespace Session

variable {s : Session}

/-- The step ties a knot: a node takes itself, or what it can be reached from already, or a new form
over that. -/
inductive Ties (s : Session) : Step → Prop
  | attach {receiver : String} {child : Draft} {id : NodeId} {t : Term} {g : Graph}
      (hnode : s.node? receiver = some id) (hbuilt : s.build child = some (t, g))
      (hok : (s.step (.attach receiver child)).1.isOk = true)
      (hreach : g.Reaches t (.node id)) : Ties s (.attach receiver child)
  | construct {receiver : String} {c : Connective} {args : List Draft} {into : Option String}
      {id : NodeId} {ts : List Term} {t : Term} {g : Graph}
      (hnode : s.node? receiver = some id) (hbuilt : s.buildAll args = some (ts, g))
      (hok : (s.step (.construct receiver c args into)).1.isOk = true) (ht : t ∈ ts)
      (hreach : g.Reaches t (.node id)) : Ties s (.construct receiver c args into)

/-- No step of the run ties a knot. -/
def Untied (s : Session) : List Step → Prop
  | [] => True
  | first :: rest => ¬ s.Ties first ∧ (s.step first).2.Untied rest

theorem Closed.buildCommand_knotless (h : s.Closed) (hk : s.graph.Knotless)
    {command : Command Draft} {built : Command Term} {g : Graph}
    (hbuilt : s.buildCommand command = some (built, g)) : g.Knotless := by
  cases command with
  | checkSat | getModel | exit =>
      cases hbuilt
      exact hk
  | setLogic d | assert d | maximize d | declareConst name d =>
      rw [Session.buildCommand, Option.map_eq_some_iff] at hbuilt
      obtain ⟨⟨t, grown⟩, hd, heq⟩ := hbuilt
      cases heq
      exact Draft.build_knotless hd h.graph (fun _ _ => h.term?) hk
  | declareFun name params result =>
      obtain ⟨ts, g₁, t, hparams, hresult, -⟩ := buildCommand_declareFun_ok hbuilt
      have hsize := (Draft.buildAll_extends hparams).size_le
      exact Draft.build_knotless hresult (h.buildAll hparams).1
        (fun _ _ hu => (h.term? hu).mono hsize)
        (Draft.buildAll_knotless hparams h.graph (fun _ _ => h.term?) hk)

/-- A step that ties no knot leaves none. -/
theorem Closed.step_knotless (h : s.Closed) (hk : s.graph.Knotless) {step : Step}
    (hties : ¬ s.Ties step) : (s.step step).2.graph.Knotless := by
  cases step with
  | issue stack command into =>
      rcases s.issue_cases stack command into with ⟨e, he⟩ | ⟨built, g, answer, hbuilt, hissue⟩
      · rw [Session.step, he]
        exact hk
      · obtain ⟨hg, hargs⟩ := h.buildCommand hbuilt
        have hadded : (g.add built.node).2.Knotless :=
          (h.buildCommand_knotless hk hbuilt).add hg hargs
        rw [Session.step, hissue]
        cases declares built with
        | none => exact hadded
        | some handle =>
            rw [Option.elim, graph_remember]
            exact hadded
  | comment | copyStack | serialize | measure | listCommands | writeTo => exact hk
  | fetch stack index into =>
      rw [Session.step]
      split
      · simpa only [graph_remember] using hk
      · exact hk
  | store term into =>
      rw [Session.step]
      cases hbuilt : s.build term with
      | none => exact hk
      | some pair =>
          rw [graph_remember]
          exact Draft.build_knotless hbuilt h.graph (fun _ _ => h.term?) hk
  | attach receiver child =>
      rcases s.attach_cases receiver child with
        ⟨e, he⟩ | ⟨id, term, g, grown, answer, hnode, hbuilt, hattach, heq⟩
      · rw [Session.step, he]
        exact hk
      · have hok : (s.step (.attach receiver child)).1.isOk = true := by
          rw [Session.step, heq]
          rfl
        have hreach : ¬ g.Reaches term (.node id) := fun hreach =>
          hties (.attach hnode hbuilt hok hreach)
        rw [Session.step, heq]
        exact (Draft.build_knotless hbuilt h.graph (fun _ _ => h.term?) hk).attach hattach hreach
  | annotate receiver text into =>
      rcases s.annotate_cases receiver text into with ⟨e, he⟩ | ⟨id, g, answer, -, hattach, heq⟩
      · rw [Session.step, he]
        exact hk
      · rw [Session.step, heq, graph_remember]
        have hne : Term.comment ⟨text, true⟩ ≠ .node id := by rintro ⟨⟩
        exact hk.attach hattach (Graph.not_reaches_of_leaf (fun _ => List.not_mem_nil) hne)
  | construct receiver c args into =>
      rcases s.construct_cases receiver c args into with
        ⟨e, he⟩ | ⟨id, terms, g, grown, answer, hnode, hbuilt, hattach, heq⟩
      · rw [Session.step, he]
        exact hk
      · have hok : (s.step (.construct receiver c args into)).1.isOk = true := by
          rw [Session.step, heq]
          rfl
        have hreach : ∀ t ∈ terms, ¬ g.Reaches t (.node id) := fun t ht hreach =>
          hties (.construct hnode hbuilt hok ht hreach)
        have hg : g.Knotless := Draft.buildAll_knotless hbuilt h.graph (fun _ _ => h.term?) hk
        obtain ⟨hclosed, hterms⟩ := h.buildAll hbuilt
        have hid : id < g.size := Nat.lt_of_lt_of_le (h.node? hnode)
          (Draft.buildAll_extends hbuilt).size_le
        rw [Session.step, heq, graph_remember]
        exact hg.construct (n := .form (some c.name) terms) hclosed hterms hid hreach hattach
  | serializeTerm | describe | sameNode | isFormNamed | compare =>
      rw [Session.step]
      split <;> exact hk
  | apply symbol args onlyFunction into =>
      rcases s.apply_cases symbol args onlyFunction into with
        ⟨e, he⟩ | ⟨answer, heq⟩ | ⟨d, terms, g, term, grown, answer, -, hbuilt, happly, heq⟩
      · rw [Session.step, he]
        exact hk
      · rw [Session.step, heq]
        exact hk
      · obtain ⟨hclosed, hterms⟩ := h.buildAll hbuilt
        rw [Session.step, heq, graph_remember]
        exact Declared.apply_knotless happly hclosed hterms
          (Draft.buildAll_knotless hbuilt h.graph (fun _ _ => h.term?) hk)

theorem Closed.run_knotless (h : s.Closed) (hk : s.graph.Knotless) {steps : List Step}
    (huntied : s.Untied steps) : (s.run steps).2.graph.Knotless := by
  induction steps generalizing s with
  | nil => exact hk
  | cons first rest ih => exact ih (h.step first) (h.step_knotless hk huntied.1) huntied.2

/-- The run up to any moment ties no knot either. -/
theorem Untied.of_append {first rest : List Step} (h : s.Untied (first ++ rest)) :
    s.Untied first := by
  induction first generalizing s with
  | nil => trivial
  | cons step first ih => exact ⟨h.1, ih h.2⟩

/-- **Without a knot every text ends.** In a run where no node takes, as a child or as an argument
of its constructor, what the node can be reached from already, there is no cycle at any moment, also
not in the nodes of a draft that is built at that moment. So whatever a handle holds, and all that
is built on it, has a text or an error, at every depth and in every mode, and all passes of the
writing end with it. The same holds of every stack. -/
theorem untied_run_writes {first rest : List Step} {s : Session}
    (huntied : empty.Untied (first ++ rest)) (hmoment : (empty.run first).2 = s) :
    s.graph.Knotless ∧
      (∀ d t g, s.build d = some (t, g) → g.Knotless ∧ ∀ depth mode, ∃ result,
        g.Writes t depth mode result ∧
          g.serialize t depth mode = (result.map String.ofList).mapError .failed) ∧
      ∀ name, ∃ result : Except SerializeError String,
        (s.stack name).serialize s.graph = result.mapError .failed := by
  have hclosed : s.Closed := hmoment ▸ closed_empty.run first
  have hk : s.graph.Knotless :=
    hmoment ▸ closed_empty.run_knotless Graph.knotless_empty huntied.of_append
  refine ⟨hk, fun d t g hbuilt => ?_, fun name => ?_⟩
  · have hg : g.Knotless := Draft.build_knotless hbuilt hclosed.graph (fun _ _ => hclosed.term?) hk
    exact ⟨hg, (hg.acyclic t).writes⟩
  · exact Stack.exists_serialize fun t _ => hk.acyclic t

/-- A conjunction is shared by two places of a disjunction, an expression takes the disjunction and
is asserted, and then the conjunction grows. -/
def sharing : List Step :=
  [.store (.form (some "and") [.atom "p"]) (some "and"),
    .store (.form (some "or") [.ref "and", .ref "and"]) (some "or"),
    .store .emptyExpr (some "slot"),
    .attach "slot" (.list [.ref "or", .ref "and"]),
    .issue "main" (.assert (.ref "slot")) none,
    .construct "and" .not [.atom "q"] (some "not")]

theorem untied_sharing : empty.Untied sharing ∧ (empty.run sharing).2.graph.Knotless ∧
    ∃ result, Graph.Writes (empty.run sharing).2.graph (.node 1) 0 .auto result ∧
      Graph.serialize (empty.run sharing).2.graph (.node 1) 0 .auto
        = (result.map String.ofList).mapError .failed := by
  have huntied : empty.Untied sharing := by
    refine ⟨nofun, nofun, nofun, ?_, nofun, ?_, trivial⟩
    · intro hties
      cases hties with
      | attach hnode hbuilt hok hreach =>
          cases hnode
          cases hbuilt
          exact Graph.not_reaches_of_nodes [0, 1] (by decide) (by decide) (by decide) hreach
    · intro hties
      cases hties with
      | construct hnode hbuilt hok ht hreach =>
          cases hnode
          cases hbuilt
          rw [List.mem_singleton.mp ht] at hreach
          exact Graph.not_reaches_of_nodes [] (by decide) (by decide) (by decide) hreach
  have hwhole : empty.Untied (sharing ++ []) := huntied
  obtain ⟨hk, hterms, -⟩ := untied_run_writes hwhole rfl
  obtain ⟨-, hwrites⟩ := hterms (.ref "or") _ _ rfl
  exact ⟨huntied, hk, hwrites 0 .auto⟩

end Session

end SmtScript
