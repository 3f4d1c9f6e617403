import SmtScript.Proofs.Growth
import SmtScript.Proofs.Plans

/-!
# Fluent building

A tree can be built from its leaves up, or from the root down: a constructor hangs a form from a
node that is there already, and hands the form out, so that it takes its other children later. In
the meantime other nodes grow, and the root is asserted. What is written in the end is the same.
-/

namespace SmtScript

namespace Session

variable {s : Session}

/-! ## What a constructor hands out -/

theorem handle?_remember (s : Session) (name : String) (h : Handle) :
    (s.remember (some name) h).handle? name = some h := by
  rw [remember, handle?, List.lookup_cons, beq_self_eq_true]

/-- The form that a constructor hands out is a new node, and the receiver holds it last. -/
theorem Closed.construct_last (h : s.Closed) {receiver : String} {c : Connective}
    {args : List Draft} {into : Option String} {answer : Answer} {next : Session}
    (hstep : s.step (.construct receiver c args into) = (.ok answer, next)) :
    ∃ id form terms g, s.node? receiver = some id ∧ s.buildAll args = some (terms, g) ∧
      s.graph.size ≤ form ∧ next.graph.node form = .form (some c.name) terms ∧
      (next.graph.node id).held = (s.graph.node id).held ++ [.node form] ∧
      ∀ name, into = some name → next.handle? name = some (.term (.node form)) := by
  rcases s.construct_cases receiver c args into with
    ⟨e, he⟩ | ⟨id, terms, g, grown, own, hnode, hbuilt, hattach, heq⟩
  · rw [Session.step, he] at hstep
    cases hstep
  · rw [Session.step, heq] at hstep
    cases hstep
    have hextends := Draft.buildAll_extends hbuilt
    have hid : id < g.size := Nat.lt_of_lt_of_le (h.node? hnode) hextends.size_le
    refine ⟨id, g.size, terms, g, hnode, hbuilt, hextends.size_le, ?_, ?_, ?_⟩
    · rw [graph_remember]
      exact (Graph.node_attach hattach (Nat.ne_of_gt hid)).trans (Graph.node_added g _)
    · have hadd := (Graph.Extends.add g (.form (some c.name) terms)).size_le
      have hparts := Graph.parts_attach hattach (Nat.lt_of_lt_of_le hid hadd)
      rw [graph_remember]
      rw [Graph.parts, Graph.parts, Graph.node_add, if_neg (Nat.ne_of_lt hid),
        hextends.node_eq id (h.node? hnode)] at hparts
      exact hparts
    · rintro name rfl
      exact handle?_remember _ name _

/-! ## Building from the root down -/

/-- The step makes the root: an expression, or a form that has its first children. -/
inductive Begins (s : Session) : Step → NodeId → Plan → Tree → Prop
  | expression (into : Option String) (tree : Tree) :
      Begins s (.store .emptyExpr into) s.graph.size
        (Function.update Plan.done s.graph.size [tree]) (.expr tree)
  | form {name : String} {args : List Draft} {into : Option String} {terms : List Term} {g : Graph}
      {given : List Tree} (hbuilt : s.buildAll args = some (terms, g))
      (hgiven : List.Forall₂ (g.Becomes .done) terms given) (later : List Tree) :
      Begins s (.store (.form (some name) args) into) g.size
        (Function.update Plan.done g.size later) (.form name (given ++ later))
  /-- The form may hang from a node itself, such as a stub, but from none that it leads to. -/
  | construct {receiver : String} {c : Connective} {args : List Draft} {into : Option String}
      {id : NodeId} {terms : List Term} {g : Graph} {given : List Tree}
      (hok : (s.step (.construct receiver c args into)).1.isOk = true)
      (hnode : s.node? receiver = some id) (hbuilt : s.buildAll args = some (terms, g))
      (hapart : ∀ t ∈ terms, ¬ g.Reaches t (.node id))
      (hgiven : List.Forall₂ (g.Becomes .done) terms given) (later : List Tree) :
      Begins s (.construct receiver c args into) g.size
        (Function.update Plan.done g.size later) (.form c.name (given ++ later))

/-- The step does what is planned next for some node, or it has nothing to do with the root. -/
inductive Moves (s : Session) (root : NodeId) (plan : Plan) : Step → Plan → Prop
  /-- The child may be under construction itself. -/
  | attach {receiver : String} {child : Draft} {id : NodeId} {tree : Tree} {rest : List Tree}
      {t : Term} {g : Graph} (hnode : s.node? receiver = some id) (hplan : plan id = tree :: rest)
      (hbuilt : s.build child = some (t, g)) (htree : g.Becomes plan t tree) :
      Moves s root plan (.attach receiver child) (Function.update plan id rest)
  | annotate {receiver text : String} {into : Option String} {id : NodeId} {rest : List Tree}
      (hnode : s.node? receiver = some id) (hplan : plan id = .comment ⟨text, true⟩ :: rest) :
      Moves s root plan (.annotate receiver text into) (Function.update plan id rest)
  /-- The new form has its first children, and the others are planned. -/
  | construct {receiver : String} {c : Connective} {args : List Draft} {into : Option String}
      {id : NodeId} {given later rest : List Tree} {terms : List Term} {g : Graph}
      (hnode : s.node? receiver = some id)
      (hplan : plan id = .form c.name (given ++ later) :: rest)
      (hbuilt : s.buildAll args = some (terms, g))
      (hgiven : List.Forall₂ (g.Becomes plan) terms given) :
      Moves s root plan (.construct receiver c args into)
        (Function.update (Function.update plan g.size later) id rest)
  | aside {step : Step} (h : ∀ id child, s.event step = .attached id child →
        ¬ s.graph.Reaches (.node root) (.node id)) : Moves s root plan step plan

/-- The steps do all that is planned, in any order that keeps to the plan of each node. -/
def Carries (s : Session) (root : NodeId) (plan : Plan) : List Step → Prop
  | [] => ∀ id, plan id = []
  | first :: rest => ∃ next, s.Moves root plan first next ∧ (s.step first).2.Carries root next rest

variable {root : NodeId} {plan next : Plan} {tree : Tree} {step : Step}

theorem Begins.building (hclosed : s.Closed) (h : s.Begins step root plan tree) :
    (s.step step).2.graph.Building root plan tree := by
  cases h with
  | expression into tree =>
      simp only [Session.step, Session.build, Draft.build, Graph.add_fst, graph_remember]
      exact .of_root (.slot (Graph.node_added s.graph _) (Function.update_self ..))
  | @form name args into terms g given hbuilt hgiven later =>
      have hkids := hgiven.imp fun _ _ hchild => hchild.of_extends
        (.add g (.form (some name) terms)) fun a ha =>
          Function.update_of_ne (Nat.ne_of_lt ha) later Plan.done
      rw [Session.buildAll] at hbuilt
      simp only [Session.step, Session.build, Draft.build, hbuilt, Graph.add_fst, graph_remember]
      exact .of_root (Graph.becomes_form (Graph.node_added g _) hkids (Function.update_self ..))
  | @construct receiver c args into id terms g given hok hnode hbuilt hapart hgiven later =>
      rcases s.construct_cases receiver c args into with
        ⟨e, he⟩ | ⟨own, ts, fresh, grown, answer, hnode', hbuilt', hattach, heq⟩
      · rw [Session.step, he] at hok
        cases hok
      · cases hnode.symm.trans hnode'
        cases hbuilt.symm.trans hbuilt'
        have hid : id < g.size :=
          Nat.lt_of_lt_of_le (hclosed.node? hnode) (Draft.buildAll_extends hbuilt).size_le
        -- the receiver is none of the new form's parts, so it does not matter that it grew
        have hkids := forall₂_imp_of_mem hgiven fun t ht _ _ hchild => hchild.of_elsewhere
          (.add g (.form (some c.name) terms)) hattach (hapart t ht) fun a ha =>
            Function.update_of_ne (Nat.ne_of_lt ha) later Plan.done
        have hform : grown.node g.size = .form (some c.name) terms :=
          (Graph.node_attach hattach (Nat.ne_of_gt hid)).trans (Graph.node_added g _)
        rw [Session.step, heq]
        simp only [graph_remember]
        exact .of_root (Graph.becomes_form hform hkids (Function.update_self ..))

/-- Whatever is done next, the root becomes the same tree. -/
theorem Moves.building (h : s.graph.Building root plan tree) (hmove : s.Moves root plan step next) :
    (s.step step).2.graph.Building root next tree := by
  cases hmove with
  | attach hnode hplan hbuilt htree =>
      obtain ⟨grown, hattach, hgrown⟩ := h.of_attach (Draft.build_extends hbuilt) hplan htree
      simp only [Session.step, Session.attach, hnode, hbuilt, hattach]
      exact hgrown
  | annotate hnode hplan =>
      obtain ⟨grown, hattach, hgrown⟩ := h.of_attach (.refl s.graph) hplan (.comment _)
      simp only [Session.step, Session.annotate, hnode, Graph.annotate, hattach, Except.map,
        graph_remember]
      exact hgrown
  | construct hnode hplan hbuilt hgiven =>
      obtain ⟨grown, hattach, hgrown⟩ :=
        h.of_construct (Draft.buildAll_extends hbuilt) hplan hgiven
      simp only [Session.step, Session.construct, hnode, hbuilt, Graph.construct, Graph.attachForm,
        Graph.add_fst, hattach, Except.map, graph_remember]
      exact hgrown
  | aside hapart =>
      obtain ⟨fresh, hextends, hgraph | ⟨receiver, child, hevent, hattach⟩⟩ := s.step_graph step
      · rw [hgraph]
        exact h.of_extends hextends
      · exact h.of_elsewhere hextends hattach (hapart receiver child hevent)

/-- When all that was planned is done, the root is the tree. -/
theorem Carries.becomes {steps : List Step} (h : s.graph.Building root plan tree)
    (hcarries : s.Carries root plan steps) :
    (s.run steps).2.graph.Becomes .done (.node root) tree := by
  induction steps generalizing s plan with
  | nil =>
      have hdone : plan = Plan.done := funext hcarries
      rw [← hdone]
      exact h.becomes
  | cons first rest ih =>
      obtain ⟨next, hmove, hrest⟩ := hcarries
      exact ih (hmove.building h) hrest

/-- **Fluent building equals direct building.** In every session that can be reached, the form that
a constructor hands out is the very node that the receiver holds last. And whatever tree is built
from the root down, with any first children of each node, in any order of the steps of different
nodes and with anything else in between, the root has in the end the same text as the tree that is
built from its leaves up, at every depth and in every mode. -/
theorem fluent_eq_direct {before : List Step} (hbefore : (empty.run before).2 = s) :
    (∀ receiver c args into answer next,
      s.step (.construct receiver c args into) = (.ok answer, next) →
      ∃ id form terms g, s.node? receiver = some id ∧ s.buildAll args = some (terms, g) ∧
        s.graph.size ≤ form ∧ next.graph.node form = .form (some c.name) terms ∧
        (next.graph.node id).held = (s.graph.node id).held ++ [.node form] ∧
        ∀ name, into = some name → next.handle? name = some (.term (.node form))) ∧
    ∀ first root plan tree rest, s.Begins first root plan tree →
      (s.step first).2.Carries root plan rest → ∀ other : Session,
      ∃ t g, other.build tree.draft = some (t, g) ∧ ∀ depth mode, ∃ text,
        (s.run (first :: rest)).2.graph.serialize (.node root) depth mode = .ok text ∧
          g.serialize t depth mode = .ok text := by
  have hclosed : s.Closed := hbefore ▸ closed_empty.run before
  refine ⟨fun receiver c args into answer next => hclosed.construct_last, ?_⟩
  intro first root plan tree rest hbegins hcarries other
  have hbecomes := hcarries.becomes (hbegins.building hclosed)
  obtain ⟨t, g, hbuilt, hdirect⟩ :
      ∃ t g, other.build tree.draft = some (t, g) ∧ g.Becomes .done t tree :=
    hbecomes.complete.exists_build other.graph
  refine ⟨t, g, hbuilt, fun depth mode => ?_⟩
  obtain ⟨text, htext⟩ := (tree.exists_render_iff depth mode).mpr hbecomes.complete
  have hserialize : tree.serialize depth mode = .ok (String.ofList text) := by
    rw [Tree.serialize, htext]
    rfl
  have hfluent := hbecomes.unfolds.serialize depth mode
  have hdirect := hdirect.unfolds.serialize depth mode
  rw [hserialize] at hfluent hdirect
  exact ⟨_, hfluent, hdirect⟩

/-- A constant is declared, and there is a stub to hang forms from. -/
def openGoal : Session :=
  (empty.run [.issue "main" (.declareConst "x" (.sort .int)) (some "x"),
    .store (.form none []) (some "free")]).2

/-- An expression is asserted before it holds anything. Its disjunction, the conjunction in that and
the negation in that are open at the same time. -/
def fillGoal : List Step :=
  [.issue "main" (.assert (.ref "goal")) none,
    .construct "goal" .or [.atom "p"] (some "or"),
    .construct "or" .and [] (some "and"),
    .construct "and" .not [] (some "not"),
    .construct "or" .equals [.ref "x", .list [.atom "f", .str "y"]] none,
    .issue "main" .checkSat none,
    .construct "not" (.fn "<") [.atom "y"] (some "less"),
    .attach "and" (.atom "q"),
    .attach "less" (.ref "x")]

def less : Tree :=
  .form "<" [.atom "y", .atom "x"]

def conjunction : Tree :=
  .form "and" [.form "not" [less], .atom "q"]

def equality : Tree :=
  .form "=" [.atom "x", .list [.atom "f", .str "y"]]

def disjunction : Tree :=
  .form "or" [.atom "p", conjunction, equality]

theorem carries_fillGoal :
    (openGoal.step (.store .emptyExpr (some "goal"))).2.Carries 2
      (Function.update Plan.done 2 [disjunction]) fillGoal := by
  refine ⟨_, .aside nofun, ?_⟩
  refine ⟨_, @Moves.construct _ _ _ _ _ _ _ _ [.atom "p"] [conjunction, equality] [] _ _ rfl rfl
    rfl (.cons (.atom _) .nil), ?_⟩
  refine ⟨_, @Moves.construct _ _ _ _ _ _ _ _ [] [.form "not" [less], .atom "q"] [equality] _ _
    rfl rfl rfl .nil, ?_⟩
  refine ⟨_, @Moves.construct _ _ _ _ _ _ _ _ [] [less] [.atom "q"] _ _ rfl rfl rfl .nil, ?_⟩
  refine ⟨_, @Moves.construct _ _ _ _ _ _ _ _ [.atom "x", .list [.atom "f", .str "y"]] [] [] _ _
    rfl rfl rfl (.cons (.atom _) (.cons (.list (.cons (.atom _) (.cons (.str _) .nil))) .nil)), ?_⟩
  refine ⟨_, .aside nofun, ?_⟩
  refine ⟨_, @Moves.construct _ _ _ _ _ _ _ _ [.atom "y"] [.atom "x"] [] _ _ rfl rfl rfl
    (.cons (.atom _) .nil), ?_⟩
  refine ⟨_, .attach rfl rfl rfl (.atom _), ?_⟩
  refine ⟨_, .attach rfl rfl rfl (.atom _), ?_⟩
  intro id
  match id with
  | 0 | 1 | 2 | 3 | 4 | 5 | 6 | 7 | 8 | 9 => rfl
  | _ + 10 => rfl

theorem fluent_goal :
    (∃ form,
      (openGoal.step (.construct "free" .gt [.ref "x"] (some "gt"))).2.handle? "gt" =
          some (.term (.node form)) ∧
        ((openGoal.step (.construct "free" .gt [.ref "x"] (some "gt"))).2.graph.node 1).held =
          [.node form]) ∧
    ∃ t g, empty.build (Tree.expr disjunction).draft = some (t, g) ∧ ∀ depth mode, ∃ text,
      Graph.serialize (openGoal.run (.store .emptyExpr (some "goal") :: fillGoal)).2.graph (.node 2)
          depth mode = .ok text ∧
        g.serialize t depth mode = .ok text := by
  obtain ⟨hlast, htree⟩ := fluent_eq_direct (s := openGoal) rfl
  refine ⟨?_, htree _ _ _ _ _ (.expression _ disjunction) carries_fillGoal empty⟩
  obtain ⟨id, form, terms, g, hnode, -, -, -, hheld, hinto⟩ :=
    hlast "free" .gt [.ref "x"] (some "gt") _ _ rfl
  cases hnode
  exact ⟨form, hinto "gt" rfl, hheld⟩

example : Graph.serialize (openGoal.run (.store .emptyExpr (some "goal") :: fillGoal)).2.graph
    (.node 2) 0 .auto = .ok "(or p (and (not (< y x)) q) (= x (f \"y\")))" := by rfl

end Session

end SmtScript
