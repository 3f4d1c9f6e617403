import SmtScript.Session
import SmtScript.Proofs.Reach

/-!
# What a step does

A step can do few things to the nodes and the stacks of a session: add new nodes, push a
command or a comment, copy a stack, let a node take a child. Every fact about runs follows from the
one statement that a step does what it answers, and changes nothing else.
-/

namespace SmtScript

/-! ## Adding nodes -/

namespace Graph

/-- Nodes were added, and the old ones are as before. -/
structure Extends (g fresh : Graph) : Prop where
  size_le : g.size ≤ fresh.size
  node_eq : ∀ id, id < g.size → fresh.node id = g.node id

theorem node_added (g : Graph) (n : Node) : (g.add n).2.node g.size = n := by
  rw [node_add, if_pos rfl]

namespace Extends

theorem refl (g : Graph) : g.Extends g :=
  ⟨Nat.le_refl _, fun _ _ => rfl⟩

theorem trans {a b c : Graph} (hab : a.Extends b) (hbc : b.Extends c) : a.Extends c := by
  refine ⟨Nat.le_trans hab.size_le hbc.size_le, fun id hid => ?_⟩
  rw [hbc.node_eq id (Nat.lt_of_lt_of_le hid hab.size_le), hab.node_eq id hid]

theorem add (g : Graph) (n : Node) : g.Extends (g.add n).2 := by
  refine ⟨by rw [size_add]; omega, fun id hid => ?_⟩
  rw [node_add, if_neg (Nat.ne_of_lt hid)]

end Extends

end Graph

namespace Draft

variable {lookup : String → Option Term}

/-! ### What a draft was built from -/

theorem build_list_ok {g grown : Graph} {items : List Draft} {t : Term}
    (h : (Draft.list items).build lookup g = some (t, grown)) :
    ∃ ts, buildAll lookup g items = some (ts, grown) ∧ t = .list ts := by
  rw [build] at h
  cases hitems : buildAll lookup g items with
  | none => rw [hitems] at h; cases h
  | some built => rw [hitems] at h; cases h; exact ⟨_, rfl, rfl⟩

theorem build_form_ok {g grown : Graph} {name : Option String} {args : List Draft} {t : Term}
    (h : (Draft.form name args).build lookup g = some (t, grown)) :
    ∃ ts g₁, buildAll lookup g args = some (ts, g₁) ∧ t = .node g₁.size ∧
      grown = (g₁.add (.form name ts)).2 := by
  rw [build] at h
  cases hargs : buildAll lookup g args with
  | none => rw [hargs] at h; cases h
  | some built => rw [hargs] at h; cases h; exact ⟨_, _, rfl, rfl, rfl⟩

theorem build_expr_ok {g grown : Graph} {content : Draft} {t : Term}
    (h : (Draft.expr content).build lookup g = some (t, grown)) :
    ∃ u g₁, content.build lookup g = some (u, g₁) ∧ t = .node g₁.size ∧
      grown = (g₁.add (.expr (some u))).2 := by
  rw [build] at h
  cases hcontent : content.build lookup g with
  | none => rw [hcontent] at h; cases h
  | some built => rw [hcontent] at h; cases h; exact ⟨_, _, rfl, rfl, rfl⟩

theorem build_ref_ok {g grown : Graph} {handle : String} {t : Term}
    (h : (Draft.ref handle).build lookup g = some (t, grown)) :
    lookup handle = some t ∧ grown = g := by
  rw [build, Option.map_eq_some_iff] at h
  obtain ⟨u, hu, heq⟩ := h
  cases heq
  exact ⟨hu, rfl⟩

theorem buildAll_cons_ok {g grown : Graph} {d : Draft} {ds : List Draft} {ts : List Term}
    (h : buildAll lookup g (d :: ds) = some (ts, grown)) :
    ∃ t us g₁, d.build lookup g = some (t, g₁) ∧ buildAll lookup g₁ ds = some (us, grown) ∧
      ts = t :: us := by
  rw [buildAll] at h
  cases hfirst : d.build lookup g with
  | none => rw [hfirst] at h; cases h
  | some first =>
      rw [hfirst] at h
      cases hrest : buildAll lookup first.2 ds with
      | none => simp only [hrest] at h; cases h
      | some rest =>
          simp only [hrest] at h
          cases h
          exact ⟨_, _, _, rfl, hrest, rfl⟩

mutual

theorem build_extends : ∀ {g grown : Graph} {d : Draft} {t : Term},
    d.build lookup g = some (t, grown) → g.Extends grown
  | g, _, .atom _, _, h => by cases h; exact .refl g
  | g, _, .sort _, _, h => by cases h; exact .refl g
  | g, _, .num _, _, h => by cases h; exact .refl g
  | g, _, .str _, _, h => by cases h; exact .refl g
  | g, _, .list items, _, h => by
      obtain ⟨ts, hitems, -⟩ := build_list_ok h
      exact buildAll_extends hitems
  | g, _, .comment _, _, h => by cases h; exact .refl g
  | g, _, .form name args, _, h => by
      obtain ⟨ts, g₁, hargs, -, rfl⟩ := build_form_ok h
      exact (buildAll_extends hargs).trans (.add g₁ _)
  | g, _, .emptyExpr, _, h => by cases h; exact .add g _
  | g, _, .expr content, _, h => by
      obtain ⟨u, g₁, hcontent, -, rfl⟩ := build_expr_ok h
      exact (build_extends hcontent).trans (.add g₁ _)
  | g, _, .ref handle, _, h => by
      obtain ⟨-, rfl⟩ := build_ref_ok h
      exact .refl _

theorem buildAll_extends : ∀ {g grown : Graph} {ds : List Draft} {ts : List Term},
    buildAll lookup g ds = some (ts, grown) → g.Extends grown
  | g, _, [], _, h => by cases h; exact .refl g
  | g, _, d :: ds, _, h => by
      obtain ⟨t, us, g₁, hfirst, hrest, -⟩ := buildAll_cons_ok h
      exact (build_extends hfirst).trans (buildAll_extends hrest)

end

end Draft

theorem Stack.issue_ok {stack grown : Stack} {g g₂ : Graph} {c : Command Term}
    (h : stack.issue g c = .ok (grown, g₂)) :
    grown = stack.push (.node g.size) ∧ g₂ = (g.add c.node).2 := by
  unfold issue at h
  split at h
  · cases h
  · cases h
    exact ⟨rfl, rfl⟩

theorem Declared.apply_extends {d : Declared} {g grown : Graph} {args : List Term} {t : Term}
    (h : d.apply g args = .ok (t, grown)) : g.Extends grown := by
  cases d with
  | const name =>
      rw [apply] at h
      split at h
      · cases h; exact .refl g
      · cases h
  | function f =>
      rw [apply, FunSymbol.apply] at h
      split at h
      · cases h; exact .add g _
      · cases h

namespace Session

theorem buildCommand_declareFun_ok {s : Session} {name : String} {params : List Draft}
    {result : Draft} {built : Command Term} {g : Graph}
    (h : s.buildCommand (.declareFun name params result) = some (built, g)) :
    ∃ ts g₁ t, s.buildAll params = some (ts, g₁) ∧ result.build s.term? g₁ = some (t, g) ∧
      built = .declareFun name ts t := by
  simp only [buildCommand, Option.bind_eq_bind, Option.bind_eq_some_iff, Option.pure_def,
    Option.some.injEq] at h
  obtain ⟨⟨ts, g₁⟩, hparams, ⟨t, g₂⟩, hresult, heq⟩ := h
  cases heq
  exact ⟨ts, g₁, t, hparams, hresult, rfl⟩

theorem buildCommand_extends {s : Session} {command : Command Draft} {built : Command Term}
    {g : Graph} (h : s.buildCommand command = some (built, g)) : s.graph.Extends g := by
  cases command with
  | checkSat | getModel | exit => cases h; exact .refl s.graph
  | setLogic d | assert d | maximize d | declareConst name d =>
      simp only [buildCommand, Option.map_eq_some_iff, Session.build] at h
      obtain ⟨⟨t, grown⟩, hd, h⟩ := h
      cases h
      exact Draft.build_extends hd
  | declareFun name params result =>
      obtain ⟨ts, g₁, t, hparams, hresult, -⟩ := buildCommand_declareFun_ok h
      exact (Draft.buildAll_extends hparams).trans (Draft.build_extends hresult)

/-! ## Stacks by name -/

theorem stack_eq_of_scripts {s next : Session} (h : next.scripts = s.scripts) (name : String) :
    next.stack name = s.stack name := by
  rw [stack, stack, h]

theorem stack_setStack (s : Session) (name other : String) (stack : Stack) :
    (s.setStack name stack).stack other = if other = name then stack else s.stack other := by
  unfold Session.stack setStack
  rw [List.lookup_cons]
  by_cases h : other = name
  · subst h; simp
  · have hne : (other == name) = false := by simpa using h
    rw [hne, if_neg h]

/-! ## The steps one by one

Each step that can fail is inverted once: it fails and changes nothing, or it is known what it
built, and what became of the nodes and the stacks. -/

@[simp] theorem graph_remember (s : Session) (name? : Option String) (h : Handle) :
    (s.remember name? h).graph = s.graph := by
  cases name? <;> rfl

@[simp] theorem scripts_remember (s : Session) (name? : Option String) (h : Handle) :
    (s.remember name? h).scripts = s.scripts := by
  cases name? <;> rfl

/-- What the declared symbol of a command is remembered as. -/
def declares : Command Term → Option Handle
  | .declareConst name _ => some (.term (.atom name))
  | .declareFun name params _ => some (.declared (.ofArity name params.length))
  | _ => none

theorem issue_cases (s : Session) (stack : String) (command : Command Draft)
    (into : Option String) :
    (∃ e, s.issue stack command into = (.error e, s)) ∨
    ∃ built g answer, s.buildCommand command = some (built, g) ∧
      s.issue stack command into = (.ok answer,
        let next := { s with graph := (g.add built.node).2 }.setStack stack
          ((s.stack stack).push (.node g.size))
        (declares built).elim next (next.remember into)) := by
  rw [issue]
  cases hbuilt : s.buildCommand command with
  | none => exact .inl ⟨_, rfl⟩
  | some pair =>
      obtain ⟨built, g⟩ := pair
      cases hissue : (s.stack stack).issue g built with
      | error e =>
          simp only [hissue]
          exact .inl ⟨_, rfl⟩
      | ok pair =>
          obtain ⟨grown, g₂⟩ := pair
          obtain ⟨rfl, rfl⟩ := Stack.issue_ok hissue
          simp only [hissue]
          refine .inr ⟨built, g, ?_⟩
          cases built <;> exact ⟨_, rfl, rfl⟩

theorem attach_cases (s : Session) (receiver : String) (child : Draft) :
    (∃ e, s.attach receiver child = (.error e, s)) ∨
    ∃ id term g g₂ answer, s.node? receiver = some id ∧ s.build child = some (term, g) ∧
      g.attach id term = .ok g₂ ∧
      s.attach receiver child = (.ok answer, { s with graph := g₂ }) := by
  rw [attach]
  cases hnode : s.node? receiver with
  | none => exact .inl ⟨_, rfl⟩
  | some id =>
      cases hbuilt : s.build child with
      | none => exact .inl ⟨_, rfl⟩
      | some pair =>
          obtain ⟨term, g⟩ := pair
          cases hattach : g.attach id term with
          | error e =>
              simp only [hattach]
              exact .inl ⟨_, rfl⟩
          | ok g₂ =>
              simp only [hattach]
              exact .inr ⟨id, term, g, g₂, _, rfl, rfl, hattach, rfl⟩

theorem annotate_cases (s : Session) (receiver text : String) (into : Option String) :
    (∃ e, s.annotate receiver text into = (.error e, s)) ∨
    ∃ id g answer, s.node? receiver = some id ∧
      s.graph.attach id (.comment ⟨text, true⟩) = .ok g ∧
      s.annotate receiver text into = (.ok answer,
        { s with graph := g }.remember into (.term (.comment ⟨text, true⟩))) := by
  rw [annotate]
  cases hnode : s.node? receiver with
  | none => exact .inl ⟨_, rfl⟩
  | some id =>
      simp only [Graph.annotate]
      cases hattach : s.graph.attach id (.comment ⟨text, true⟩) with
      | error e => exact .inl ⟨_, rfl⟩
      | ok g => exact .inr ⟨id, g, _, rfl, hattach, rfl⟩

theorem construct_cases (s : Session) (receiver : String) (c : Connective) (args : List Draft)
    (into : Option String) :
    (∃ e, s.construct receiver c args into = (.error e, s)) ∨
    ∃ id terms g g₂ answer, s.node? receiver = some id ∧ s.buildAll args = some (terms, g) ∧
      (g.add (.form (some c.name) terms)).2.attach id (.node g.size) = .ok g₂ ∧
      s.construct receiver c args into = (.ok answer,
        { s with graph := g₂ }.remember into (.term (.node g.size))) := by
  rw [construct]
  cases hnode : s.node? receiver with
  | none => exact .inl ⟨_, rfl⟩
  | some id =>
      cases hbuilt : s.buildAll args with
      | none => exact .inl ⟨_, rfl⟩
      | some pair =>
          obtain ⟨terms, g⟩ := pair
          simp only [Graph.construct, Graph.attachForm, Graph.add_fst]
          cases hattach : (g.add (.form (some c.name) terms)).2.attach id (.node g.size) with
          | error e => exact .inl ⟨_, rfl⟩
          | ok g₂ => exact .inr ⟨id, terms, g, g₂, _, rfl, rfl, hattach, rfl⟩

theorem finish_cases (s : Session) (into : Option String)
    (applied : Except BuildError (Term × Graph)) :
    (∃ e, apply.finish s into applied = (.error e, s)) ∨
    ∃ term g answer, applied = .ok (term, g) ∧
      apply.finish s into applied = (.ok answer,
        { s with graph := g }.remember into (.term term)) := by
  cases applied with
  | error e => exact .inl ⟨_, rfl⟩
  | ok pair => exact .inr ⟨pair.1, pair.2, _, rfl, rfl⟩

theorem apply_cases (s : Session) (symbol : String) (args : List Draft) (onlyFunction : Bool)
    (into : Option String) :
    (∃ e, s.apply symbol args onlyFunction into = (.error e, s)) ∨
    (∃ answer, s.apply symbol args onlyFunction into = (.ok answer, s)) ∨
    ∃ d terms g term grown answer, s.handle? symbol = some (.declared d) ∧
      s.buildAll args = some (terms, g) ∧ d.apply g terms = .ok (term, grown) ∧
      s.apply symbol args onlyFunction into = (.ok answer,
        { s with graph := grown }.remember into (.term term)) := by
  rw [apply]
  cases hhandle : s.handle? symbol with
  | none => exact .inl ⟨_, rfl⟩
  | some handle =>
      cases handle with
      | term t => exact .inl ⟨_, rfl⟩
      | declared d =>
          cases hbuilt : s.buildAll args with
          | none => exact .inl ⟨_, rfl⟩
          | some pair =>
              obtain ⟨terms, g⟩ := pair
              have hfinish := finish_cases s into (d.apply g terms)
              -- a function is applied alike, whether or not only a function may be
              cases onlyFunction <;> cases d
              case true.const => exact .inr (.inl ⟨_, rfl⟩)
              all_goals
                rcases hfinish with ⟨e, he⟩ | ⟨term, grown, answer, happly, heq⟩
                · exact .inl ⟨e, he⟩
                · exact .inr (.inr ⟨_, terms, g, term, grown, answer, rfl, rfl, happly, heq⟩)

end Session

/-! ## Events -/

/-- What a step does to the nodes and the stacks. -/
inductive Event where
  /-- Nothing, apart from new nodes. -/
  | quiet
  /-- A command became the form at a place and was pushed. -/
  | issued (stack : String) (place : NodeId) (command : Command Term)
  | noted (stack text : String)
  | copied (source target : String)
  /-- A node took a child. -/
  | attached (receiver : NodeId) (child : Term)

namespace Session

/-- What the step does if it succeeds. -/
def intent (s : Session) : Step → Event
  | .issue stack command _ =>
      match s.buildCommand command with
      | some (built, g) => .issued stack g.size built
      | none => .quiet
  | .comment stack text => .noted stack text
  | .copyStack source target => .copied source target
  | .attach receiver child =>
      match s.node? receiver, s.build child with
      | some id, some (term, _) => .attached id term
      | _, _ => .quiet
  | .annotate receiver text _ =>
      match s.node? receiver with
      | some id => .attached id (.comment ⟨text, true⟩)
      | none => .quiet
  | .construct receiver _ args _ =>
      match s.node? receiver, s.buildAll args with
      | some id, some (_, g) => .attached id (.node g.size)
      | _, _ => .quiet
  | _ => .quiet

/-- What the step does. A step that fails does nothing. -/
def event (s : Session) (step : Step) : Event :=
  match (s.step step).1 with
  | .error _ => .quiet
  | .ok _ => s.intent step

/-- After the new nodes of a step were added, the event alone changes the nodes and the stacks. -/
def Changes (s : Session) (fresh : Graph) (next : Session) : Event → Prop
  | .quiet => next.graph = fresh ∧ next.scripts = s.scripts
  | .issued stack place command =>
      place = fresh.size ∧ next.graph = (fresh.add command.node).2 ∧
        next.scripts = (s.setStack stack ((s.stack stack).push (.node place))).scripts
  | .noted stack text =>
      next.graph = fresh ∧ next.scripts = (s.setStack stack ((s.stack stack).comment text)).scripts
  | .copied source target =>
      next.graph = fresh ∧ next.scripts = (s.setStack target (s.stack source)).scripts
  | .attached receiver child =>
      fresh.attach receiver child = .ok next.graph ∧ next.scripts = s.scripts

theorem changes_of_error {s : Session} {step : Step} {e : Failure}
    (h : s.step step = (.error e, s)) :
    ∃ fresh, s.graph.Extends fresh ∧ s.Changes fresh (s.step step).2 (s.event step) := by
  refine ⟨s.graph, .refl s.graph, ?_⟩
  simp only [event, h]
  exact ⟨rfl, rfl⟩

theorem changes_of_ok {s next : Session} {step : Step} {answer : Answer} {fresh : Graph}
    (h : s.step step = (.ok answer, next)) (hextends : s.graph.Extends fresh)
    (hchanges : s.Changes fresh next (s.intent step)) :
    ∃ fresh, s.graph.Extends fresh ∧ s.Changes fresh (s.step step).2 (s.event step) := by
  refine ⟨fresh, hextends, ?_⟩
  simp only [event, h]
  exact hchanges

theorem changes_of_ask {s : Session} {step : Step} {answer : Except Failure Answer}
    (h : s.step step = (answer, s)) (hintent : s.intent step = .quiet) :
    ∃ fresh, s.graph.Extends fresh ∧ s.Changes fresh (s.step step).2 (s.event step) := by
  cases answer with
  | error e => exact changes_of_error h
  | ok answer =>
      refine changes_of_ok h (.refl s.graph) ?_
      rw [hintent]
      exact ⟨rfl, rfl⟩

/-- **A step does what its event says.** -/
theorem step_changes (s : Session) (step : Step) :
    ∃ fresh, s.graph.Extends fresh ∧ s.Changes fresh (s.step step).2 (s.event step) := by
  cases step with
  | issue stack command into =>
      rcases s.issue_cases stack command into with ⟨e, he⟩ | ⟨built, g, answer, hbuilt, hissue⟩
      · exact changes_of_error he
      · refine changes_of_ok hissue (buildCommand_extends hbuilt) ?_
        simp only [intent, hbuilt]
        cases declares built <;> cases into <;> exact ⟨rfl, rfl, rfl⟩
  | comment stack text => exact changes_of_ok rfl (.refl s.graph) ⟨rfl, rfl⟩
  | copyStack source target => exact changes_of_ok rfl (.refl s.graph) ⟨rfl, rfl⟩
  | serialize | measure | listCommands | writeTo => exact changes_of_ask rfl rfl
  | fetch stack index into =>
      cases hcommand : (s.stack stack).commands[index]? with
      | none => exact changes_of_error (by rw [Session.step, hcommand])
      | some command =>
          cases command with
          | node id =>
              refine changes_of_ok (by rw [Session.step, hcommand]) (.refl s.graph) ?_
              exact ⟨by simp, by simp⟩
          | _ => exact changes_of_error (by rw [Session.step, hcommand])
  | store term into =>
      cases hbuilt : s.build term with
      | none => exact changes_of_error (by rw [Session.step, hbuilt])
      | some pair =>
          refine changes_of_ok (by rw [Session.step, hbuilt]) (Draft.build_extends hbuilt) ?_
          exact ⟨by simp, by simp⟩
  | serializeTerm term depth mode =>
      cases hbuilt : s.build term with
      | none => exact changes_of_error (by rw [Session.step, hbuilt])
      | some pair => exact changes_of_ask (by rw [Session.step, hbuilt]; rfl) rfl
  | attach receiver child =>
      rcases s.attach_cases receiver child with
        ⟨e, he⟩ | ⟨id, term, g, grown, answer, hnode, hbuilt, hattach, heq⟩
      · exact changes_of_error he
      · refine changes_of_ok heq (Draft.build_extends hbuilt) ?_
        simp only [intent, hnode, hbuilt]
        exact ⟨hattach, rfl⟩
  | annotate receiver text into =>
      rcases s.annotate_cases receiver text into with
        ⟨e, he⟩ | ⟨id, g, answer, hnode, hattach, heq⟩
      · exact changes_of_error he
      · refine changes_of_ok heq (.refl s.graph) ?_
        simp only [intent, hnode]
        exact ⟨by simpa using hattach, by simp⟩
  | construct receiver c args into =>
      rcases s.construct_cases receiver c args into with
        ⟨e, he⟩ | ⟨id, terms, g, grown, answer, hnode, hbuilt, hattach, heq⟩
      · exact changes_of_error he
      · -- the form of the connective is a new node too, and the receiver takes it
        have hextends := Graph.Extends.add g (.form (some c.name) terms)
        refine changes_of_ok heq ((Draft.buildAll_extends hbuilt).trans hextends) ?_
        simp only [intent, hnode, hbuilt]
        exact ⟨by simpa using hattach, by simp⟩
  | describe handle =>
      cases hhandle : s.handle? handle with
      | none => exact changes_of_error (by rw [Session.step, hhandle])
      | some h => exact changes_of_ask (by rw [Session.step, hhandle]; rfl) rfl
  | sameNode first second =>
      cases hfirst : s.node? first with
      | none => exact changes_of_error (by rw [Session.step, hfirst])
      | some a =>
          cases hsecond : s.node? second with
          | none => exact changes_of_error (by rw [Session.step, hfirst, hsecond])
          | some b => exact changes_of_ask (by rw [Session.step, hfirst, hsecond]; rfl) rfl
  | isFormNamed term name =>
      cases hbuilt : s.build term with
      | none => exact changes_of_error (by rw [Session.step, hbuilt])
      | some pair => exact changes_of_ask (by rw [Session.step, hbuilt]; rfl) rfl
  | compare first second =>
      cases hfirst : s.handle? first with
      | none => exact changes_of_error (by rw [Session.step, hfirst])
      | some a =>
          cases hsecond : s.handle? second with
          | none => exact changes_of_error (by rw [Session.step, hfirst, hsecond])
          | some b => exact changes_of_ask (by rw [Session.step, hfirst, hsecond]; rfl) rfl
  | apply symbol args onlyFunction into =>
      rcases s.apply_cases symbol args onlyFunction into with
        ⟨e, he⟩ | ⟨answer, heq⟩ | ⟨d, terms, g, term, grown, answer, -, hbuilt, happly, heq⟩
      · exact changes_of_error he
      · exact changes_of_ask heq rfl
      · refine changes_of_ok heq ((Draft.buildAll_extends hbuilt).trans (d.apply_extends happly)) ?_
        exact ⟨by simp, by simp⟩

end Session

end SmtScript
