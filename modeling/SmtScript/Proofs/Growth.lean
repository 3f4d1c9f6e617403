import SmtScript.Proofs.Logic

/-!
# Everything only grows

Handles and stacks can be copied, and then many of them lead to one node or to the same commands. So
it has to be said of the nodes and commands themselves, whoever reaches them, that a form keeps its
name and its children, that an expression keeps what it took first, and that a stack keeps its
commands. What is added is known too: the children that were offered, and one command for each push.
-/

namespace SmtScript

/-! ## Offers -/

namespace Session

/-- The child that a step offers to a node. The node may refuse it. -/
def offer? (s : Session) (id : NodeId) (step : Step) : Option Term :=
  match s.intent step with
  | .attached receiver child => if receiver = id then some child else none
  | _ => none

/-- The children that a run offers to a node, whatever handle leads there, with the answers. -/
def offers (s : Session) (id : NodeId) : List Step → List (Term × Except Failure Answer)
  | [] => []
  | first :: rest =>
      ((s.offer? id first).map (·, (s.step first).1)).toList ++ (s.step first).2.offers id rest

end Session

/-- What becomes of a node that is offered a child, and what is answered. -/
inductive Node.Takes (child : Term) : Node → Except Failure Answer → Node → Prop
  | form (name : Option String) (children : List Term) (answer : Answer) :
      Takes child (.form name children) (.ok answer) (.form name (children ++ [child]))
  | empty (answer : Answer) : Takes child (.expr none) (.ok answer) (.expr (some child))
  | filled (content : Term) :
      Takes child (.expr (some content)) (.error (.build .overfullExpression))
        (.expr (some content))

/-- What becomes of a node that is offered children one after the other, and what is answered. -/
inductive Node.TakesAll : Node → List (Term × Except Failure Answer) → Node → Prop
  | nil (n : Node) : TakesAll n [] n
  | cons {n next last : Node} {child : Term} {answer : Except Failure Answer}
      {offers : List (Term × Except Failure Answer)} (first : n.Takes child answer next)
      (rest : TakesAll next offers last) : TakesAll n ((child, answer) :: offers) last

namespace Node.TakesAll

variable {last : Node} {offers : List (Term × Except Failure Answer)}

/-- A form takes all that it is offered, behind what it has. -/
theorem form {name : Option String} {children : List Term}
    (h : TakesAll (.form name children) offers last) :
    last = .form name (children ++ offers.map Prod.fst) ∧
      ∀ offer ∈ offers, offer.2.isOk = true := by
  induction offers generalizing children with
  | nil =>
      cases h
      exact ⟨by rw [List.map_nil, List.append_nil], fun _ h => absurd h List.not_mem_nil⟩
  | cons offer offers ih =>
      cases h with
      | cons first rest =>
          cases first with
          | form name children answer =>
              obtain ⟨hlast, hall⟩ := ih rest
              rw [List.map_cons, List.forall_mem_cons]
              exact ⟨by rw [hlast, List.append_assoc]; rfl, rfl, hall⟩

/-- What an expression has taken stays in it, and no further offer is taken. -/
theorem filled {content : Term} (h : TakesAll (.expr (some content)) offers last) :
    last = .expr (some content) ∧
      ∀ offer ∈ offers, offer.2 = .error (.build .overfullExpression) := by
  induction offers with
  | nil =>
      cases h
      exact ⟨rfl, fun _ h => absurd h List.not_mem_nil⟩
  | cons offer offers ih =>
      cases h with
      | cons first rest =>
          cases first with
          | filled content =>
              obtain ⟨hlast, hall⟩ := ih rest
              exact ⟨hlast, List.forall_mem_cons.mpr ⟨rfl, hall⟩⟩

/-- An empty expression takes the first offer. -/
theorem empty (h : TakesAll (.expr none) offers last) :
    last = .expr (offers.head?.map Prod.fst) ∧
      ∀ first rest, offers = first :: rest → first.2.isOk = true ∧
        ∀ offer ∈ rest, offer.2 = .error (.build .overfullExpression) := by
  cases h with
  | nil => exact ⟨rfl, fun _ _ h => by cases h⟩
  | cons first rest =>
      cases first with
      | empty answer =>
          obtain ⟨hlast, hall⟩ := rest.filled
          refine ⟨hlast, fun first rest h => ?_⟩
          cases h
          exact ⟨rfl, hall⟩

end Node.TakesAll

/-- A node that has grown has taken the child, and one that has not is filled. -/
theorem Node.takes_of_attach {n : Node} {child : Term} :
    (∀ grown answer, n.attach child = .ok grown → n.Takes child (.ok answer) grown) ∧
      ∀ e, n.attach child = .error e → n.Takes child (.error (.build e)) n := by
  cases n with
  | form name children =>
      refine ⟨fun grown answer h => ?_, fun e h => by cases h⟩
      cases h
      exact .form name children answer
  | expr content =>
      cases content with
      | none =>
          refine ⟨fun grown answer h => ?_, fun e h => by cases h⟩
          cases h
          exact .empty answer
      | some content =>
          refine ⟨fun grown answer h => (by cases h), fun e h => ?_⟩
          cases h
          exact .filled content

namespace Session

variable {s : Session} {step : Step} {id : NodeId}

/-- An offer is what a step means to attach. -/
theorem offer?_eq_some_iff {child : Term} :
    s.offer? id step = some child ↔ s.intent step = .attached id child := by
  unfold offer?
  cases s.intent step with
  | attached receiver own =>
      by_cases h : receiver = id <;> simp [h]
  | _ => simp

/-- After its new nodes were added, such a step succeeds if and only if the receiver takes the
child. -/
theorem step_of_offer {child : Term} (h : s.offer? id step = some child) :
    ∃ fresh, s.graph.Extends fresh ∧
      ((∃ e, fresh.attach id child = .error e ∧ s.step step = (.error (.build e), s)) ∨
        ∃ answer next, fresh.attach id child = .ok next.graph ∧
          s.step step = (.ok answer, next)) := by
  rw [offer?_eq_some_iff] at h
  cases step with
  | attach receiver draft =>
      simp only [intent] at h
      split at h
      · next own term g hnode hbuilt =>
        cases h
        refine ⟨g, Draft.build_extends hbuilt, ?_⟩
        simp only [Session.step, attach, hnode, hbuilt]
        cases hattach : g.attach id child with
        | error e => exact .inl ⟨e, rfl, rfl⟩
        | ok grown => exact .inr ⟨_, _, rfl, rfl⟩
      · cases h
  | annotate receiver text into =>
      simp only [intent] at h
      split at h
      · next own hnode =>
        cases h
        refine ⟨s.graph, .refl s.graph, ?_⟩
        simp only [Session.step, annotate, hnode, Graph.annotate]
        cases hattach : s.graph.attach id (.comment ⟨text, true⟩) with
        | error e => exact .inl ⟨e, rfl, rfl⟩
        | ok grown => exact .inr ⟨_, _, by rw [graph_remember], rfl⟩
      · cases h
  | construct receiver c args into =>
      simp only [intent] at h
      split at h
      · next own terms g hnode hbuilt =>
        cases h
        -- the new form is there before the receiver takes it or refuses it
        refine ⟨(g.add (.form (some c.name) terms)).2,
          (Draft.buildAll_extends hbuilt).trans (.add g _), ?_⟩
        simp only [Session.step, construct, hnode, hbuilt, Graph.construct, Graph.attachForm,
          Graph.add_fst]
        cases hattach : (g.add (.form (some c.name) terms)).2.attach id (.node g.size) with
        | error e => exact .inl ⟨e, rfl, rfl⟩
        | ok grown => exact .inr ⟨_, _, by rw [graph_remember], rfl⟩
      · cases h
  | issue stack command into =>
      simp only [intent] at h
      split at h <;> cases h
  | _ => cases h

theorem takes_of_offer (hid : id < s.graph.size) {child : Term}
    (h : s.offer? id step = some child) :
    (s.graph.node id).Takes child (s.step step).1 ((s.step step).2.graph.node id) := by
  obtain ⟨fresh, hextends, hcases⟩ := step_of_offer h
  have hfresh : id < fresh.size := Nat.lt_of_lt_of_le hid hextends.size_le
  rw [← hextends.node_eq id hid]
  rcases hcases with ⟨e, hattach, hstep⟩ | ⟨answer, next, hattach, hstep⟩
  · have hrefused : (fresh.node id).attach child = .error e := by
      unfold Graph.attach at hattach
      cases hn : (fresh.node id).attach child with
      | error own => rw [hn] at hattach; cases hattach; rfl
      | ok grown => rw [hn] at hattach; cases hattach
    rw [hstep, ← hextends.node_eq id hid]
    exact Node.takes_of_attach.2 e hrefused
  · obtain ⟨grown, hgrown, hgraph⟩ := Graph.attach_ok hattach
    rw [hstep, hgraph, Graph.node_put, if_pos ⟨rfl, hfresh⟩]
    exact Node.takes_of_attach.1 grown answer hgrown

theorem offer?_of_event {child : Term} (h : s.event step = .attached id child) :
    s.offer? id step = some child := by
  rw [offer?_eq_some_iff]
  unfold event at h
  split at h
  · cases h
  · exact h

/-- The graph part of a step: new nodes, and then perhaps a node that takes a child. -/
theorem step_graph (s : Session) (step : Step) :
    ∃ fresh, s.graph.Extends fresh ∧ ((s.step step).2.graph = fresh ∨
      ∃ receiver child, s.event step = .attached receiver child ∧
        fresh.attach receiver child = .ok (s.step step).2.graph) := by
  obtain ⟨fresh, hextends, hchanges⟩ := s.step_changes step
  cases hevent : s.event step with
  | quiet => rw [hevent] at hchanges; exact ⟨fresh, hextends, .inl hchanges.1⟩
  | noted stack text => rw [hevent] at hchanges; exact ⟨fresh, hextends, .inl hchanges.1⟩
  | copied source target => rw [hevent] at hchanges; exact ⟨fresh, hextends, .inl hchanges.1⟩
  | issued stack place command =>
      rw [hevent] at hchanges
      exact ⟨_, hextends.trans (.add fresh _), .inl hchanges.2.1⟩
  | attached receiver child =>
      rw [hevent] at hchanges
      exact ⟨fresh, hextends, .inr ⟨receiver, child, rfl, hchanges.1⟩⟩

theorem size_le_step (s : Session) (step : Step) :
    s.graph.size ≤ (s.step step).2.graph.size := by
  obtain ⟨fresh, hextends, hgraph | ⟨receiver, child, -, hattach⟩⟩ := s.step_graph step
  · rw [hgraph]
    exact hextends.size_le
  · rw [Graph.size_attach hattach]
    exact hextends.size_le

/-- A step that offers a node nothing leaves it as it is. -/
theorem node_of_no_offer (hid : id < s.graph.size) (h : s.offer? id step = none) :
    (s.step step).2.graph.node id = s.graph.node id := by
  obtain ⟨fresh, hextends, hgraph | ⟨receiver, child, hevent, hattach⟩⟩ := s.step_graph step
  · rw [hgraph, hextends.node_eq id hid]
  · have hother : id ≠ receiver := by
      rintro rfl
      rw [offer?_of_event hevent] at h
      cases h
    rw [Graph.node_attach hattach hother, hextends.node_eq id hid]

/-! ## Nodes in a run -/

theorem offers_cons_of_some {child : Term} (h : s.offer? id step = some child) (rest : List Step) :
    s.offers id (step :: rest) =
      (child, (s.step step).1) :: (s.step step).2.offers id rest := by
  rw [offers, h]
  rfl

theorem offers_cons_of_none (h : s.offer? id step = none) (rest : List Step) :
    s.offers id (step :: rest) = (s.step step).2.offers id rest := by
  rw [offers, h]
  rfl

/-- A node takes or refuses what it is offered, one after the other. -/
theorem takesAll_offers (hid : id < s.graph.size) (steps : List Step) :
    (s.graph.node id).TakesAll (s.offers id steps) ((s.run steps).2.graph.node id) := by
  induction steps generalizing s with
  | nil => exact .nil _
  | cons first rest ih =>
      have hrest := ih (Nat.lt_of_lt_of_le hid (s.size_le_step first))
      cases hoffer : s.offer? id first with
      | none =>
          rw [offers_cons_of_none hoffer, ← node_of_no_offer hid hoffer]
          exact hrest
      | some child =>
          rw [offers_cons_of_some hoffer]
          exact .cons (takes_of_offer hid hoffer) hrest

/-! ## Stacks in a run -/

end Session

/-- The stack that a stack goes back to, before the step. A copy goes back to its source. -/
def Step.ancestor : Step → String → String
  | .copyStack source target, name => if name = target then source else name
  | _, name => name

/-- How many commands were pushed on each stack, after the step. A copy takes this over too. -/
def Step.pushes (count : String → Nat) (answer : Except Failure Answer) : Step → String → Nat
  | .issue stack _ _, name =>
      match answer with
      | .ok _ => if name = stack then count name + 1 else count name
      | .error _ => count name
  | .comment stack _, name => if name = stack then count name + 1 else count name
  | .copyStack source target, name => if name = target then count source else count name
  | _, name => count name

namespace Session

/-- The stack that a stack goes back to, before the run. -/
def ancestor : List Step → String → String
  | [], name => name
  | first :: rest, name => first.ancestor (ancestor rest name)

def pushesFrom (s : Session) (count : String → Nat) : List Step → String → Nat
  | [] => count
  | first :: rest => (s.step first).2.pushesFrom (first.pushes count (s.step first).1) rest

/-- How many commands a run pushed on each stack, or on those that it is a copy of. -/
def pushes (steps : List Step) : String → Nat :=
  empty.pushesFrom (fun _ => 0) steps

variable {s : Session}

/-- A stack that a command may have been pushed on. -/
theorem pushed_stack {stack name : String} {t : Term} {next : Stack}
    (h : next = if name = stack then (s.stack stack).push t else s.stack name) :
    (s.stack name).commands <+: next.commands ∧
      ∀ count : String → Nat, (∀ other, (s.stack other).size = count other) →
        next.size = if name = stack then count name + 1 else count name := by
  subst h
  by_cases hname : name = stack
  · subst hname
    simp only [if_true]
    refine ⟨List.prefix_append _ _, fun count hcount => ?_⟩
    rw [← hcount name]
    exact List.length_append
  · simp only [if_neg hname]
    exact ⟨List.prefix_rfl, fun count hcount => hcount name⟩

/-- A step that issues nothing, notes nothing and copies nothing leaves the stacks alone. -/
theorem scripts_of_event {step : Step}
    (hevent : s.event step = .quiet ∨ ∃ id child, s.event step = .attached id child) :
    (s.step step).2.scripts = s.scripts := by
  obtain ⟨fresh, -, hchanges⟩ := s.step_changes step
  rcases hevent with hevent | ⟨id, child, hevent⟩ <;>
    (rw [hevent] at hchanges; exact hchanges.2)

/-- A stack goes on with the commands that it had, or that its source had, and has one more for
each push. -/
theorem step_stack (s : Session) (step : Step) (name : String) :
    (s.stack (step.ancestor name)).commands <+: ((s.step step).2.stack name).commands ∧
      ∀ count, (∀ other, (s.stack other).size = count other) →
        ((s.step step).2.stack name).size = step.pushes count (s.step step).1 name := by
  have hkept (hevent : s.event step = .quiet ∨ ∃ id child, s.event step = .attached id child) :
      (s.step step).2.stack name = s.stack name :=
    stack_eq_of_scripts (scripts_of_event hevent) name
  cases step with
  | issue stack command into =>
      rcases s.step_issue_cases stack command into with
        ⟨e, he⟩ | ⟨built, g, answer, next, -, hstep, -, hstack⟩
      · rw [he]
        exact ⟨List.prefix_rfl, fun count hcount => hcount name⟩
      · rw [hstep]
        exact pushed_stack (hstack name)
  | comment stack text => exact pushed_stack (stack_setStack s stack name _)
  | copyStack source target =>
      simp only [Session.step, Step.ancestor, Step.pushes, stack_setStack]
      split
      · exact ⟨List.prefix_rfl, fun count hcount => hcount source⟩
      · exact ⟨List.prefix_rfl, fun count hcount => hcount name⟩
  | serialize | measure | listCommands | writeTo | fetch | store | serializeTerm | describe
  | sameNode | isFormNamed | compare | apply | attach | annotate | construct =>
      rw [hkept]
      · exact ⟨List.prefix_rfl, fun count hcount => hcount name⟩
      · simp only [event, intent]
        repeat' split
        all_goals simp

theorem stack_run (s : Session) (steps : List Step) (name : String) :
    (s.stack (ancestor steps name)).commands <+: ((s.run steps).2.stack name).commands ∧
      ∀ count, (∀ other, (s.stack other).size = count other) →
        ((s.run steps).2.stack name).size = s.pushesFrom count steps name := by
  induction steps generalizing s with
  | nil => exact ⟨List.prefix_rfl, fun count hcount => hcount name⟩
  | cons first rest ih =>
      obtain ⟨hcommands, hsize⟩ := ih (s.step first).2
      refine ⟨(s.step_stack first (ancestor rest name)).1.trans hcommands, fun count hcount => ?_⟩
      exact hsize _ fun other => (s.step_stack first other).2 count hcount

theorem run_concat (s : Session) (before rest : List Step) :
    (s.run (before ++ rest)).2 = ((s.run before).2.run rest).2 := by
  induction before generalizing s with
  | nil => rfl
  | cons first before ih => exact ih (s.step first).2

/-- **Everything is append-only.** Between any two moments of any run, a form keeps its name and its
children, and has behind them all that it was offered since; an expression that is empty takes the
first child it is offered and refuses the others, and one that is filled refuses all and keeps what
it has; and a stack goes on with the commands it had, or its source had if it is a copy, and has as
many as were pushed on it or on what it is a copy of. -/
theorem append_only {before rest : List Step} {s last : Session}
    (hbefore : (empty.run before).2 = s) (hrest : (s.run rest).2 = last) :
    (∀ id < s.graph.size,
      (∀ name children, s.graph.node id = .form name children →
        last.graph.node id = .form name (children ++ (s.offers id rest).map Prod.fst) ∧
          ∀ offer ∈ s.offers id rest, offer.2.isOk = true) ∧
      (s.graph.node id = .expr none →
        last.graph.node id = .expr ((s.offers id rest).head?.map Prod.fst) ∧
          ∀ first others, s.offers id rest = first :: others → first.2.isOk = true ∧
            ∀ offer ∈ others, offer.2 = .error (.build .overfullExpression)) ∧
      ∀ content, s.graph.node id = .expr (some content) →
        last.graph.node id = .expr (some content) ∧
          ∀ offer ∈ s.offers id rest, offer.2 = .error (.build .overfullExpression)) ∧
    ∀ name, (s.stack (ancestor rest name)).commands <+: (last.stack name).commands ∧
      (last.stack name).size = pushes (before ++ rest) name := by
  constructor
  · intro id hid
    have htakes := takesAll_offers hid rest
    rw [hrest] at htakes
    refine ⟨fun name children hnode => ?_, fun hnode => ?_, fun content hnode => ?_⟩
    · rw [hnode] at htakes
      exact htakes.form
    · rw [hnode] at htakes
      exact htakes.empty
    · rw [hnode] at htakes
      exact htakes.filled
  · intro name
    have hsize := (empty.stack_run (before ++ rest) name).2 (fun _ => 0) fun _ => rfl
    rw [run_concat, hbefore, hrest] at hsize
    have hcommands := (s.stack_run rest name).1
    rw [hrest] at hcommands
    exact ⟨hcommands, hsize⟩

/-- An expression with two handles is asserted before it holds anything. -/
def openSlot : List Step :=
  [.store .emptyExpr (some "slot"),
    .store (.ref "slot") (some "alias"),
    .comment "main" "the goal",
    .issue "main" (.assert (.ref "slot")) none]

/-- Through one handle it takes a conjunction, through the other it refuses a note and a further
child, and the assertion takes a child. A copy of the stack gets a command more, and then is
replaced by another copy. -/
def fillSlot : List Step :=
  [.construct "alias" .and [.atom "p"] (some "and"),
    .copyStack "main" "copy",
    .annotate "slot" "too late" none,
    .issue "copy" .checkSat none,
    .attach "and" (.atom "q"),
    .attach "alias" (.ref "and"),
    .fetch "main" 1 (some "assertion"),
    .attach "assertion" (.str "named"),
    .copyStack "copy" "other",
    .copyStack "main" "copy"]

theorem append_only_slot :
    (empty.run openSlot).2.graph.node 0 = .expr none ∧
      ((empty.run openSlot).2.run fillSlot).2.graph.node 0 = .expr (some (.node 2)) ∧
      ((empty.run openSlot).2.run fillSlot).2.graph.node 1 =
        .form (some "assert") [.node 0, .str "named"] ∧
      [.comment ⟨"the goal", false⟩, .node 1] <+:
        (((empty.run openSlot).2.run fillSlot).2.stack "other").commands ∧
      (((empty.run openSlot).2.run fillSlot).2.stack "other").size = 3 ∧
      (((empty.run openSlot).2.run fillSlot).2.stack "copy").size = 2 := by
  have hbefore : (empty.run openSlot).2 = (empty.run openSlot).2 := rfl
  have hrest : ((empty.run openSlot).2.run fillSlot).2 = ((empty.run openSlot).2.run fillSlot).2 :=
    rfl
  obtain ⟨hnodes, hstacks⟩ := append_only hbefore hrest
  obtain ⟨-, hempty, -⟩ := hnodes 0 (by decide)
  obtain ⟨hform, -, -⟩ := hnodes 1 (by decide)
  refine ⟨rfl, (hempty rfl).1, (hform _ _ rfl).1, (hstacks "other").1, ?_, ?_⟩
  · exact (hstacks "other").2
  · exact (hstacks "copy").2

end Session

end SmtScript
