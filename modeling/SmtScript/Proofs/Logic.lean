import SmtScript.Proofs.Closed

/-!
# A script names its logic once

Nothing keeps in mind whether a stack names a logic: its commands are searched each time. The search
is right because no step puts a form of that name on top of a stack, renames one or hides one, but
naming the logic itself. What the steps and their answers tell is enough to know what it will find.
-/

namespace SmtScript

/-! ## What steps and answers tell -/

/-- On which stacks a logic was named, after the step. A copy takes this over from its source. -/
def Step.logics (named : String → Bool) (answer : Except Failure Answer) :
    Step → String → Bool
  | .issue stack command _, name =>
      match answer with
      | .ok _ => if name = stack then named name || command.namesLogic else named name
      | .error _ => named name
  | .copyStack source target, name => if name = target then named source else named name
  | _, name => named name

namespace Session

def logicsFrom (s : Session) (named : String → Bool) : List Step → String → Bool
  | [] => named
  | first :: rest => (s.step first).2.logicsFrom (first.logics named (s.step first).1) rest

/-- On which stacks a run named a logic. -/
def logics (steps : List Step) : String → Bool :=
  empty.logicsFrom (fun _ => false) steps

end Session

/-! ## Names stay -/

namespace Graph

variable {g : Graph}

theorem isFormNamed_extends {fresh : Graph} (hextends : g.Extends fresh) (name : String) {t : Term}
    (ht : g.Has t) : fresh.isFormNamed name t = g.isFormNamed name t := by
  cases t with
  | node id =>
      simp only [isFormNamed]
      rw [hextends.node_eq id (has_node.mp ht)]
  | _ => rfl

theorem isFormNamed_attach {grown : Graph} {id : NodeId} {child : Term}
    (hattach : g.attach id child = .ok grown) (name : String) (t : Term) :
    grown.isFormNamed name t = g.isFormNamed name t := by
  obtain ⟨n, hn, rfl⟩ := attach_ok hattach
  cases t with
  | node other =>
      simp only [isFormNamed, node_put]
      by_cases hother : other = id ∧ id < g.size
      · rw [if_pos hother, hother.1]
        -- a form keeps its name, and an expression has none before and after
        cases hnode : g.node id with
        | form own children => rw [hnode] at hn; cases hn; cases own <;> rfl
        | expr content =>
            cases content with
            | none => rw [hnode] at hn; cases hn; rfl
            | some content => rw [hnode] at hn; cases hn
      · rw [if_neg hother]
  | _ => rfl

end Graph

theorem Command.isFormNamed_added (c : Command Term) (g : Graph) :
    (g.add c.node).2.isFormNamed logicHead (.node g.size) = c.namesLogic := by
  have hnode : (g.add c.node).2.node g.size = .form (some c.head) c.args := by
    rw [Graph.node_add, if_pos rfl, node]
  simp only [Graph.isFormNamed, hnode]
  cases c <;> rfl

namespace Stack

/-- How many of the commands are forms that name a logic. -/
def logicCount (stack : Stack) (g : Graph) : Nat :=
  stack.commands.countP (g.isFormNamed Command.logicHead)

theorem hasLogic_iff {stack : Stack} {g : Graph} :
    stack.hasLogic g = true ↔ 0 < stack.logicCount g := by
  rw [hasLogic, List.any_eq_true, logicCount, List.countP_pos_iff]

theorem logicCount_push (stack : Stack) (t : Term) (g : Graph) :
    (stack.push t).logicCount g =
      stack.logicCount g + (g.isFormNamed Command.logicHead t).toNat := by
  rw [logicCount, push, List.countP_append, List.countP_singleton]
  cases g.isFormNamed Command.logicHead t <;> rfl

theorem logicCount_congr {stack : Stack} {g g₂ : Graph}
    (h : ∀ t ∈ stack.commands,
      g₂.isFormNamed Command.logicHead t = g.isFormNamed Command.logicHead t) :
    stack.logicCount g₂ = stack.logicCount g :=
  List.countP_congr fun t ht => by rw [h t ht]

end Stack

namespace Session

variable {s : Session} {named : String → Bool}

theorem Closed.logicCount_extends (h : s.Closed) {fresh : Graph}
    (hextends : s.graph.Extends fresh) (name : String) :
    (s.stack name).logicCount fresh = (s.stack name).logicCount s.graph :=
  Stack.logicCount_congr fun t ht => Graph.isFormNamed_extends hextends _ (h.commands name t ht)

/-! ## Naming a logic -/

/-- A command is refused, or its form is added and pushed. -/
theorem step_issue_cases (s : Session) (stack : String) (command : Command Draft)
    (into : Option String) :
    (∃ e, s.step (.issue stack command into) = (.error e, s)) ∨
    ∃ built g answer next, s.buildCommand command = some (built, g) ∧
      s.step (.issue stack command into) = (.ok answer, next) ∧
      next.graph = (g.add built.node).2 ∧
      ∀ name, next.stack name =
        if name = stack then (s.stack stack).push (.node g.size) else s.stack name := by
  rcases s.issue_cases stack command into with ⟨e, he⟩ | ⟨built, g, answer, hbuilt, hissue⟩
  · exact .inl ⟨e, he⟩
  · refine .inr ⟨built, g, answer, _, hbuilt, hissue, ?_, fun name => ?_⟩
    · cases declares built <;> simp [setStack]
    · rw [← stack_setStack]
      apply stack_eq_of_scripts
      cases declares built <;> simp [setStack]

/-- An issued command names no second logic. -/
theorem logicCount_eq_zero_of_issue {stack : String} {command : Command Draft}
    {into : Option String} {built : Command Term} {g : Graph} {answer : Answer}
    (hbuilt : s.buildCommand command = some (built, g))
    (hok : (s.step (.issue stack command into)).1 = .ok answer)
    (hnames : built.namesLogic = true) : (s.stack stack).logicCount g = 0 := by
  rw [step, issue, hbuilt] at hok
  cases hlogic : (s.stack stack).hasLogic g with
  | true => simp [Stack.issue, hnames, hlogic] at hok
  | false =>
      have hnot := Stack.hasLogic_iff.not.mp (ne_true_of_eq_false hlogic)
      exact Nat.eq_zero_of_not_pos hnot

theorem namesLogic_buildCommand {command : Command Draft} {built : Command Term} {g : Graph}
    (hbuilt : s.buildCommand command = some (built, g)) :
    built.namesLogic = command.namesLogic := by
  cases command with
  | checkSat | getModel | exit => cases hbuilt; rfl
  | setLogic d | assert d | maximize d | declareConst name d =>
      rw [buildCommand, Option.map_eq_some_iff] at hbuilt
      obtain ⟨⟨t, grown⟩, -, heq⟩ := hbuilt
      cases heq
      rfl
  | declareFun name params result =>
      obtain ⟨ts, g₁, t, -, -, rfl⟩ := buildCommand_declareFun_ok hbuilt
      rfl

/-- Every stack holds as many forms that name a logic as it should: one or none. -/
def Names (s : Session) (named : String → Bool) : Prop :=
  ∀ name, (s.stack name).logicCount s.graph = (named name).toNat

/-- A step other than these three leaves the stacks alone, and gives no node another name. -/
theorem Names.of_event (h : s.Names named) (hs : s.Closed) {step : Step}
    (hevent : s.event step = .quiet ∨ ∃ id child, s.event step = .attached id child) :
    (s.step step).2.Names named := by
  obtain ⟨fresh, hextends, hchanges⟩ := s.step_changes step
  intro name
  rcases hevent with hevent | ⟨id, child, hevent⟩
  · rw [hevent] at hchanges
    obtain ⟨hgraph, hscripts⟩ := hchanges
    rw [stack_eq_of_scripts hscripts, hgraph, hs.logicCount_extends hextends, h name]
  · rw [hevent] at hchanges
    obtain ⟨hattach, hscripts⟩ := hchanges
    have hsame : (s.stack name).logicCount (s.step step).2.graph
        = (s.stack name).logicCount fresh :=
      Stack.logicCount_congr fun t _ => Graph.isFormNamed_attach hattach Command.logicHead t
    rw [stack_eq_of_scripts hscripts, hsame, hs.logicCount_extends hextends, h name]

theorem Names.step (h : s.Names named) (hs : s.Closed) (step : Step) :
    (s.step step).2.Names (step.logics named (s.step step).1) := by
  cases step with
  | issue stack command into =>
      rcases s.step_issue_cases stack command into with
        ⟨e, he⟩ | ⟨built, g, answer, next, hbuilt, hstep, hgraph, hstack⟩
      · rw [he]
        exact h
      · have hextends := buildCommand_extends hbuilt
        rw [hstep]
        intro name
        have hold := hs.logicCount_extends (hextends.trans (.add g built.node)) name
        rw [hgraph, hstack name]
        simp only [Step.logics]
        by_cases hname : name = stack
        · subst hname
          rw [if_pos rfl, if_pos rfl, Stack.logicCount_push, Command.isFormNamed_added, hold,
            ← namesLogic_buildCommand hbuilt]
          cases hnames : built.namesLogic with
          | false => rw [Bool.or_false]; exact h name
          | true =>
              have hzero := logicCount_eq_zero_of_issue hbuilt (congrArg Prod.fst hstep) hnames
              rw [hs.logicCount_extends hextends] at hzero
              rw [hzero, Bool.or_true]
              rfl
        · rw [if_neg hname, if_neg hname, hold]
          exact h name
  | comment stack text =>
      intro name
      rw [Session.step, stack_setStack]
      split
      · next hname =>
        rw [hname]
        exact (Stack.logicCount_push ..).trans (h stack)
      · exact h name
  | copyStack source target =>
      intro name
      rw [Session.step, stack_setStack, Step.logics]
      split
      · exact h source
      · exact h name
  | serialize | measure | listCommands | writeTo | fetch | store | serializeTerm | describe
  | sameNode | isFormNamed | compare | apply | attach | annotate | construct =>
      refine h.of_event hs ?_
      simp only [event, intent]
      repeat' split
      all_goals simp

theorem Names.run (h : s.Names named) (hs : s.Closed) (steps : List Step) :
    (s.run steps).2.Names (s.logicsFrom named steps) := by
  induction steps generalizing s named with
  | nil => exact h
  | cons first rest ih => exact ih (h.step hs first) (hs.step first)

theorem names_empty : empty.Names fun _ => false :=
  fun _ => rfl

/-- What naming a logic does hangs on what the search finds. -/
theorem step_setLogic {name : String} {logic : Draft} {into : Option String} {t : Term} {g : Graph}
    (hbuilt : s.build logic = some (t, g)) :
    s.step (.issue name (.setLogic logic) into) =
      if (s.stack name).hasLogic g then (.error (.build .duplicateLogic), s)
      else
        (.ok (.pushed ((s.stack name).size + 1)),
          { s with graph := (g.add (Command.setLogic t).node).2 }.setStack name
            ((s.stack name).push (.node g.size))) := by
  rw [step, issue, buildCommand, hbuilt, Option.map_some]
  cases hlogic : (s.stack name).hasLogic g with
  | true => simp [Stack.issue, Command.namesLogic, hlogic]
  | false => simp [Stack.issue, Command.namesLogic, hlogic, Stack.size, Stack.push]

theorem logicsFrom_concat (s : Session) (named : String → Bool) (steps : List Step) (last : Step) :
    s.logicsFrom named (steps ++ [last]) =
      last.logics (s.logicsFrom named steps) ((s.run steps).2.step last).1 := by
  induction steps generalizing s named with
  | nil => rfl
  | cons first rest ih => exact ih (s.step first).2 _

/-- **A script names its logic once.** After any run, with copies of stacks, forms that grow after
they were issued, and terms of every kind, also forms that have the name of the command, a stack
holds at most one command that is a form of that name. Naming the logic is refused, and changes
nothing, if and only if it succeeded before on the stack, or, before the copying, on the stack that
this one is a copy of. Else it succeeds and pushes one command, and no other stack learns of it. -/
theorem set_logic_once {steps : List Step} {s : Session} (hrun : (empty.run steps).2 = s) :
    (∀ name, (s.stack name).logicCount s.graph ≤ 1) ∧
      ∀ name logic into t g, s.build logic = some (t, g) →
        (logics steps name = true ↔
          s.step (.issue name (.setLogic logic) into) = (.error (.build .duplicateLogic), s)) ∧
        (logics steps name = false ↔ ∃ next,
          s.step (.issue name (.setLogic logic) into) =
            (.ok (.pushed ((s.stack name).size + 1)), next) ∧
          next.graph.node g.size = .form (some "set-logic") [t] ∧
          ∀ other, (next.stack other).commands =
            if other = name then (s.stack name).commands ++ [.node g.size]
            else (s.stack other).commands) ∧
        ∀ other, other ≠ name →
          logics (steps ++ [.issue name (.setLogic logic) into]) other = logics steps other := by
  have hclosed : s.Closed := hrun ▸ closed_empty.run steps
  have hnames : s.Names (logics steps) := hrun ▸ names_empty.run closed_empty steps
  constructor
  · intro name
    rw [hnames name]
    exact Bool.toNat_le _
  · intro name logic into t g hbuilt
    have hfound : (s.stack name).hasLogic g = logics steps name := by
      have hcount := hclosed.logicCount_extends (Draft.build_extends hbuilt) name
      rw [Bool.eq_iff_iff, Stack.hasLogic_iff, hcount, hnames name]
      cases logics steps name <;> decide
    rw [step_setLogic hbuilt, hfound]
    refine ⟨?_, ?_, ?_⟩
    · cases logics steps name <;> simp
    · cases logics steps name with
      | true => simp
      | false =>
          refine iff_of_true rfl ⟨_, rfl, ?_, fun other => ?_⟩
          · show (g.add (Command.setLogic t).node).2.node g.size = _
            rw [Graph.node_add, if_pos rfl]
            rfl
          · rw [stack_setStack]
            split <;> rfl
    · intro other hother
      simp only [logics, logicsFrom_concat, Step.logics, if_neg hother]
      split <;> rfl

/-- A caller's own form of the name is asserted, and two copies are made, one before the logic is
named and one after it. Then a second logic is refused, and the command takes another child. -/
def copies : List Step :=
  [.comment "main" "(set-logic ALL)",
    .store (.form (some "set-logic") [.atom "ALL"]) (some "own"),
    .issue "main" (.assert (.ref "own")) none,
    .copyStack "main" "early",
    .issue "main" (.setLogic (.atom "QF_LIA")) none,
    .copyStack "main" "late",
    .issue "late" (.setLogic (.atom "ALL")) none,
    .fetch "main" 2 (some "logic"),
    .attach "logic" (.str "twice")]

theorem set_logic_copies :
    (∀ name, ((empty.run copies).2.stack name).logicCount (empty.run copies).2.graph ≤ 1) ∧
      (empty.run copies).2.step (.issue "late" (.setLogic (.atom "QF_BV")) none)
        = (.error (.build .duplicateLogic), (empty.run copies).2) ∧
      ∃ next, (empty.run copies).2.step (.issue "early" (.setLogic (.atom "QF_BV")) none)
        = (.ok (.pushed 3), next) := by
  have hrun : (empty.run copies).2 = (empty.run copies).2 := rfl
  obtain ⟨hone, hcalls⟩ := set_logic_once hrun
  obtain ⟨hrefused, -, -⟩ := hcalls "late" (.atom "QF_BV") none _ _ rfl
  obtain ⟨-, haccepted, -⟩ := hcalls "early" (.atom "QF_BV") none _ _ rfl
  have hlate : logics copies "late" = true := by decide
  have hearly : logics copies "early" = false := by decide
  obtain ⟨next, hnext, -⟩ := haccepted.mp hearly
  exact ⟨hone, hrefused.mp hlate, next, hnext⟩

end Session

end SmtScript
