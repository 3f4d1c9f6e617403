import SmtScript.Proofs.Fluent
import SmtScript.Proofs.Knots

/-!
# Declared symbols in use

A declaration hands out a symbol that knows its name and how many parameters it has, and nothing
else. So whatever happens to the nodes and the stacks before it is used, the symbol accepts exactly
as many arguments, and an application is a new form like any other.
-/

namespace SmtScript

/-- The name that a step stores its result under. -/
def Step.into? : Step → Option String
  | .issue _ _ into => into
  | .fetch _ _ into => into
  | .store _ into => into
  | .annotate _ _ into => into
  | .construct _ _ _ into => into
  | .apply _ _ _ into => into
  | _ => none

theorem Draft.length_buildAll {lookup : String → Option Term} {g grown : Graph} {ds : List Draft}
    {ts : List Term} (h : buildAll lookup g ds = some (ts, grown)) : ts.length = ds.length := by
  induction ds generalizing g ts with
  | nil => cases h; rfl
  | cons d ds ih =>
      obtain ⟨t, us, g₁, -, hrest, rfl⟩ := buildAll_cons_ok h
      rw [List.length_cons, List.length_cons, ih hrest]

/-- A node that was just added is below nothing that was there. -/
theorem Graph.Closed.not_reaches_added {g : Graph} (hg : g.Closed) {n : Node} {t : Term}
    (ht : g.Has t) : ¬ (g.add n).2.Reaches t (.node g.size) := by
  intro hway
  have hnew : ¬ g.Has (.node g.size) := fun h => Nat.lt_irrefl _ (has_node.mp h)
  rcases Relation.reflTransGen_iff_eq_or_transGen.mp hway with heq | hbelow
  · rw [heq] at hnew
    exact hnew ht
  · exact hnew (hg.below_of_add ht hbelow).2

namespace Declared

variable {name : String} {arity : Nat} {g : Graph} {args : List Term}

/-! ## The symbol alone -/

theorem apply_refuses (h : args.length ≠ arity) :
    (ofArity name arity).apply g args = .error (.arity name arity args.length) := by
  unfold ofArity
  split
  · next hzero =>
    subst hzero
    exact if_neg h
  · exact if_neg h

theorem apply_const : (ofArity name 0).apply g [] = .ok (.atom name, g) :=
  rfl

theorem ofArity_pos (h : 0 < arity) : ofArity name arity = .function ⟨name, arity⟩ :=
  if_neg (Nat.ne_of_gt h)

theorem apply_function (h : args.length = arity) (hpos : 0 < arity) :
    (ofArity name arity).apply g args =
      .ok (.node g.size, (g.add (.form (some name) args)).2) := by
  rw [ofArity_pos hpos, apply, FunSymbol.apply, if_pos h]
  rfl

end Declared

namespace Session

variable {s : Session}

/-! ## Handles in a run -/

theorem handle?_remember_of_ne {name? : Option String} {name : String} (h : name? ≠ some name)
    (s : Session) (handle : Handle) : (s.remember name? handle).handle? name = s.handle? name := by
  cases name? with
  | none => rfl
  | some other =>
      have hne : (name == other) = false := beq_false_of_ne fun heq => h (congrArg some heq.symm)
      rw [remember, handle?, List.lookup_cons, hne]
      rfl

/-- A handle stands for what it stood for, unless the step stores its result there. -/
theorem handle?_step_of_ne {step : Step} {name : String} (h : step.into? ≠ some name) :
    (s.step step).2.handle? name = s.handle? name := by
  cases step with
  | issue stack command into =>
      rcases s.issue_cases stack command into with ⟨e, he⟩ | ⟨built, g, answer, -, hissue⟩
      · rw [Session.step, he]
      · rw [Session.step, hissue]
        cases declares built with
        | none => rfl
        | some handle => exact handle?_remember_of_ne h _ handle
  | comment | copyStack | serialize | measure | listCommands | writeTo => rfl
  | fetch stack index into =>
      rw [Session.step]
      split
      · exact handle?_remember_of_ne h _ _
      · rfl
  | store term into =>
      rw [Session.step]
      split
      · rfl
      · exact handle?_remember_of_ne h _ _
  | attach receiver child =>
      rcases s.attach_cases receiver child with
        ⟨e, he⟩ | ⟨id, term, g, grown, answer, -, -, -, heq⟩
      · rw [Session.step, he]
      · rw [Session.step, heq]
        rfl
  | annotate receiver text into =>
      rcases s.annotate_cases receiver text into with ⟨e, he⟩ | ⟨id, g, answer, -, -, heq⟩
      · rw [Session.step, he]
      · rw [Session.step, heq]
        exact handle?_remember_of_ne h _ _
  | construct receiver c args into =>
      rcases s.construct_cases receiver c args into with
        ⟨e, he⟩ | ⟨id, terms, g, grown, answer, -, -, -, heq⟩
      · rw [Session.step, he]
      · rw [Session.step, heq]
        exact handle?_remember_of_ne h _ _
  | serializeTerm | describe | sameNode | isFormNamed | compare =>
      rw [Session.step]
      split <;> rfl
  | apply symbol args onlyFunction into =>
      rcases s.apply_cases symbol args onlyFunction into with
        ⟨e, he⟩ | ⟨answer, heq⟩ | ⟨d, terms, g, term, grown, answer, -, -, -, heq⟩
      · rw [Session.step, he]
      · rw [Session.step, heq]
      · rw [Session.step, heq]
        exact handle?_remember_of_ne h _ _

theorem handle?_run_of_ne {steps : List Step} {name : String}
    (h : ∀ step ∈ steps, step.into? ≠ some name) :
    (s.run steps).2.handle? name = s.handle? name := by
  induction steps generalizing s with
  | nil => rfl
  | cons first rest ih =>
      rw [List.forall_mem_cons] at h
      exact (ih h.2).trans (handle?_step_of_ne h.1)

/-! ## The declaration -/

/-- A declaration whose terms can be built succeeds, whatever they are, and hands out the symbol. -/
theorem step_declareFun {next : Session} {answer : Except Failure Answer}
    {stack handle name : String} {params : List Draft} {result : Draft} {ts : List Term} {t : Term}
    {g₁ g : Graph} (hparams : s.buildAll params = some (ts, g₁))
    (hresult : result.build s.term? g₁ = some (t, g))
    (hstep : s.step (.issue stack (.declareFun name params result) (some handle)) =
      (answer, next)) :
    answer = .ok (.declared (.ofArity name params.length) ((s.stack stack).size + 1)) ∧
      (next.stack stack).commands = (s.stack stack).commands ++ [.node g.size] ∧
      next.graph = (g.add (.form (some "declare-fun") [.atom name, .list ts, t])).2 ∧
      next.handle? handle = some (.declared (.ofArity name params.length)) := by
  have hbuilt : s.buildCommand (.declareFun name params result) =
      some (.declareFun name ts t, g) := by
    simp only [buildCommand, hparams, hresult, Option.bind_eq_bind, Option.bind_some,
      Option.pure_def]
  have hsize : ((s.stack stack).push (.node g.size)).size = (s.stack stack).size + 1 :=
    List.length_append
  rw [Session.step, Session.issue, hbuilt] at hstep
  cases hstep
  rw [← Draft.length_buildAll hparams, ← hsize]
  refine ⟨rfl, ?_, graph_remember .., handle?_remember ..⟩
  rw [stack_eq_of_scripts (scripts_remember ..), stack_setStack, if_pos rfl]
  rfl

/-! ## The use -/

/-- The session after an application: the plain form is stored as a new node, which nothing that was
there leads to, and it is written like the plain form wherever it stands. -/
structure IsApplied (s : Session) (name : String) (args : List Draft) (us : List Term)
    (g : Graph) (into : Option String) (after : Session) : Prop where
  store : s.step (.store (.form (some name) args) into) = (.ok .stored, after)
  node : after.graph.node g.size = .form (some name) us
  fresh : s.graph.size ≤ g.size ∧ ∀ t, g.Has t → ¬ after.graph.Reaches t (.node g.size)
  text : ∀ depth mode, (s.step (.serializeTerm (.form (some name) args) depth mode)).1 =
    halted .text (after.graph.serialize (.node g.size) depth mode)
  handle : ∀ key, into = some key → after.handle? key = some (.term (.node g.size))

/-- The handle holds a symbol of this name with so many parameters, as it shows in use. -/
structure Accepts (s : Session) (symbol name : String) (arity : Nat) : Prop where
  isOk_iff : ∀ args us g into, s.buildAll args = some (us, g) →
    ((s.step (.apply symbol args false into)).1.isOk = true ↔ args.length = arity)
  refuses : ∀ args us g into, s.buildAll args = some (us, g) → args.length ≠ arity →
    s.step (.apply symbol args false into) =
      (.error (.build (.arity name arity args.length)), s)
  constant : ∀ into, arity = 0 → s.step (.apply symbol [] false into) =
    (.ok (.applied (.ok name)), s.remember into (.term (.atom name)))
  function : ∀ args us g into, s.buildAll args = some (us, g) → args.length = arity → 0 < arity →
    ∃ after, s.IsApplied name args us g into after ∧ s.step (.apply symbol args false into) =
      (.ok (.applied (after.graph.serialize (.node g.size) 0 .auto)), after)
  /-- A function is applied alike, whether or not only a function may be. -/
  onlyFunction : ∀ args into, 0 < arity →
    s.step (.apply symbol args true into) = s.step (.apply symbol args false into)
  /-- A constant is no function. -/
  noFunction : ∀ args us g into, s.buildAll args = some (us, g) → arity = 0 →
    s.step (.apply symbol args true into) = (.ok .noFunction, s)

theorem Closed.isApplied (h : s.Closed) {name : String} {args : List Draft} {us : List Term}
    {g : Graph} (hbuilt : s.buildAll args = some (us, g)) (into : Option String) :
    s.IsApplied name args us g into
      ({ s with graph := (g.add (.form (some name) us)).2 }.remember into
        (.term (.node g.size))) := by
  have hform : s.build (.form (some name) args) =
      some (.node g.size, (g.add (.form (some name) us)).2) := by
    rw [Session.buildAll] at hbuilt
    rw [Session.build, Draft.build, hbuilt]
    rfl
  have hsize := (Draft.buildAll_extends hbuilt).size_le
  refine ⟨?_, ?_, ⟨hsize, fun t ht => ?_⟩, fun depth mode => ?_, ?_⟩
  · rw [Session.step, hform]
  · rw [graph_remember]
    exact Graph.node_added g _
  · rw [graph_remember]
    exact (h.buildAll hbuilt).1.not_reaches_added ht
  · rw [Session.step, hform, graph_remember]
    rfl
  · rintro key rfl
    exact handle?_remember _ key _

section

variable {symbol name : String} {arity : Nat} {args : List Draft} {us : List Term} {g : Graph}
  (hhandle : s.handle? symbol = some (.declared (.ofArity name arity)))

include hhandle

theorem step_apply (hbuilt : s.buildAll args = some (us, g)) (into : Option String) :
    s.step (.apply symbol args false into) =
      apply.finish s into ((Declared.ofArity name arity).apply g us) := by
  rw [Session.step, apply, hhandle, hbuilt]

theorem step_apply_refuses (hbuilt : s.buildAll args = some (us, g)) (into : Option String)
    (hlength : args.length ≠ arity) : s.step (.apply symbol args false into) =
      (.error (.build (.arity name arity args.length)), s) := by
  rw [← Draft.length_buildAll hbuilt] at hlength ⊢
  rw [step_apply hhandle hbuilt, Declared.apply_refuses hlength]
  rfl

theorem step_apply_const (into : Option String) (hzero : arity = 0) :
    s.step (.apply symbol [] false into) =
      (.ok (.applied (.ok name)), s.remember into (.term (.atom name))) := by
  subst hzero
  have hnone : s.buildAll [] = some ([], s.graph) := rfl
  have htext : s.graph.serialize (.atom name) 0 .auto = .ok name :=
    congrArg Except.ok String.ofList_toList
  rw [step_apply hhandle hnone, Declared.apply_const, ← htext]
  rfl

theorem Closed.step_apply_function (h : s.Closed) (hbuilt : s.buildAll args = some (us, g))
    (into : Option String) (hlength : args.length = arity) (hpos : 0 < arity) :
    ∃ after, s.IsApplied name args us g into after ∧ s.step (.apply symbol args false into) =
      (.ok (.applied (after.graph.serialize (.node g.size) 0 .auto)), after) := by
  refine ⟨_, h.isApplied hbuilt into, ?_⟩
  rw [← Draft.length_buildAll hbuilt] at hlength
  rw [step_apply hhandle hbuilt, Declared.apply_function hlength hpos, graph_remember]
  rfl

theorem isOk_step_apply_iff (h : s.Closed) (hbuilt : s.buildAll args = some (us, g))
    (into : Option String) :
    (s.step (.apply symbol args false into)).1.isOk = true ↔ args.length = arity := by
  by_cases hlength : args.length = arity
  · refine iff_of_true ?_ hlength
    rcases Nat.eq_zero_or_pos arity with hzero | hpos
    · obtain rfl : args = [] := List.length_eq_zero_iff.mp (hlength.trans hzero)
      rw [step_apply_const hhandle into hzero]
      rfl
    · obtain ⟨after, -, hstep⟩ := Closed.step_apply_function hhandle h hbuilt into hlength hpos
      rw [hstep]
      rfl
  · refine iff_of_false ?_ hlength
    rw [step_apply_refuses hhandle hbuilt into hlength]
    exact Bool.false_ne_true

theorem step_apply_onlyFunction (args : List Draft) (into : Option String) (hpos : 0 < arity) :
    s.step (.apply symbol args true into) = s.step (.apply symbol args false into) := by
  rw [Declared.ofArity_pos hpos] at hhandle
  simp only [Session.step, apply, hhandle]
  cases s.buildAll args <;> rfl

theorem step_apply_noFunction (hbuilt : s.buildAll args = some (us, g)) (into : Option String)
    (hzero : arity = 0) : s.step (.apply symbol args true into) = (.ok .noFunction, s) := by
  subst hzero
  rw [Session.step, apply, hhandle, hbuilt]
  rfl

theorem Closed.accepts (h : s.Closed) : s.Accepts symbol name arity where
  isOk_iff _ _ _ into hbuilt := isOk_step_apply_iff hhandle h hbuilt into
  refuses _ _ _ into hbuilt := step_apply_refuses hhandle hbuilt into
  constant := step_apply_const hhandle
  function _ _ _ into hbuilt := Closed.step_apply_function hhandle h hbuilt into
  onlyFunction := step_apply_onlyFunction hhandle
  noFunction _ _ _ into hbuilt := step_apply_noFunction hhandle hbuilt into

end

/-- **A declared symbol accepts exactly its arity.** A declaration whose terms can be built always
succeeds. It pushes the command with just these terms, which stay in it whatever is appended later
and whether or not they have a text. The handle accepts as many arguments as there are parameters,
after every run that does not store something else in it. -/
theorem declared_accepts {before middle : List Step} {s next u : Session}
    {answer : Except Failure Answer} {stack handle name : String} {params : List Draft}
    {result : Draft} {ts : List Term} {t : Term} {g₁ g : Graph} (hbefore : (empty.run before).2 = s)
    (hparams : s.buildAll params = some (ts, g₁)) (hresult : result.build s.term? g₁ = some (t, g))
    (hdeclare : s.step (.issue stack (.declareFun name params result) (some handle)) =
      (answer, next))
    (hkept : ∀ step ∈ middle, step.into? ≠ some handle) (hmiddle : (next.run middle).2 = u) :
    answer = .ok (.declared (.ofArity name params.length) ((s.stack stack).size + 1)) ∧
      (next.stack stack).commands = (s.stack stack).commands ++ [.node g.size] ∧
      next.graph.node g.size = .form (some "declare-fun") [.atom name, .list ts, t] ∧
      u.graph.node g.size = .form (some "declare-fun")
        ([.atom name, .list ts, t] ++ (next.offers g.size middle).map Prod.fst) ∧
      u.Accepts handle name params.length := by
  have hclosed : next.Closed := by
    have hs : s.Closed := hbefore ▸ closed_empty.run before
    have hnext := hs.step (.issue stack (.declareFun name params result) (some handle))
    rwa [hdeclare] at hnext
  obtain ⟨hanswer, hstack, hgraph, hhandle⟩ := step_declareFun hparams hresult hdeclare
  have hnode : next.graph.node g.size =
      .form (some "declare-fun") [.atom name, .list ts, t] := by
    rw [hgraph]
    exact Graph.node_added g _
  refine ⟨hanswer, hstack, hnode, ?_, ?_⟩
  · have hplace : g.size < next.graph.size := by
      rw [hgraph]
      exact Graph.has_node.mp (Graph.has_added g _)
    have htakes := takesAll_offers hplace middle
    rw [hmiddle, hnode] at htakes
    exact htakes.form.1
  · rw [← handle?_run_of_ne hkept] at hhandle
    rw [← hmiddle]
    exact Closed.accepts hhandle (hclosed.run middle)

/-- An expression without a content, and a stack with a command. -/
def vacancy : List Step :=
  [.store .emptyExpr (some "slot"), .issue "main" .checkSat none]

/-- The expression is a parameter. -/
def declaration : Step :=
  .issue "main" (.declareFun "f" [.ref "slot", .atom "Int"] (.atom "Bool")) (some "f")

/-- The expression takes its content. The command grows, and so does a first application. The name
is declared again without parameters, and the stack is copied. -/
def meanwhile : List Step :=
  [.attach "slot" (.atom "Int"),
    .fetch "main" 1 (some "command"),
    .attach "command" (.str "appended"),
    .apply "f" [.atom "x", .ref "command"] false (some "first"),
    .attach "first" (.ref "slot"),
    .issue "main" (.declareFun "f" [] (.atom "Bool")) (some "constant"),
    .copyStack "main" "copy"]

theorem declared_accepts_meanwhile :
    let u := (((empty.run vacancy).2.step declaration).2.run meanwhile).2
    u.graph.node 2 = .form (some "declare-fun")
        [.atom "f", .list [.node 0, .atom "Int"], .atom "Bool", .str "appended"] ∧
      u.step (.apply "f" [.atom "x"] false (some "second")) =
        (.error (.build (.arity "f" 2 1)), u) ∧
      ∃ after, u.IsApplied "f" [.ref "first", .ref "slot"] [.node 3, .node 0] u.graph
          (some "second") after ∧
        u.step (.apply "f" [.ref "first", .ref "slot"] false (some "second")) =
          (.ok (.applied (after.graph.serialize (.node 5) 0 .auto)), after) := by
  have hparams : (empty.run vacancy).2.buildAll [.ref "slot", .atom "Int"] =
      some ([.node 0, .atom "Int"], (empty.run vacancy).2.graph) := rfl
  have hresult : (Draft.atom "Bool").build (empty.run vacancy).2.term?
      (empty.run vacancy).2.graph = some (.atom "Bool", (empty.run vacancy).2.graph) := rfl
  have hkept : ∀ step ∈ meanwhile, step.into? ≠ some "f" := by decide
  obtain ⟨-, -, -, hcommand, haccepts⟩ :=
    declared_accepts rfl hparams hresult (Prod.eta ((empty.run vacancy).2.step declaration)).symm
      hkept rfl
  exact ⟨hcommand, haccepts.refuses _ _ _ _ rfl (by decide),
    haccepts.function _ _ _ _ rfl rfl (by decide)⟩

end Session

end SmtScript
