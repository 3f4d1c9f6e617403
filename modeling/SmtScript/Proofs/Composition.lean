import SmtScript.Proofs.Growth
import SmtScript.Proofs.Knots

/-!
# Scripts compose

Nothing is carried over from one command to the next. The text of a script is that of its commands
one behind the other, and its error is that of the first command without a text. So the text of a
stack stands at the beginning of every later one, as long as no node below the commands grows.
-/

namespace SmtScript

namespace Stack

variable {g : Graph}

/-! ## The front and the back of a script -/

theorem serialize_nil (g : Graph) : Stack.serialize ⟨[]⟩ g = .ok "" :=
  rfl

/-- A command with its line feed, and then the rest. -/
theorem serialize_cons (g : Graph) (t : Term) (ts : List Term) :
    Stack.serialize ⟨t :: ts⟩ g = (g.serialize t 0 .auto).bind fun first =>
      (Stack.serialize ⟨ts⟩ g).map fun rest => first ++ "\n" ++ rest := by
  simp only [serialize, render, renderAll, Graph.serialize]
  cases g.render t 0 .auto with
  | error halt => rfl
  | ok first =>
      cases renderAll g ts with
      | error halt => rfl
      | ok rest =>
          have htext : String.ofList (first ++ '\n' :: rest)
              = String.ofList first ++ "\n" ++ String.ofList rest := by
            rw [List.append_cons, String.ofList_append, String.ofList_append]
          exact congrArg Except.ok htext

theorem serialize_append (g : Graph) (front back : List Term) :
    Stack.serialize ⟨front ++ back⟩ g = (Stack.serialize ⟨front⟩ g).bind fun a =>
      (Stack.serialize ⟨back⟩ g).map (a ++ ·) := by
  induction front with
  | nil =>
      rw [serialize_nil, List.nil_append]
      cases Stack.serialize ⟨back⟩ g with
      | error halt => rfl
      | ok b => exact congrArg Except.ok String.empty_append.symm
  | cons t ts ih =>
      rw [List.cons_append, serialize_cons, serialize_cons, ih]
      cases g.serialize t 0 .auto with
      | error halt => rfl
      | ok first =>
          cases Stack.serialize ⟨ts⟩ g with
          | error halt => rfl
          | ok a =>
              cases Stack.serialize ⟨back⟩ g with
              | error halt => rfl
              | ok b => exact congrArg Except.ok String.append_assoc.symm

/-- The first command without a text has none for this reason. -/
def StopsWith (stack : Stack) (g : Graph) (halt : Halt) : Prop :=
  ∃ done command rest, stack.commands = done ++ command :: rest ∧
    (∀ t ∈ done, ∃ text, g.serialize t 0 .auto = .ok text) ∧
    g.serialize command 0 .auto = .error halt

theorem serialize_eq_ok_iff {ts : List Term} : (∃ text, Stack.serialize ⟨ts⟩ g = .ok text) ↔
    ∀ t ∈ ts, ∃ text, g.serialize t 0 .auto = .ok text := by
  induction ts with
  | nil => simp [serialize_nil]
  | cons t ts ih =>
      rw [List.forall_mem_cons, ← ih, serialize_cons]
      cases g.serialize t 0 .auto with
      | error halt => simp [Except.bind]
      | ok first =>
          cases Stack.serialize ⟨ts⟩ g with
          | error halt => simp [Except.bind, Except.map]
          | ok rest => simp [Except.bind, Except.map]

theorem serialize_eq_error_iff {stack : Stack} {halt : Halt} :
    stack.serialize g = .error halt ↔ stack.StopsWith g halt := by
  obtain ⟨ts⟩ := stack
  constructor
  · intro h
    induction ts with
    | nil => cases h
    | cons t ts ih =>
        rw [serialize_cons] at h
        cases htext : g.serialize t 0 .auto with
        | error own =>
            rw [htext] at h
            cases h
            exact ⟨[], t, ts, rfl, fun _ hu => absurd hu List.not_mem_nil, htext⟩
        | ok first =>
            rw [htext] at h
            cases hrest : Stack.serialize ⟨ts⟩ g with
            | ok rest => rw [hrest] at h; cases h
            | error own =>
                rw [hrest] at h
                cases h
                obtain ⟨done, command, rest, hsplit, hdone, hcommand⟩ := ih hrest
                refine ⟨t :: done, command, rest, congrArg (t :: ·) hsplit, ?_, hcommand⟩
                exact List.forall_mem_cons.mpr ⟨⟨first, htext⟩, hdone⟩
  · rintro ⟨done, command, rest, rfl, hdone, hcommand⟩
    obtain ⟨text, htext⟩ := serialize_eq_ok_iff.mpr hdone
    rw [serialize_append, htext, serialize_cons, hcommand]
    rfl

end Stack

/-! ## Later texts of a stack -/

/-- A node that refuses all it is offered stays as it is. -/
theorem Node.TakesAll.refused {n last : Node} {offers : List (Term × Except Failure Answer)}
    (h : n.TakesAll offers last) (hrefused : ∀ offer ∈ offers, offer.2.isOk = false) :
    last = n := by
  induction h with
  | nil n => rfl
  | cons first _ ih =>
      rw [List.forall_mem_cons] at hrefused
      cases first with
      | form | empty => cases hrefused.1
      | filled content => exact ih hrefused.2

namespace Session

variable {s : Session}

/-- No node that the terms reach takes a child in the run. -/
def Spares (s : Session) (rest : List Step) (ts : List Term) : Prop :=
  ∀ t ∈ ts, ∀ id, s.graph.Reaches t (.node id) →
    ∀ offer ∈ s.offers id rest, offer.2.isOk = false

theorem size_le_run (s : Session) (steps : List Step) :
    s.graph.size ≤ (s.run steps).2.graph.size := by
  induction steps generalizing s with
  | nil => exact Nat.le_refl _
  | cons first rest ih => exact Nat.le_trans (s.size_le_step first) (ih (s.step first).2)

/-- All that a spared term reaches is after the run as it was before. -/
theorem Spares.renames {rest : List Step} {ts : List Term} (h : s.Spares rest ts)
    (hclosed : s.Closed) {t : Term} (hmem : t ∈ ts) (ht : s.graph.Has t) :
    Graph.Renames id s.graph (s.run rest).2.graph t := by
  intro a ha
  have hlt : a < s.graph.size := Graph.has_node.mp (hclosed.graph.has_of_reaches ht ha)
  rw [Node.rename_id]
  exact (takesAll_offers hlt rest).refused (h t hmem a ha)

/-- It is enough to look at the nodes among which the terms stay. -/
theorem spares_of_nodes {rest : List Step} {ts : List Term} (S : List NodeId)
    (hts : ∀ t ∈ ts, ∀ a ∈ t.nodes, a ∈ S)
    (hS : ∀ a ∈ S, ∀ u ∈ (s.graph.node a).held, ∀ b ∈ u.nodes, b ∈ S)
    (hrefused : ∀ a ∈ S, ∀ offer ∈ s.offers a rest, offer.2.isOk = false) : s.Spares rest ts := by
  intro t ht id hreach
  by_cases hid : id ∈ S
  · exact hrefused id hid
  · exact absurd hreach (Graph.not_reaches_of_nodes S (hts t ht) hS hid)

/-- What comes of a spared stack is after the run what came of it before. -/
theorem Spares.serialize {rest : List Step} {stack : Stack} (h : s.Spares rest stack.commands)
    (hclosed : s.Closed) (hstack : ∀ t ∈ stack.commands, s.graph.Has t) :
    stack.serialize (s.run rest).2.graph = stack.serialize s.graph := by
  have hsame := Stack.serialize_rename (fun t ht => h.renames hclosed ht (hstack t ht))
    (s.size_le_run rest)
  rwa [Term.map_rename_id] at hsame

/-- **Scripts compose.** A script has a text if and only if the front and the back of it have one,
wherever it is split, and then it is that of the front with that of the back behind it. In every
other case the first command without a text decides the error. So if no node below the commands of
a stack takes a child in a run, then the text of the stack begins every text that it, or a copy of
it, has later, and its error stays. -/
theorem scripts_compose :
    (∀ (g : Graph) (stack front back : Stack), stack.commands = front.commands ++ back.commands →
      ((∃ text, stack.serialize g = .ok text) ↔
        (∃ a, front.serialize g = .ok a) ∧ ∃ b, back.serialize g = .ok b) ∧
      (∀ a b, front.serialize g = .ok a → back.serialize g = .ok b →
        stack.serialize g = .ok (a ++ b)) ∧
      ∀ halt, stack.serialize g = .error halt ↔ stack.StopsWith g halt) ∧
    ∀ {before rest : List Step} {s last : Session} {earlier : Stack} (name : String),
      (empty.run before).2 = s → (s.run rest).2 = last →
      s.stack (ancestor rest name) = earlier → s.Spares rest earlier.commands →
        (∀ text later, earlier.serialize s.graph = .ok text →
          (last.stack name).serialize last.graph = .ok later → ∃ more, later = text ++ more) ∧
        ∀ halt, earlier.serialize s.graph = .error halt →
          (last.stack name).serialize last.graph = .error halt := by
  constructor
  · rintro g ⟨_⟩ ⟨front⟩ ⟨back⟩ rfl
    refine ⟨?_, ?_, fun halt => Stack.serialize_eq_error_iff⟩
    · simp only [Stack.serialize_eq_ok_iff, List.forall_mem_append]
    · intro a b ha hb
      rw [Stack.serialize_append, ha, hb]
      rfl
  · intro before rest s last earlier name hbefore hrest hearlier hspares
    have hclosed : s.Closed := hbefore ▸ closed_empty.run before
    have hstack : ∀ t ∈ earlier.commands, s.graph.Has t :=
      hearlier ▸ hclosed.commands (ancestor rest name)
    have hsame := hspares.serialize hclosed hstack
    -- the later stack begins with the commands of the earlier one
    obtain ⟨added, hadded⟩ := (s.stack_run rest name).1
    rw [hearlier, hrest] at hadded
    rw [hrest] at hsame
    have hlater : (last.stack name).serialize last.graph =
        (earlier.serialize s.graph).bind fun a =>
          (Stack.serialize ⟨added⟩ last.graph).map (a ++ ·) := by
      rw [← hsame, ← Stack.serialize_append, hadded]
    rw [hlater]
    constructor
    · intro text later htext hok
      rw [htext] at hok
      obtain ⟨more, -, heq⟩ := map_eq_ok_iff.mp hok
      exact ⟨more, heq.symm⟩
    · intro halt hhalt
      rw [hhalt]
      rfl

/-- A filled expression is asserted on one stack, and a stub on another. -/
def opening : List Step :=
  [.store (.form (some "or") [.atom "p"]) (some "or"),
    .store (.expr (.ref "or")) (some "slot"),
    .issue "main" (.assert (.ref "slot")) none,
    .comment "main" "the goal",
    .issue "broken" .checkSat none,
    .issue "broken" (.assert (.form none [])) none]

/-- The expression refuses a note. A form above the disjunction grows and is maximized. A copy of
the first stack takes the place of a third one, and the second one gets another command without a
text. -/
def widening : List Step :=
  [.annotate "slot" "too late" none,
    .store (.form (some "f") [.ref "or"]) (some "above"),
    .construct "above" .not [.ref "slot"] none,
    .issue "main" (.maximize (.ref "above")) none,
    .issue "copy" .exit none,
    .copyStack "main" "copy",
    .issue "broken" (.assert .emptyExpr) none]

theorem scripts_compose_widening :
    (∃ more, (((empty.run opening).2.run widening).2.stack "copy").serialize
      ((empty.run opening).2.run widening).2.graph
        = .ok ("(assert (or p))\n; the goal\n" ++ more)) ∧
    (((empty.run opening).2.run widening).2.stack "broken").serialize
      ((empty.run opening).2.run widening).2.graph = .error (.failed .unnamedForm) := by
  obtain ⟨-, hlater⟩ := scripts_compose
  have hmain : (empty.run opening).2.Spares widening [.node 2, .comment ⟨"the goal", false⟩] :=
    spares_of_nodes [0, 1, 2] (by decide) (by decide) (by decide)
  have hbroken : (empty.run opening).2.Spares widening [.node 3, .node 5] :=
    spares_of_nodes [3, 4, 5] (by decide) (by decide) (by decide)
  have hcopy : (((empty.run opening).2.run widening).2.stack "copy").serialize
      ((empty.run opening).2.run widening).2.graph
        = .ok "(assert (or p))\n; the goal\n(maximize (f (or p) (not (or p))))\n" := by
    decide +kernel
  obtain ⟨htext, -⟩ := hlater "copy" rfl rfl rfl hmain
  obtain ⟨-, herror⟩ := hlater "broken" rfl rfl rfl hbroken
  obtain ⟨more, hmore⟩ := htext "(assert (or p))\n; the goal\n" _ (by decide +kernel) hcopy
  exact ⟨⟨more, hmore ▸ hcopy⟩, herror _ (by decide +kernel)⟩

end Session

end SmtScript
