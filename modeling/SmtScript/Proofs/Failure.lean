import SmtScript.Proofs.Closed
import SmtScript.Proofs.Lockstep

/-!
# Failed calls change nothing

A step that fails leaves the session as it was. The nodes that it made before it failed may stay
behind: a constructor, for one, makes its form before a filled expression refuses it, and the form
holds arguments that are shared. But nothing refers to these nodes, so no later step can tell that
they are there.
-/

namespace SmtScript

variable {f : NodeId → NodeId}

/-! ## Nodes that nothing refers to -/

namespace Graph

/-- The identifiers where the first `size` keep theirs and new nodes come after `next`. -/
def skip (f : NodeId → NodeId) (size next : Nat) (id : NodeId) : NodeId :=
  if id < size then f id else next + (id - size)

theorem skip_of_lt {size next : Nat} {id : NodeId} (h : id < size) : skip f size next id = f id :=
  if_pos h

theorem skip_add (size next k : Nat) : skip f size next (size + k) = next + k := by
  rw [skip, if_neg (Nat.not_lt.mpr (Nat.le_add_right size k)), Nat.add_sub_cancel_left]

variable {g g₂ fresh : Graph}

theorem Has.rename_skip {t : Term} (ht : g.Has t) (next : Nat) :
    t.rename (skip f g.size next) = t.rename f :=
  Term.rename_congr fun id hid => skip_of_lt (ht id hid)

theorem skip_injective {size next : Nat} (hf : Function.Injective f)
    (hold : ∀ id < size, f id < next) : Function.Injective (skip f size next) := by
  have hapart : ∀ {a : NodeId} (k : Nat), a < size → skip f size next a ≠ next + k := by
    intro a k ha heq
    rw [skip_of_lt ha] at heq
    exact absurd (heq ▸ hold a ha) (Nat.not_lt.mpr (Nat.le_add_right next k))
  intro a b hab
  by_cases ha : a < size <;> by_cases hb : b < size
  · rw [skip_of_lt ha, skip_of_lt hb] at hab
    exact hf hab
  · obtain ⟨k, rfl⟩ := Nat.exists_eq_add_of_le (Nat.le_of_not_lt hb)
    exact absurd (hab.trans (skip_add size next k)) (hapart k ha)
  · obtain ⟨k, rfl⟩ := Nat.exists_eq_add_of_le (Nat.le_of_not_lt ha)
    exact absurd (hab.symm.trans (skip_add size next k)) (hapart k hb)
  · obtain ⟨j, rfl⟩ := Nat.exists_eq_add_of_le (Nat.le_of_not_lt ha)
    obtain ⟨k, rfl⟩ := Nat.exists_eq_add_of_le (Nat.le_of_not_lt hb)
    rw [skip_add, skip_add] at hab
    rw [Nat.add_left_cancel hab]

/-- More nodes in the second graph make no difference, for the first one refers to none of them. -/
theorem Embeds.extends (h : g.Embeds f g₂) (hclosed : g.Closed) (hfresh : g₂.Extends fresh) :
    g.Embeds (skip f g.size fresh.size) fresh := by
  have hold : ∀ id < g.size, f id < fresh.size := fun id hid =>
    Nat.lt_of_lt_of_le (h.lt_size_iff.mpr hid) hfresh.size_le
  refine ⟨skip_injective h.injective hold, skip_add g.size fresh.size,
    Nat.le_trans h.size_le hfresh.size_le, fun id => ?_⟩
  · by_cases hid : id < g.size
    · rw [skip_of_lt hid, hfresh.node_eq _ (h.lt_size_iff.mpr hid), h.node id]
      exact Node.rename_congr fun t ht => ((hclosed id hid t ht).rename_skip fresh.size).symm
    · obtain ⟨k, rfl⟩ := Nat.exists_eq_add_of_le (Nat.le_of_not_lt hid)
      rw [skip_add, node_eq_stub (Nat.le_add_right _ k), node_eq_stub (Nat.le_add_right _ k)]
      rfl

end Graph

namespace Session

variable {s s₂ : Session}

theorem Embeds.extends (h : s.Embeds f s₂) (hclosed : s.Closed) {fresh : Graph}
    (hfresh : s₂.graph.Extends fresh) :
    s.Embeds (Graph.skip f s.graph.size fresh.size) { s₂ with graph := fresh } := by
  refine ⟨h.graph.extends hclosed.graph hfresh, fun name => ?_, fun name => ?_⟩
  · have hcommands : (s.stack name).commands.map (Term.rename f) = (s.stack name).commands.map
        (Term.rename (Graph.skip f s.graph.size fresh.size)) :=
      List.map_congr_left fun t ht =>
        ((hclosed.commands name t ht).rename_skip fresh.size).symm
    exact (h.commands name).trans hcommands
  · have hhandle : (s.handle? name).map (Handle.rename f) = (s.handle? name).map
        (Handle.rename (Graph.skip f s.graph.size fresh.size)) := by
      cases hheld : s.handle? name with
      | none => rfl
      | some handle =>
          rw [Option.map_some, Option.map_some, Handle.rename_congr fun t ht => ?_]
          subst ht
          exact ((hclosed.handle name t hheld).rename_skip fresh.size).symm
    exact (h.handle name).trans hhandle

/-- Nodes that nothing refers to change no answer. -/
theorem Closed.run_extends (hclosed : s.Closed) {fresh : Graph} (hfresh : s.graph.Extends fresh)
    (steps : List Step) : (Session.run { s with graph := fresh } steps).1 = (s.run steps).1 :=
  ((Embeds.refl s).extends hclosed hfresh).run steps

/-! ## Failed steps -/

/-- Does the answer tell of an error: of the step, of writing the script, or of one of the commands?
An application is stored although it has no text yet, so this is no failure. -/
def fails : Except Failure Answer → Bool
  | .error _ => true
  | .ok (.delivered (.error _)) => true
  | .ok (.delivered (.ok delivery)) => delivery.error?.isSome
  | .ok (.commands listed) => listed.any fun (text, _) => !text.isOk
  | .ok _ => false

/-- **A step that fails leaves the session as it was.** -/
theorem step_of_fails {step : Step} (hfails : fails (s.step step).1 = true) :
    (s.step step).2 = s := by
  cases step with
  | serialize | measure | listCommands | writeTo => rfl
  | comment | copyStack => cases hfails
  | fetch stack index into =>
      rw [Session.step] at hfails ⊢
      split at hfails
      · cases hfails
      · rfl
  | store term into =>
      rw [Session.step] at hfails ⊢
      cases hbuilt : s.build term with
      | none => rfl
      | some pair => rw [hbuilt] at hfails; cases hfails
  | serializeTerm | describe | sameNode | isFormNamed | compare =>
      rw [Session.step]
      split <;> rfl
  | issue stack command into =>
      rw [Session.step, issue] at hfails ⊢
      split at hfails
      · rfl
      · next built g hbuilt =>
        split at hfails
        · rfl
        · -- each kind of command has an answer of its own, and none tells of an error
          cases built <;> cases hfails
  | attach receiver child =>
      rw [Session.step, attach] at hfails ⊢
      split at hfails
      · next id term g hnode hbuilt =>
        split at hfails
        · rfl
        · unfold attached at hfails
          split at hfails <;> cases hfails
      · rfl
  | annotate receiver text into =>
      rw [Session.step, annotate] at hfails ⊢
      split at hfails
      · rfl
      · split at hfails
        · rfl
        · cases hfails
  | construct receiver c args into =>
      rw [Session.step, construct] at hfails ⊢
      split at hfails
      · split at hfails
        · rfl
        · unfold constructed at hfails
          split at hfails <;> cases hfails
      · rfl
  | apply symbol args onlyFunction into =>
      have hfinish : ∀ applied, fails (apply.finish s into applied).1 = true →
          (apply.finish s into applied).2 = s := by
        intro applied happlied
        cases applied with
        | error e => rfl
        | ok pair => cases happlied
      rw [Session.step, apply] at hfails ⊢
      split at hfails
      · split at hfails
        · rfl
        · exact hfinish _ hfails
        · exact hfinish _ hfails
      · rfl

/-- The graph with the nodes that the step makes before it can fail: those of its drafts, and the
form of a connective that the receiver is to take. -/
def made (s : Session) : Step → Graph
  | .issue _ command _ => ((s.buildCommand command).map Prod.snd).getD s.graph
  | .store term _ | .serializeTerm term _ _ | .attach _ term | .isFormNamed term _ =>
      ((s.build term).map Prod.snd).getD s.graph
  | .construct _ c args _ =>
      ((s.buildAll args).map fun (terms, g) => (g.add (.form (some c.name) terms)).2).getD s.graph
  | .apply _ args _ _ => ((s.buildAll args).map Prod.snd).getD s.graph
  | _ => s.graph

theorem made_extends (s : Session) (step : Step) : s.graph.Extends (s.made step) := by
  cases step with
  | issue stack command into =>
      rw [made]
      cases hbuilt : s.buildCommand command with
      | none => exact .refl s.graph
      | some pair => exact buildCommand_extends hbuilt
  | store term | serializeTerm term | attach receiver term | isFormNamed term =>
      rw [made]
      cases hbuilt : s.build term with
      | none => exact .refl s.graph
      | some pair => exact Draft.build_extends hbuilt
  | construct receiver c args into =>
      rw [made]
      cases hbuilt : s.buildAll args with
      | none => exact .refl s.graph
      | some pair => exact (Draft.buildAll_extends hbuilt).trans (.add pair.2 _)
  | apply symbol args =>
      rw [made]
      cases hbuilt : s.buildAll args with
      | none => exact .refl s.graph
      | some pair => exact Draft.buildAll_extends hbuilt
  | _ => exact .refl s.graph

/-! ## Runs with failures -/

theorem run_append (s : Session) (first rest : List Step) :
    (s.run (first ++ rest)).1 = (s.run first).1 ++ ((s.run first).2.run rest).1 := by
  induction first generalizing s with
  | nil => rfl
  | cons step steps ih => exact congrArg ((s.step step).1 :: ·) (ih (s.step step).2)

/-- A step where one that fails leaves behind the nodes that it made. -/
def stepLeaving (s : Session) (step : Step) : Except Failure Answer × Session :=
  let (answer, next) := s.step step
  (answer, if fails answer then { next with graph := s.made step } else next)

def runLeaving (s : Session) : List Step → List (Except Failure Answer) × Session
  | [] => ([], s)
  | first :: rest =>
      let (answer, next) := s.stepLeaving first
      let (answers, last) := next.runLeaving rest
      (answer :: answers, last)

/-- The first session never has nodes of failed steps, the second one has more and more of them. -/
theorem Embeds.runLeaving (h : s.Embeds f s₂) (hclosed : s.Closed) (steps : List Step) :
    (s₂.runLeaving steps).1 = (s.run steps).1 := by
  induction steps generalizing f s s₂ with
  | nil => rfl
  | cons first rest ih =>
      obtain ⟨hanswer, hnext⟩ := h.step first
      have hrest : ((s₂.stepLeaving first).2.runLeaving rest).1
          = ((s.step first).2.run rest).1 := by
        cases hfails : fails (s₂.step first).1 with
        | false =>
            simp only [stepLeaving, hfails]
            exact ih hnext (hclosed.step first)
        | true =>
            have hkept : (s.step first).2 = s := step_of_fails (hanswer ▸ hfails)
            have hkept₂ : (s₂.step first).2 = s₂ := step_of_fails hfails
            simp only [stepLeaving, hfails, hkept, hkept₂]
            exact ih (h.extends hclosed (s₂.made_extends first)) hclosed
      show (s₂.step first).1 :: ((s₂.stepLeaving first).2.runLeaving rest).1 =
        (s.step first).1 :: ((s.step first).2.run rest).1
      rw [hanswer, hrest]

/-- **No answer tells whether failed steps leave their nodes behind.** -/
theorem answers_runLeaving (steps : List Step) :
    (empty.runLeaving steps).1 = (empty.run steps).1 :=
  (Embeds.refl empty).runLeaving closed_empty steps

/-- **Failed calls change nothing.** In the session after any run, a step whose answer tells of an
error leaves every stack, every node and every handle as it was. The nodes that it made before it
failed come after all others and leave these as they are. Whatever steps follow, they are answered
as in the run without the failed step, whether its nodes stay behind or not. -/
theorem failed_step_unseen {steps : List Step} {s : Session} {step : Step}
    (hrun : (empty.run steps).2 = s) (hfails : fails (s.step step).1 = true) :
    (s.step step).2 = s ∧ s.graph.Extends (s.made step) ∧
      ∀ rest, (empty.run (steps ++ rest)).1 = (empty.run steps).1 ++ (s.run rest).1 ∧
        (empty.run (steps ++ step :: rest)).1 =
          (empty.run steps).1 ++ (s.step step).1 :: (s.run rest).1 ∧
        (run { s with graph := s.made step } rest).1 = (s.run rest).1 := by
  have hkept : (s.step step).2 = s := step_of_fails hfails
  have hclosed : s.Closed := hrun ▸ closed_empty.run steps
  refine ⟨hkept, s.made_extends step, fun rest => ⟨?_, ?_, ?_⟩⟩
  · rw [run_append, hrun]
  · have hfirst : (s.run (step :: rest)).1 = (s.step step).1 :: ((s.step step).2.run rest).1 := rfl
    rw [run_append, hrun, hfirst, hkept]
  · exact hclosed.run_extends (s.made_extends step) rest

/-- A filled expression is asserted, beside a form that is shared. -/
def filling : List Step :=
  [.store (.form (some "f") [.atom "x"]) (some "shared"),
    .store (.expr (.ref "shared")) (some "slot"),
    .issue "main" (.assert (.ref "slot")) none]

/-- The conjunction is made, and then refused. It holds the shared form. -/
def crowding : Step :=
  .construct "slot" .and [.ref "shared", .emptyExpr] (some "slot")

theorem crowding_unseen :
    ((empty.run filling).2.step crowding).1 = .error (.build .overfullExpression) ∧
      ((empty.run filling).2.made crowding).size = (empty.run filling).2.graph.size + 2 ∧
      ((empty.run filling).2.step crowding).2 = (empty.run filling).2 ∧
      ∀ rest, (empty.run (filling ++ crowding :: rest)).1 = (empty.run filling).1 ++
          .error (.build .overfullExpression) :: ((empty.run filling).2.run rest).1 ∧
        (run { (empty.run filling).2 with graph := (empty.run filling).2.made crowding }
          rest).1 = ((empty.run filling).2.run rest).1 := by
  have hfails : fails ((empty.run filling).2.step crowding).1 = true := rfl
  obtain ⟨hkept, -, hlater⟩ := failed_step_unseen rfl hfails
  refine ⟨rfl, rfl, hkept, fun rest => ?_⟩
  obtain ⟨-, hanswers, hunseen⟩ := hlater rest
  exact ⟨hanswers, hunseen⟩

end Session

end SmtScript
