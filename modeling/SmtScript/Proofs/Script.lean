import SmtScript.Proofs.Origin
import SmtScript.Proofs.Reading

/-!
# Scripts decode to the calls that built them

Beside the session runs a log. It keeps the commands that were issued on each stack, in order, with
the terms they were issued with and the children that their forms took later. The log is made from
the answers alone, it knows neither nodes nor text. The invariant is that stacks and log agree, and
from it follows that reading the text of a stack gives back what the log says.
-/

namespace SmtScript

/-! ## The log -/

/-- A command that was issued, the place of its form, and what the form took since. -/
structure Issued where
  place : NodeId
  command : Command Term
  grown : List Term

/-- The form at the place took a child. -/
def Issued.take (receiver : NodeId) (child : Term) (e : Issued) : Issued :=
  if e.place = receiver then { e with grown := e.grown ++ [child] } else e

/-- The commands issued on each stack. -/
abbrev Log := String → List Issued

/-- The log after an event. -/
def Log.record (log : Log) (event : Event) (name : String) : List Issued :=
  match event with
  | .quiet | .noted _ _ => log name
  | .issued stack place command =>
      if name = stack then log stack ++ [⟨place, command, []⟩] else log name
  | .copied source target => if name = target then log source else log name
  | .attached receiver child => (log name).map (Issued.take receiver child)

namespace Session

/-- The log of a run that starts with a log. -/
def logFrom (s : Session) (log : Log) : List Step → Log
  | [] => log
  | first :: rest => (s.step first).2.logFrom (log.record (s.event first)) rest

/-- The commands that a run issued successfully. -/
def log (steps : List Step) : Log :=
  empty.logFrom (fun _ => []) steps

end Session

/-! ## Stacks and log agree -/

/-- The commands of a stack are those of the log, with comments between them. -/
inductive Lists : List Term → List Issued → Prop
  | nil : Lists [] []
  | command {ts : List Term} {es : List Issued} (e : Issued) (rest : Lists ts es) :
      Lists (.node e.place :: ts) (e :: es)
  | comment {ts : List Term} {es : List Issued} (text : String) (rest : Lists ts es) :
      Lists (.comment ⟨text, false⟩ :: ts) es

namespace Lists

theorem append {ts us : List Term} {es fs : List Issued} (h : Lists ts es) (h₂ : Lists us fs) :
    Lists (ts ++ us) (es ++ fs) := by
  induction h with
  | nil => exact h₂
  | command e _ ih => exact .command e ih
  | comment text _ ih => exact .comment text ih

theorem take {ts : List Term} {es : List Issued} (h : Lists ts es) (receiver : NodeId)
    (child : Term) : Lists ts (es.map (Issued.take receiver child)) := by
  induction h with
  | nil => exact .nil
  | command e _ ih =>
      have hplace : (e.take receiver child).place = e.place := by
        unfold Issued.take
        split <;> rfl
      rw [List.map_cons, ← hplace]
      exact .command _ ih
  | comment text _ ih => exact .comment text ih

end Lists

/-- The place holds the form of the command, with what it took since behind its arguments. -/
def Issued.Holds (g : Graph) (e : Issued) : Prop :=
  e.place < g.size ∧ g.node e.place = .form (some e.command.head) (e.command.args ++ e.grown)

theorem Issued.Holds.extends {g fresh : Graph} {e : Issued} (h : e.Holds g)
    (hextends : g.Extends fresh) : e.Holds fresh :=
  ⟨Nat.lt_of_lt_of_le h.1 hextends.size_le, (hextends.node_eq e.place h.1).trans h.2⟩

theorem Issued.Holds.take {g grown : Graph} {e : Issued} (h : e.Holds g) {receiver : NodeId}
    {child : Term} (hattach : g.attach receiver child = .ok grown) :
    (e.take receiver child).Holds grown := by
  obtain ⟨n, hn, rfl⟩ := Graph.attach_ok hattach
  obtain ⟨hlt, hnode⟩ := h
  unfold Issued.take
  split
  · next hplace =>
    subst hplace
    rw [hnode] at hn
    cases hn
    refine ⟨by simpa using hlt, ?_⟩
    rw [Graph.node_put, if_pos ⟨rfl, hlt⟩, List.append_assoc]
  · next hplace =>
    refine ⟨by simpa using hlt, ?_⟩
    rw [Graph.node_put, if_neg fun hother => hplace hother.1, hnode]

/-- Every stack lists its part of the log, and every place of the log holds what it should. -/
structure Tracks (s : Session) (log : Log) : Prop where
  lists : ∀ name, Lists (s.stack name).commands (log name)
  holds : ∀ name, ∀ e ∈ log name, e.Holds s.graph

namespace Tracks

theorem empty : Tracks .empty fun _ => [] :=
  ⟨fun _ => .nil, fun _ _ he => absurd he List.not_mem_nil⟩

variable {s : Session} {log : Log}

/-- Stacks and log still agree after any step. -/
theorem step (h : Tracks s log) (step : Step) :
    Tracks (s.step step).2 (log.record (s.event step)) := by
  obtain ⟨fresh, hextends, hchanges⟩ := s.step_changes step
  generalize s.event step = event at hchanges ⊢
  generalize (s.step step).2 = next at hchanges ⊢
  -- the new nodes of the step come behind all places of the log
  have hfresh : ∀ name, ∀ e ∈ log name, e.Holds fresh :=
    fun name e he => (h.holds name e he).extends hextends
  cases event with
  | quiet =>
      obtain ⟨hgraph, hscripts⟩ := hchanges
      refine ⟨fun name => ?_, fun name e he => hgraph ▸ hfresh name e he⟩
      rw [Session.stack_eq_of_scripts hscripts]
      exact h.lists name
  | issued stack place command =>
      obtain ⟨rfl, hgraph, hscripts⟩ := hchanges
      constructor
      · intro name
        rw [Session.stack_eq_of_scripts hscripts, Session.stack_setStack, Log.record]
        split
        · exact (h.lists stack).append (.command ⟨fresh.size, command, []⟩ .nil)
        · exact h.lists name
      · have hold : ∀ name, ∀ e ∈ log name, e.Holds next.graph := by
          intro name e he
          rw [hgraph]
          exact (hfresh name e he).extends (.add fresh _)
        have hnew : Issued.Holds next.graph ⟨fresh.size, command, []⟩ := by
          rw [hgraph]
          refine ⟨by simp, ?_⟩
          rw [Graph.node_add, if_pos rfl, List.append_nil]
          rfl
        intro name e he
        rw [Log.record] at he
        split at he
        · rcases List.mem_append.mp he with he | he
          · exact hold stack e he
          · rwa [List.mem_singleton.mp he]
        · exact hold name e he
  | noted stack text =>
      obtain ⟨hgraph, hscripts⟩ := hchanges
      refine ⟨fun name => ?_, fun name e he => hgraph ▸ hfresh name e he⟩
      rw [Session.stack_eq_of_scripts hscripts, Session.stack_setStack, Log.record]
      split
      · next hname =>
        subst hname
        have hlists := (h.lists name).append (.comment text .nil)
        rwa [List.append_nil] at hlists
      · exact h.lists name
  | copied source target =>
      obtain ⟨hgraph, hscripts⟩ := hchanges
      constructor
      · intro name
        rw [Session.stack_eq_of_scripts hscripts, Session.stack_setStack, Log.record]
        split
        · exact h.lists source
        · exact h.lists name
      · intro name e he
        rw [Log.record] at he
        rw [hgraph]
        split at he
        · exact hfresh source e he
        · exact hfresh name e he
  | attached receiver child =>
      obtain ⟨hattach, hscripts⟩ := hchanges
      constructor
      · intro name
        rw [Session.stack_eq_of_scripts hscripts]
        exact (h.lists name).take receiver child
      · intro name e he
        obtain ⟨old, hold, rfl⟩ := List.mem_map.mp he
        exact (hfresh name old hold).take hattach

theorem run (h : Tracks s log) (steps : List Step) :
    Tracks (s.run steps).2 (s.logFrom log steps) := by
  induction steps generalizing s log with
  | nil => exact h
  | cons first rest ih => exact ih (h.step first)

end Tracks

/-! ## What a command says -/

theorem Tree.sexprsAll_append : ∀ ts us : List Tree,
    sexprsAll (ts ++ us) = sexprsAll ts ++ sexprsAll us
  | [], _ => rfl
  | t :: ts, us => by
      rw [List.cons_append, sexprsAll, sexprsAll, sexprsAll_append ts us, List.append_assoc]

namespace Command

/-- The terms of the command unfold to trees. -/
inductive Unfolds (g : Graph) : Command Term → Command Tree → Prop
  | setLogic {t : Term} {logic : Tree} (h : g.Unfolds t logic) :
      Unfolds g (.setLogic t) (.setLogic logic)
  | checkSat : Unfolds g .checkSat .checkSat
  | getModel : Unfolds g .getModel .getModel
  | exit : Unfolds g .exit .exit
  | assert {t : Term} {term : Tree} (h : g.Unfolds t term) : Unfolds g (.assert t) (.assert term)
  | maximize {t : Term} {term : Tree} (h : g.Unfolds t term) :
      Unfolds g (.maximize t) (.maximize term)
  | declareConst {name : String} {t : Term} {sort : Tree} (h : g.Unfolds t sort) :
      Unfolds g (.declareConst name t) (.declareConst name sort)
  | declareFun {name : String} {ts : List Term} {t : Term} {params : List Tree} {result : Tree}
      (hparams : g.UnfoldsAll ts params) (hresult : g.Unfolds t result) :
      Unfolds g (.declareFun name ts t) (.declareFun name params result)

/-- The head of a command and what its arguments say. -/
def sexprs : Command Tree → List SExpr
  | .setLogic logic => .symbol "set-logic".toList :: logic.sexprs
  | .checkSat => [.symbol "check-sat".toList]
  | .getModel => [.symbol "get-model".toList]
  | .exit => [.symbol "exit".toList]
  | .assert term => .symbol "assert".toList :: term.sexprs
  | .maximize term => .symbol "maximize".toList :: term.sexprs
  | .declareConst name sort =>
      .symbol "declare-const".toList :: .symbol name.toList :: sort.sexprs
  | .declareFun name params result =>
      .symbol "declare-fun".toList :: .symbol name.toList :: .list (Tree.sexprsAll params)
        :: result.sexprs

/-- The form of a command says what the command says. -/
theorem exists_unfolds {g : Graph} (c : Command Term) {trees : List Tree}
    (h : g.UnfoldsAll c.args trees) :
    ∃ tree, c.Unfolds g tree ∧ tree.sexprs = .symbol c.head.toList :: Tree.sexprsAll trees := by
  cases c with
  | checkSat | getModel | exit =>
      cases h
      exact ⟨_, by constructor, rfl⟩
  | setLogic t =>
      obtain ⟨logic, _, rfl, hlogic, ⟨⟩⟩ := h.of_cons
      exact ⟨.setLogic logic, .setLogic hlogic, by simp [sexprs, head, logicHead, Tree.sexprsAll]⟩
  | assert t =>
      obtain ⟨term, _, rfl, hterm, ⟨⟩⟩ := h.of_cons
      exact ⟨.assert term, .assert hterm, by simp [sexprs, head, Tree.sexprsAll]⟩
  | maximize t =>
      obtain ⟨term, _, rfl, hterm, ⟨⟩⟩ := h.of_cons
      exact ⟨.maximize term, .maximize hterm, by simp [sexprs, head, Tree.sexprsAll]⟩
  | declareConst name t =>
      obtain ⟨_, _, rfl, ⟨⟩, hrest⟩ := h.of_cons
      obtain ⟨sort, _, rfl, hsort, ⟨⟩⟩ := hrest.of_cons
      refine ⟨.declareConst name sort, .declareConst hsort, ?_⟩
      simp [sexprs, head, Tree.sexprsAll, Tree.sexprs]
  | declareFun name ts t =>
      obtain ⟨_, _, rfl, ⟨⟩, hrest⟩ := h.of_cons
      obtain ⟨_, _, rfl, hlist, hlast⟩ := hrest.of_cons
      obtain ⟨result, _, rfl, hresult, ⟨⟩⟩ := hlast.of_cons
      cases hlist with
      | @list _ params hparams =>
          refine ⟨.declareFun name params result, .declareFun hparams hresult, ?_⟩
          simp [sexprs, head, Tree.sexprsAll, Tree.sexprs]

end Command

/-- The s-expression of an issued command, as the graph stands: its head, its arguments and what
its form took since. -/
def Issued.Says (g : Graph) (e : Issued) (expr : SExpr) : Prop :=
  ∃ command grown, e.command.Unfolds g command ∧ g.UnfoldsAll e.grown grown ∧
    expr = .list (command.sexprs ++ Tree.sexprsAll grown)

/-- The tree at the place is a form that says what the command says. -/
theorem Issued.Holds.says {g : Graph} {e : Issued} (h : e.Holds g) {tree : Tree}
    (htree : g.Unfolds (.node e.place) tree) :
    ∃ name children expr, tree = .form name children ∧ tree.sexprs = [expr] ∧ e.Says g expr := by
  cases htree with
  | form hnode hchildren =>
      rw [h.2] at hnode
      cases hnode
      obtain ⟨args, grown, rfl, hargs, hgrown⟩ := hchildren.of_append
      obtain ⟨command, hcommand, hsexprs⟩ := e.command.exists_unfolds hargs
      refine ⟨_, _, _, rfl, rfl, command, grown, hcommand, hgrown, ?_⟩
      rw [hsexprs, Tree.sexprsAll_append, List.cons_append]
  | stub hnode | emptyExpr hnode | expr hnode => rw [h.2] at hnode; cases hnode

/-! ## Lines -/

namespace SExpr

/-- Behind the text a new line begins, outside of every list, and the s-expressions were read. -/
structure AtLine (text : Text) (es : List SExpr) : Prop where
  reads : Reading.start.steps (· == '\n') text = some ⟨[], es, .none⟩
  line : text = [] ∨ text.getLast? = some '\n'

/-- The s-expression is read from lines of its own, which begin with its parenthesis and stand
outside of every list, behind those that are read before. -/
def OnOwnLines (text : Text) (before : List SExpr) (e : SExpr) : Prop :=
  ∃ pre own rest, text = pre ++ '(' :: own ++ '\n' :: rest ∧ AtLine pre before ∧
    AtLine (pre ++ '(' :: own ++ ['\n']) (before ++ [e])

theorem AtLine.start : AtLine [] [] :=
  ⟨rfl, .inl rfl⟩

theorem AtLine.append {text block : Text} {es new : List SExpr} (h : AtLine text es)
    (hblock : Reading.steps (· == '\n') ⟨[], es, .none⟩ (block ++ ['\n'])
      = some ⟨[], es ++ new, .none⟩) : AtLine (text ++ block ++ ['\n']) (es ++ new) := by
  constructor
  · rw [List.append_assoc, Reading.steps_append, h.reads]
    exact hblock
  · exact .inr (List.getLast?_concat ..)

theorem AtLine.read {text : Text} {es : List SExpr} (h : AtLine text es) : read text = some es := by
  rw [SExpr.read, readWith, h.reads]
  rfl

/-- A comment between two commands is nothing, whatever its text. -/
theorem AtLine.comment {text : Text} {es : List SExpr} (h : AtLine text es) (note : String) :
    AtLine (text ++ Layout.comment 0 ⟨note, false⟩ ++ ['\n']) es := by
  have hblock : Reading.steps (· == '\n') ⟨[], es, .none⟩
      (Layout.comment 0 ⟨note, false⟩ ++ ['\n']) = some ⟨[], es ++ [], .none⟩ := by
    have hkeeps : Keeps (· == '\n') note.toList := fun hcr => absurd hcr (by decide)
    rw [Reading.steps_append]
    show (Reading.steps _ _ (Layout.commentLines note.toList)).bind _ = _
    rw [Reading.steps_commentLines endsAtLines_lf hkeeps, Option.bind_some, Reading.steps_cons,
      Reading.step_comment_end endsAtLines_lf, List.append_nil]
    rfl
  simpa using h.append hblock

theorem AtLine.expr {text line : Text} {es : List SExpr} {e : SExpr} (h : AtLine text es)
    (hline : Reads (· == '\n') line [e]) : AtLine (text ++ line ++ ['\n']) (es ++ [e]) := by
  apply h.append
  obtain ⟨r, hr, hflush⟩ := hline [] es
  rw [Reading.steps_append, hr, Option.bind_some, Reading.steps_cons,
    Reading.step_blank hflush (by decide)]
  rfl

theorem exists_form_eq_cons (mode : Layout.Mode) (depth : Nat) (name : Text)
    (children : List Text) : ∃ own, Layout.form mode depth name children = '(' :: own := by
  rw [Layout.form.eq_def]
  repeat' split
  all_goals exact ⟨_, rfl⟩

end SExpr

/-! ## Reading a stack -/

theorem Stack.renderAll_cons {g : Graph} {t : Term} {ts : List Term} {text : Text}
    (h : renderAll g (t :: ts) = .ok text) :
    ∃ first rest, g.render t 0 .auto = .ok first ∧ renderAll g ts = .ok rest ∧
      text = first ++ '\n' :: rest := by
  simp only [renderAll, bind_eq_ok_iff, pure_eq_ok_iff] at h
  obtain ⟨first, hfirst, rest, hrest, heq⟩ := h
  exact ⟨first, rest, hfirst, hrest, heq⟩

/-- The text of a command, read at the beginning of a line. -/
theorem Issued.Holds.reads {g : Graph} {e : Issued} (h : e.Holds g) (hg : g.All Piece.IsClean)
    {text : Text} (htext : g.render (.node e.place) 0 .auto = .ok text) :
    ∃ own expr, text = '(' :: own ∧ e.Says g expr ∧ SExpr.Reads (· == '\n') text [expr] := by
  obtain ⟨tree, htree⟩ := Graph.exists_unfolds_of_render htext
  have hclean : tree.IsClean :=
    htree.all hg trivial trivial fun _ hp => absurd hp List.not_mem_nil
  obtain ⟨name, children, expr, rfl, hsexprs, hsays⟩ := h.says htree
  have hrender : Tree.render 0 .auto (.form name children) = .ok text := by
    rwa [htree.render, mapError_eq_ok_iff] at htext
  obtain ⟨texts, htexts, heq⟩ := Tree.render_form_eq_ok_iff.mp hrender
  obtain ⟨own, hown⟩ := SExpr.exists_form_eq_cons .auto 0 name.toList texts
  refine ⟨own, expr, heq.trans hown, hsays, ?_⟩
  rw [← hsexprs]
  exact SExpr.reads_render SExpr.endsAtLines_lf _ hclean (SExpr.keepsAll_lf _) 0 .auto text hrender

namespace Lists

/-- The induction is on the commands. Behind those that were read already a new line begins, and so
it does behind each further one. -/
theorem read {g : Graph} (hg : g.All Piece.IsClean) {ts : List Term} {es : List Issued}
    (h : Lists ts es) (hholds : ∀ e ∈ es, e.Holds g) : ∀ {text done : Text} {read : List SExpr},
      Stack.renderAll g ts = .ok text → SExpr.AtLine done read →
        ∃ exprs, List.Forall₂ (Issued.Says g) es exprs ∧
          SExpr.AtLine (done ++ text) (read ++ exprs) ∧
          ∀ before e after, exprs = before ++ e :: after →
            SExpr.OnOwnLines (done ++ text) (read ++ before) e := by
  induction h with
  | nil =>
      intro text done read htext hdone
      cases htext
      refine ⟨[], .nil, by simpa using hdone, ?_⟩
      intro before e after heq
      simp at heq
  | @command ts es e _ ih =>
      intro text done read htext hdone
      rw [List.forall_mem_cons] at hholds
      obtain ⟨first, rest, hfirst, hrest, rfl⟩ := Stack.renderAll_cons htext
      obtain ⟨own, expr, rfl, hsays, hreads⟩ := hholds.1.reads hg hfirst
      have hnext := hdone.expr hreads
      obtain ⟨exprs, hall, hlast, hlines⟩ := ih hholds.2 hrest hnext
      have htext : done ++ '(' :: own ++ ['\n'] ++ rest = done ++ ('(' :: own ++ '\n' :: rest) := by
        simp
      rw [htext, List.append_assoc] at hlast
      rw [htext] at hlines
      refine ⟨expr :: exprs, .cons hsays hall, hlast, ?_⟩
      intro before e after heq
      cases before with
      | nil =>
          cases heq
          refine ⟨done, own, rest, by simp, by simpa using hdone, by simpa using hnext⟩
      | cons head before =>
          cases heq
          have := hlines before e after rfl
          rwa [List.append_assoc] at this
  | @comment ts es note _ ih =>
      intro text done read htext hdone
      obtain ⟨first, rest, hfirst, hrest, rfl⟩ := Stack.renderAll_cons htext
      cases hfirst
      obtain ⟨exprs, hall, hlast, hlines⟩ := ih hholds hrest (hdone.comment note)
      rw [List.append_assoc, List.append_assoc] at hlast hlines
      exact ⟨exprs, hall, hlast, hlines⟩

end Lists

/-- Names and atoms of the step are clean, its strings contain no quote, and the comments inside of
terms are spaced. A comment between commands may have any text. -/
def Step.IsClean (step : Step) : Prop :=
  ∀ p ∈ step.pieces, p.IsClean

instance (step : Step) : Decidable step.IsClean :=
  inferInstanceAs (Decidable (∀ p ∈ step.pieces, p.IsClean))

namespace Session

/-- **A script decodes to the calls that built it.** After any run of clean steps, failed ones and
attachments through aliases included, the text of a stack, if it has one, is read as exactly the
commands that were issued on it, in order, with their arguments as they stand now. Each of them
begins a line outside of all parentheses. -/
theorem read_script {steps : List Step} (hclean : ∀ step ∈ steps, step.IsClean) (name : String)
    {text : String}
    (htext : ((empty.run steps).2.stack name).serialize (empty.run steps).2.graph = .ok text) :
    ∃ exprs, List.Forall₂ (Issued.Says (empty.run steps).2.graph) (log steps name) exprs ∧
      SExpr.read text.toList = some exprs ∧
      ∀ before e after, exprs = before ++ e :: after → SExpr.OnOwnLines text.toList before e := by
  have htracks := Tracks.empty.run steps
  have hg : (empty.run steps).2.graph.All Piece.IsClean := (all_empty.run hclean).graph
  have hrender : Stack.renderAll (empty.run steps).2.graph
      ((empty.run steps).2.stack name).commands = .ok text.toList := by
    rw [Stack.serialize, map_eq_ok_iff] at htext
    obtain ⟨own, hown, rfl⟩ := htext
    rwa [String.toList_ofList]
  obtain ⟨exprs, hall, hlast, hlines⟩ :=
    (htracks.lists name).read hg (htracks.holds name) hrender .start
  exact ⟨exprs, hall, hlast.read, hlines⟩

/-- A script with comments that look like code, a second logic that is refused, and forms that take
children after they were asserted: one inside of the assertion, one in the assertion itself. -/
def deferred : List Step :=
  [.comment "main" "(check-sat)\n(exit)",
    .issue "main" (.setLogic (.atom "QF_LIA")) none,
    .issue "main" (.setLogic (.atom "ALL")) none,
    .issue "main" (.declareFun "f" [.sort .int, .sort .int] (.sort .bool)) (some "f"),
    .store (.form (some "or") [.comment ⟨"none (yet", true⟩]) (some "or"),
    .issue "main" (.assert (.expr (.ref "or"))) none,
    .attach "or" (.str "a; b"),
    .fetch "main" 3 (some "assertion"),
    .attach "assertion" (.list [.atom "x"]),
    .issue "main" .checkSat none]

def deferredText : String :=
  "; (check-sat)\n; (exit)\n(set-logic QF_LIA)\n(declare-fun f (Int Int) Bool)\n"
    ++ "(assert (or \n    ; none (yet\n    \"a; b\") (x))\n(check-sat)\n"

theorem read_deferred : (∀ step ∈ deferred, step.IsClean) ∧
    ∃ exprs, List.Forall₂ (Issued.Says (empty.run deferred).2.graph) (log deferred "main") exprs ∧
      SExpr.read deferredText.toList = some exprs := by
  have hclean : ∀ step ∈ deferred, step.IsClean := by decide
  have htext : ((empty.run deferred).2.stack "main").serialize (empty.run deferred).2.graph
      = .ok deferredText := by decide +kernel
  obtain ⟨exprs, hall, hread, -⟩ := read_script hclean "main" htext
  exact ⟨hclean, exprs, hall, hread⟩

end Session

end SmtScript
