import SmtScript.Proofs.Run
import SmtScript.Proofs.Unfolding

/-!
# Where the pieces of a script come from

Sessions make up nothing: every atom, string, comment and name in the nodes and handles of a
session was brought there by one of its steps. So what holds of all pieces that the steps bring
holds of the tree of every term, at any moment of the run. The comments between commands are not
pieces of any term and are left out.
-/

namespace SmtScript

/-! ## The pieces of what is not a tree -/

mutual

def Term.pieces : Term → List Piece
  | .atom text => [.atom text]
  | .str content => [.str content]
  | .list items => Term.piecesAll items
  | .comment c => [.comment c]
  | .node _ => []

def Term.piecesAll : List Term → List Piece
  | [] => []
  | t :: ts => t.pieces ++ Term.piecesAll ts

end

/-- What a node itself holds. A stub and an empty expression hold nothing. -/
def Node.pieces : Node → List Piece
  | .form name children => (name.map .name).toList ++ Term.piecesAll children
  | .expr content => Term.piecesAll content.toList

/-- A declared symbol stands for itself as an atom and names its applications. -/
def Handle.pieces : Handle → List Piece
  | .term t => t.pieces
  | .declared d => [.atom d.name, .name d.name]

mutual

/-- The pieces that building a draft brings. Those of a handle are there already. -/
def Draft.pieces : Draft → List Piece
  | .atom text => [.atom text]
  | .sort s => [.atom s.name]
  | .num n => [.atom n.text]
  | .str content => [.str content]
  | .list items => Draft.piecesAll items
  | .comment c => [.comment c]
  | .form name args => (name.map .name).toList ++ Draft.piecesAll args
  | .emptyExpr => []
  | .expr content => content.pieces
  | .ref _ => []

def Draft.piecesAll : List Draft → List Piece
  | [] => []
  | d :: ds => d.pieces ++ Draft.piecesAll ds

end

/-- The pieces of the arguments of a command. -/
def Command.pieces : Command Draft → List Piece
  | .setLogic logic => logic.pieces
  | .checkSat | .getModel | .exit => []
  | .assert term | .maximize term => term.pieces
  | .declareConst name sort => .atom name :: sort.pieces
  | .declareFun name params result =>
      .atom name :: .name name :: (Draft.piecesAll params ++ result.pieces)

/-- The pieces that a step brings, apart from the comments between commands. -/
def Step.pieces : Step → List Piece
  | .issue _ command _ => .name command.head :: command.pieces
  | .store term _ => term.pieces
  | .attach _ child => child.pieces
  | .annotate _ text _ => [.comment ⟨text, true⟩]
  | .construct _ c args _ => .name c.name :: Draft.piecesAll args
  | .apply _ args _ _ => Draft.piecesAll args
  | _ => []

variable {P : Piece → Prop}

theorem Term.piecesAll_append : ∀ ts us : List Term,
    piecesAll (ts ++ us) = piecesAll ts ++ piecesAll us
  | [], _ => rfl
  | t :: ts, us => by
      rw [List.cons_append, piecesAll, piecesAll, piecesAll_append ts us, List.append_assoc]

/-- A node that took a child holds the pieces of the child too. -/
theorem Node.pieces_attach {n grown : Node} {child : Term} (h : n.attach child = .ok grown) :
    grown.pieces = n.pieces ++ child.pieces := by
  cases n with
  | form name children =>
      cases h
      simp only [pieces, Term.piecesAll_append, Term.piecesAll, List.append_nil, List.append_assoc]
  | expr content =>
      cases content with
      | none => cases h; simp [pieces, Term.piecesAll]
      | some content => cases h

/-! ## Graphs -/

namespace Graph

/-- Every piece of every node is a `P`. -/
def All (P : Piece → Prop) (g : Graph) : Prop :=
  ∀ id, ∀ p ∈ (g.node id).pieces, P p

theorem all_empty : empty.All P := by
  intro id p hp
  rw [node_eq_stub (Nat.zero_le id)] at hp
  cases hp

variable {g : Graph}

theorem All.add (h : g.All P) {n : Node} (hn : ∀ p ∈ n.pieces, P p) : (g.add n).2.All P := by
  intro id p hp
  rw [node_add] at hp
  split at hp
  · exact hn p hp
  · exact h id p hp

theorem All.attach (h : g.All P) {grown : Graph} {id : NodeId} {child : Term}
    (hattach : g.attach id child = .ok grown) (hchild : ∀ p ∈ child.pieces, P p) :
    grown.All P := by
  obtain ⟨n, hn, rfl⟩ := attach_ok hattach
  intro other p hp
  rw [node_put] at hp
  split at hp
  · rw [Node.pieces_attach hn, List.mem_append] at hp
    exact hp.elim (h id p) (hchild p)
  · exact h other p hp

/-! ### Trees -/

mutual

/-- The pieces of the tree are those of the term and of the nodes below it. -/
theorem Unfolds.all (hg : g.All P) (hstub : P .stub) (hempty : P .emptyExpr) {t : Term}
    {tree : Tree} (h : g.Unfolds t tree) (ht : ∀ p ∈ t.pieces, P p) : ∀ p ∈ tree.pieces, P p := by
  cases h with
  | atom text => exact ht
  | str content => exact ht
  | list h => exact h.all hg hstub hempty ht
  | comment c => exact ht
  | @stub id children trees hnode h =>
      have hid := hg id
      rw [hnode] at hid
      rw [Tree.pieces, List.forall_mem_cons]
      exact ⟨hstub, h.all hg hstub hempty hid⟩
  | @form id name children trees hnode h =>
      have hid := hg id
      rw [hnode, Node.pieces, List.forall_mem_append] at hid
      rw [Tree.pieces, List.forall_mem_cons]
      exact ⟨hid.1 _ List.mem_cons_self, h.all hg hstub hempty hid.2⟩
  | emptyExpr hnode => exact List.forall_mem_singleton.mpr hempty
  | @expr id content tree hnode h =>
      have hid := hg id
      rw [hnode] at hid
      exact h.all hg hstub hempty (by simpa [Node.pieces, Term.piecesAll] using hid)

theorem UnfoldsAll.all (hg : g.All P) (hstub : P .stub) (hempty : P .emptyExpr) {ts : List Term}
    {trees : List Tree} (h : g.UnfoldsAll ts trees) (hts : ∀ p ∈ Term.piecesAll ts, P p) :
    ∀ p ∈ Tree.piecesAll trees, P p := by
  cases h with
  | nil => exact hts
  | cons first rest =>
      rw [Term.piecesAll, List.forall_mem_append] at hts
      rw [Tree.piecesAll, List.forall_mem_append]
      exact ⟨first.all hg hstub hempty hts.1, rest.all hg hstub hempty hts.2⟩

end

end Graph

/-! ## Building -/

namespace Draft

variable {lookup : String → Option Term}

mutual

theorem build_all (hlookup : ∀ name t, lookup name = some t → ∀ p ∈ t.pieces, P p) :
    ∀ {g grown : Graph} {d : Draft} {t : Term}, d.build lookup g = some (t, grown) → g.All P →
      (∀ p ∈ d.pieces, P p) → (∀ p ∈ t.pieces, P p) ∧ grown.All P
  | g, _, .atom _, _, h, hg, hd => by cases h; exact ⟨hd, hg⟩
  | g, _, .sort _, _, h, hg, hd => by cases h; exact ⟨hd, hg⟩
  | g, _, .num _, _, h, hg, hd => by cases h; exact ⟨hd, hg⟩
  | g, _, .str _, _, h, hg, hd => by cases h; exact ⟨hd, hg⟩
  | g, _, .list items, _, h, hg, hd => by
      obtain ⟨ts, hitems, rfl⟩ := build_list_ok h
      exact buildAll_all hlookup hitems hg hd
  | g, _, .comment _, _, h, hg, hd => by cases h; exact ⟨hd, hg⟩
  | g, _, .form name args, _, h, hg, hd => by
      obtain ⟨ts, g₁, hargs, rfl, rfl⟩ := build_form_ok h
      rw [pieces, List.forall_mem_append] at hd
      obtain ⟨hterms, hgrown⟩ := buildAll_all hlookup hargs hg hd.2
      exact ⟨fun _ hp => absurd hp List.not_mem_nil,
        hgrown.add (List.forall_mem_append.mpr ⟨hd.1, hterms⟩)⟩
  | g, _, .emptyExpr, _, h, hg, hd => by
      cases h
      exact ⟨fun _ hp => absurd hp List.not_mem_nil, hg.add hd⟩
  | g, _, .expr content, _, h, hg, hd => by
      obtain ⟨u, g₁, hcontent, rfl, rfl⟩ := build_expr_ok h
      obtain ⟨hterm, hgrown⟩ := build_all hlookup hcontent hg hd
      refine ⟨fun _ hp => absurd hp List.not_mem_nil, hgrown.add ?_⟩
      simpa [Node.pieces, Term.piecesAll] using hterm
  | g, _, .ref handle, _, h, hg, _ => by
      obtain ⟨ht, rfl⟩ := build_ref_ok h
      exact ⟨hlookup handle _ ht, hg⟩

theorem buildAll_all (hlookup : ∀ name t, lookup name = some t → ∀ p ∈ t.pieces, P p) :
    ∀ {g grown : Graph} {ds : List Draft} {ts : List Term},
      buildAll lookup g ds = some (ts, grown) → g.All P → (∀ p ∈ piecesAll ds, P p) →
        (∀ p ∈ Term.piecesAll ts, P p) ∧ grown.All P
  | g, _, [], _, h, hg, hds => by cases h; exact ⟨hds, hg⟩
  | g, _, d :: ds, _, h, hg, hds => by
      obtain ⟨t, us, g₁, hfirst, hrest, rfl⟩ := buildAll_cons_ok h
      rw [piecesAll, List.forall_mem_append] at hds
      obtain ⟨hterm, hg₁⟩ := build_all hlookup hfirst hg hds.1
      obtain ⟨hterms, hg₂⟩ := buildAll_all hlookup hrest hg₁ hds.2
      rw [Term.piecesAll, List.forall_mem_append]
      exact ⟨⟨hterm, hterms⟩, hg₂⟩

end

end Draft

/-! ## Sessions -/

namespace Session

/-- Every piece of every node and of every handle is a `P`. -/
structure All (P : Piece → Prop) (s : Session) : Prop where
  graph : s.graph.All P
  handle : ∀ name h, s.handle? name = some h → ∀ p ∈ h.pieces, P p

variable {s : Session}

theorem all_empty : empty.All P :=
  ⟨Graph.all_empty, fun _ _ h => by cases h⟩

namespace All

theorem term? (h : s.All P) {name : String} {t : Term} (ht : s.term? name = some t) :
    ∀ p ∈ t.pieces, P p := by
  rw [Session.term?, Option.bind_eq_some_iff] at ht
  obtain ⟨handle, hhandle, ht⟩ := ht
  have hpieces := h.handle name handle hhandle
  cases handle with
  | term u => cases ht; exact hpieces
  | declared d =>
      cases d with
      | const own =>
          cases ht
          rw [Handle.pieces, List.forall_mem_cons] at hpieces
          exact List.forall_mem_singleton.mpr hpieces.1
      | function f => cases ht

theorem build (h : s.All P) {d : Draft} {t : Term} {g : Graph} (hbuilt : s.build d = some (t, g))
    (hd : ∀ p ∈ d.pieces, P p) : (∀ p ∈ t.pieces, P p) ∧ g.All P :=
  Draft.build_all (fun _ _ => h.term?) hbuilt h.graph hd

theorem buildAll (h : s.All P) {ds : List Draft} {ts : List Term} {g : Graph}
    (hbuilt : s.buildAll ds = some (ts, g)) (hds : ∀ p ∈ Draft.piecesAll ds, P p) :
    (∀ p ∈ Term.piecesAll ts, P p) ∧ g.All P :=
  Draft.buildAll_all (fun _ _ => h.term?) hbuilt h.graph hds

theorem remember (h : s.All P) (name? : Option String) {handle : Handle}
    (hhandle : ∀ p ∈ handle.pieces, P p) : (s.remember name? handle).All P := by
  cases name? with
  | none => exact h
  | some name =>
      refine ⟨h.graph, fun other found hfound => ?_⟩
      rw [Session.remember, handle?, List.lookup_cons] at hfound
      split at hfound
      · cases hfound; exact hhandle
      · exact h.handle other found hfound

theorem set_graph (h : s.All P) {g : Graph} (hg : g.All P) : All P { s with graph := g } :=
  ⟨hg, h.handle⟩

/-- The form of a command holds the pieces of its draft. -/
theorem buildCommand (h : s.All P) {command : Command Draft} {built : Command Term} {g : Graph}
    (hbuilt : s.buildCommand command = some (built, g)) (hhead : P (.name command.head))
    (hpieces : ∀ p ∈ command.pieces, P p) :
    (∀ p ∈ built.node.pieces, P p) ∧ g.All P ∧
      ∀ handle, declares built = some handle → ∀ p ∈ handle.pieces, P p := by
  have hnode : ∀ {name : String} {args : List Term}, P (.name name) →
      (∀ p ∈ Term.piecesAll args, P p) → ∀ p ∈ (Node.form (some name) args).pieces, P p :=
    fun hname hargs => List.forall_mem_cons.mpr ⟨hname, hargs⟩
  cases command with
  | checkSat | getModel | exit =>
      cases hbuilt
      exact ⟨hnode hhead hpieces, h.graph, fun _ hdeclares => by cases hdeclares⟩
  | setLogic d | assert d | maximize d =>
      rw [Session.buildCommand, Option.map_eq_some_iff] at hbuilt
      obtain ⟨⟨t, grown⟩, hd, heq⟩ := hbuilt
      cases heq
      obtain ⟨ht, hg⟩ := h.build hd hpieces
      refine ⟨hnode hhead ?_, hg, fun _ hdeclares => by cases hdeclares⟩
      rw [Command.args, Term.piecesAll, Term.piecesAll, List.append_nil]
      exact ht
  | declareConst name d =>
      rw [Session.buildCommand, Option.map_eq_some_iff] at hbuilt
      obtain ⟨⟨t, grown⟩, hd, heq⟩ := hbuilt
      cases heq
      rw [Command.pieces, List.forall_mem_cons] at hpieces
      obtain ⟨ht, hg⟩ := h.build hd hpieces.2
      refine ⟨hnode hhead ?_, hg, ?_⟩
      · simp only [Command.args, Term.piecesAll, Term.pieces, List.append_nil,
          List.singleton_append, List.forall_mem_cons]
        exact ⟨hpieces.1, ht⟩
      · intro handle hdeclares
        cases hdeclares
        exact List.forall_mem_singleton.mpr hpieces.1
  | declareFun name params result =>
      obtain ⟨ts, g₁, t, hparams, hresult, rfl⟩ := buildCommand_declareFun_ok hbuilt
      simp only [Command.pieces, List.forall_mem_cons, List.forall_mem_append] at hpieces
      obtain ⟨hatom, hname, hparamPieces, hresultPieces⟩ := hpieces
      obtain ⟨hts, hg₁⟩ := h.buildAll hparams hparamPieces
      obtain ⟨ht, hg₂⟩ := Draft.build_all (fun _ _ => h.term?) hresult hg₁ hresultPieces
      refine ⟨hnode hhead ?_, hg₂, ?_⟩
      · simp only [Command.args, Term.piecesAll, Term.pieces, List.append_nil,
          List.singleton_append, List.forall_mem_cons, List.forall_mem_append]
        exact ⟨hatom, hts, ht⟩
      · intro handle hdeclares
        cases hdeclares
        -- a constant and a function have the same name, which is an atom here and a name there
        have hown : (Declared.ofArity name ts.length).name = name := by
          unfold Declared.ofArity
          split <;> rfl
        rw [Handle.pieces, hown]
        exact List.forall_mem_cons.mpr ⟨hatom, List.forall_mem_singleton.mpr hname⟩

/-- An application holds its name and the pieces of its arguments. -/
theorem apply {d : Declared} {g grown : Graph} {args : List Term} {t : Term}
    (happly : d.apply g args = .ok (t, grown)) (hd : ∀ p ∈ (Handle.declared d).pieces, P p)
    (hg : g.All P) (hargs : ∀ p ∈ Term.piecesAll args, P p) :
    (∀ p ∈ t.pieces, P p) ∧ grown.All P := by
  simp only [Handle.pieces, List.forall_mem_cons] at hd
  obtain ⟨hatom, hname, -⟩ := hd
  cases d with
  | const name =>
      rw [Declared.apply] at happly
      split at happly
      · cases happly
        exact ⟨List.forall_mem_singleton.mpr hatom, hg⟩
      · cases happly
  | function f =>
      rw [Declared.apply, FunSymbol.apply] at happly
      split at happly
      · cases happly
        exact ⟨fun _ hp => absurd hp List.not_mem_nil,
          hg.add (List.forall_mem_cons.mpr ⟨hname, hargs⟩)⟩
      · cases happly

/-- A step brings its own pieces and no others. -/
theorem step (h : s.All P) {step : Step} (hstep : ∀ p ∈ step.pieces, P p) :
    (s.step step).2.All P := by
  cases step with
  | issue stack command into =>
      rcases s.issue_cases stack command into with ⟨e, he⟩ | ⟨built, g, answer, hbuilt, hissue⟩
      · rw [Session.step, he]; exact h
      · rw [Step.pieces, List.forall_mem_cons] at hstep
        obtain ⟨hnode, hg, hdeclares⟩ := h.buildCommand hbuilt hstep.1 hstep.2
        have hnext : All P ({ s with graph := (g.add built.node).2 }.setStack stack
            ((s.stack stack).push (.node g.size))) := ⟨hg.add hnode, h.handle⟩
        rw [Session.step, hissue]
        cases hhandle : declares built with
        | none => exact hnext
        | some handle => exact hnext.remember into (hdeclares handle hhandle)
  | comment stack text => exact ⟨h.graph, h.handle⟩
  | copyStack source target => exact ⟨h.graph, h.handle⟩
  | serialize | measure | listCommands | writeTo => exact h
  | fetch stack index into =>
      rw [Session.step]
      split
      · exact h.remember into fun _ hp => absurd hp List.not_mem_nil
      · exact h
  | store term into =>
      rw [Session.step]
      cases hbuilt : s.build term with
      | none => exact h
      | some pair =>
          obtain ⟨ht, hg⟩ := h.build hbuilt hstep
          exact (h.set_graph hg).remember into ht
  | attach receiver child =>
      rcases s.attach_cases receiver child with
        ⟨e, he⟩ | ⟨id, term, g, grown, answer, -, hbuilt, hattach, heq⟩
      · rw [Session.step, he]; exact h
      · obtain ⟨ht, hg⟩ := h.build hbuilt hstep
        rw [Session.step, heq]
        exact h.set_graph (hg.attach hattach ht)
  | annotate receiver text into =>
      rcases s.annotate_cases receiver text into with ⟨e, he⟩ | ⟨id, g, answer, -, hattach, heq⟩
      · rw [Session.step, he]; exact h
      · rw [Session.step, heq]
        exact (h.set_graph (h.graph.attach hattach hstep)).remember into hstep
  | construct receiver c args into =>
      rcases s.construct_cases receiver c args into with
        ⟨e, he⟩ | ⟨id, terms, g, grown, answer, -, hbuilt, hattach, heq⟩
      · rw [Session.step, he]; exact h
      · rw [Step.pieces, List.forall_mem_cons] at hstep
        obtain ⟨hterms, hg⟩ := h.buildAll hbuilt hstep.2
        have hform : ∀ p ∈ (Node.form (some c.name) terms).pieces, P p :=
          List.forall_mem_cons.mpr ⟨hstep.1, hterms⟩
        have hnode : ∀ p ∈ (Term.node g.size).pieces, P p :=
          fun _ hp => absurd hp List.not_mem_nil
        rw [Session.step, heq]
        exact (h.set_graph ((hg.add hform).attach hattach hnode)).remember into hnode
  | serializeTerm | describe | sameNode | isFormNamed | compare =>
      rw [Session.step]
      split <;> exact h
  | apply symbol args onlyFunction into =>
      rcases s.apply_cases symbol args onlyFunction into with
        ⟨e, he⟩ | ⟨answer, heq⟩ | ⟨d, terms, g, term, grown, answer, hhandle, hbuilt, happly, heq⟩
      · rw [Session.step, he]; exact h
      · rw [Session.step, heq]; exact h
      · obtain ⟨hterms, hg⟩ := h.buildAll hbuilt hstep
        obtain ⟨ht, hgrown⟩ := apply happly (h.handle symbol _ hhandle) hg hterms
        rw [Session.step, heq]
        exact (h.set_graph hgrown).remember into ht

theorem run (h : s.All P) {steps : List Step} (hsteps : ∀ step ∈ steps, ∀ p ∈ step.pieces, P p) :
    (s.run steps).2.All P := by
  induction steps generalizing s with
  | nil => exact h
  | cons first rest ih =>
      rw [List.forall_mem_cons] at hsteps
      exact ih (h.step hsteps.1) hsteps.2

end All

end Session

end SmtScript
