import SmtScript.Proofs.Renaming
import SmtScript.Proofs.Run

/-!
# Sessions that differ by identifiers answer alike

Two sessions run in lockstep. The second holds in its graph what the first holds, under other
identifiers, and perhaps more that nothing refers to. Whatever both do next, they give the same
answers, and afterwards they still differ by the same identifiers alone.
-/

namespace SmtScript

variable {f : NodeId → NodeId}

/-! ## Graphs -/

theorem Node.attach_rename (n : Node) (child : Term) :
    (n.rename f).attach (child.rename f) = (n.attach child).map (rename f) := by
  cases n with
  | form name children => simp [rename, attach, Except.map]
  | expr content => cases content <;> rfl

namespace Graph

/-- The second graph has what the first one has, under other identifiers, and perhaps more. New
nodes will get identifiers that correspond. -/
structure Embeds (f : NodeId → NodeId) (g g₂ : Graph) : Prop where
  injective : Function.Injective f
  fresh : ∀ k, f (g.size + k) = g₂.size + k
  size_le : g.size ≤ g₂.size
  node : ∀ id, g₂.node (f id) = (g.node id).rename f

variable {g g₂ : Graph}

namespace Embeds

theorem refl (g : Graph) : g.Embeds id g :=
  ⟨Function.injective_id, fun _ => rfl, Nat.le_refl _, fun id => by rw [Node.rename_id]; rfl⟩

theorem size (h : g.Embeds f g₂) : f g.size = g₂.size :=
  h.fresh 0

theorem lt_size_iff (h : g.Embeds f g₂) {id : NodeId} : f id < g₂.size ↔ id < g.size := by
  constructor
  · intro hlt
    by_contra hge
    obtain ⟨k, rfl⟩ := Nat.exists_eq_add_of_le (Nat.le_of_not_lt hge)
    rw [h.fresh] at hlt
    exact absurd hlt (Nat.not_lt.mpr (Nat.le_add_right _ k))
  · intro hlt
    by_contra hge
    obtain ⟨k, hk⟩ := Nat.exists_eq_add_of_le (Nat.le_of_not_lt hge)
    rw [← h.fresh] at hk
    have hid : id = g.size + k := h.injective hk
    subst hid
    exact absurd hlt (Nat.not_lt.mpr (Nat.le_add_right _ k))

theorem renames (h : g.Embeds f g₂) (t : Term) : Renames f g g₂ t :=
  fun id _ => h.node id

theorem serialize (h : g.Embeds f g₂) (t : Term) (depth : Nat) (mode : Layout.Mode) :
    g₂.serialize (t.rename f) depth mode = g.serialize t depth mode :=
  serialize_rename (h.renames t) h.size_le depth mode

theorem isFormNamed (h : g.Embeds f g₂) (name : String) (t : Term) :
    g₂.isFormNamed name (t.rename f) = g.isFormNamed name t := by
  cases t with
  | node id =>
      simp only [Term.rename, Graph.isFormNamed, h.node id]
      cases g.node id with
      | form own children => cases own <;> rfl
      | expr content => rfl
  | _ => rfl

theorem add (h : g.Embeds f g₂) (n : Node) :
    (g.add n).2.Embeds f (g₂.add (n.rename f)).2 := by
  refine ⟨h.injective, fun k => ?_, ?_, fun id => ?_⟩
  · rw [size_add, size_add, Nat.add_assoc, Nat.add_assoc]
    exact h.fresh (1 + k)
  · rw [size_add, size_add]
    exact Nat.succ_le_succ h.size_le
  · rw [node_add, node_add]
    have hnew : f id = g₂.size ↔ id = g.size := by rw [← h.size, h.injective.eq_iff]
    by_cases hid : id = g.size
    · rw [if_pos hid, if_pos (hnew.mpr hid)]
    · rw [if_neg hid, if_neg (hnew.not.mpr hid), h.node id]

theorem put (h : g.Embeds f g₂) (id : NodeId) (n : Node) :
    (g.put id n).Embeds f (g₂.put (f id) (n.rename f)) := by
  refine ⟨h.injective, fun k => ?_, ?_, fun other => ?_⟩
  · rw [size_put, size_put]
    exact h.fresh k
  · rw [size_put, size_put]
    exact h.size_le
  · have hsame : (f other = f id ∧ f id < g₂.size) ↔ (other = id ∧ id < g.size) := by
      rw [h.injective.eq_iff, h.lt_size_iff]
    rw [node_put, node_put]
    by_cases hput : other = id ∧ id < g.size
    · rw [if_pos hput, if_pos (hsame.mpr hput)]
    · rw [if_neg hput, if_neg (hsame.not.mpr hput), h.node other]

/-- A node takes a child in both graphs or in none. -/
theorem attach (h : g.Embeds f g₂) (id : NodeId) (child : Term) :
    (∃ e, g.attach id child = .error e ∧ g₂.attach (f id) (child.rename f) = .error e) ∨
    ∃ grown grown₂, g.attach id child = .ok grown ∧
      g₂.attach (f id) (child.rename f) = .ok grown₂ ∧ grown.Embeds f grown₂ := by
  simp only [Graph.attach, h.node id, Node.attach_rename]
  cases (g.node id).attach child with
  | error e => exact .inl ⟨e, rfl, rfl⟩
  | ok n => exact .inr ⟨_, _, rfl, rfl, h.put id n⟩

theorem construct (h : g.Embeds f g₂) (id : NodeId) (c : Connective) (args : List Term) :
    (∃ e, g.construct id c args = .error e ∧
      g₂.construct (f id) c (args.map (Term.rename f)) = .error e) ∨
    ∃ form grown grown₂, g.construct id c args = .ok (form, grown) ∧
      g₂.construct (f id) c (args.map (Term.rename f)) = .ok (f form, grown₂) ∧
      grown.Embeds f grown₂ := by
  have hadded := h.add (.form (some c.name) args)
  have hform : (Term.node g.size).rename f = .node g₂.size := by rw [Term.rename, h.size]
  simp only [Graph.construct, attachForm, add_fst]
  rcases hadded.attach id (.node g.size) with ⟨e, he, he₂⟩ | ⟨grown, grown₂, hok, hok₂, hgrown⟩
  · rw [hform] at he₂
    exact .inl ⟨e, by rw [he]; rfl, by rw [Node.rename] at he₂; rw [he₂]; rfl⟩
  · rw [hform] at hok₂
    refine .inr ⟨g.size, grown, grown₂, by rw [hok]; rfl, ?_, hgrown⟩
    rw [Node.rename] at hok₂
    rw [hok₂, h.size]
    rfl

end Embeds

end Graph

/-! ## Building -/

namespace Draft

variable {lookup lookup₂ : String → Option Term}

mutual

theorem build_embeds (hlookup : ∀ name, lookup₂ name = (lookup name).map (Term.rename f)) :
    ∀ {g g₂ : Graph} (d : Draft), g.Embeds f g₂ →
      (d.build lookup g = none ∧ d.build lookup₂ g₂ = none) ∨
      ∃ t grown grown₂, d.build lookup g = some (t, grown) ∧
        d.build lookup₂ g₂ = some (t.rename f, grown₂) ∧ grown.Embeds f grown₂
  | g, g₂, .atom _, h | g, g₂, .sort _, h | g, g₂, .num _, h | g, g₂, .str _, h
  | g, g₂, .comment _, h => .inr ⟨_, g, g₂, rfl, rfl, h⟩
  | g, g₂, .list items, h => by
      rcases buildAll_embeds hlookup items h with
        ⟨hnone, hnone₂⟩ | ⟨ts, grown, grown₂, hsome, hsome₂, hgrown⟩
      · exact .inl ⟨by rw [build, hnone], by rw [build, hnone₂]⟩
      · refine .inr ⟨.list ts, grown, grown₂, by rw [build, hsome], ?_, hgrown⟩
        rw [build, hsome₂, Term.rename_list]
  | g, g₂, .form name args, h => by
      rcases buildAll_embeds hlookup args h with
        ⟨hnone, hnone₂⟩ | ⟨ts, grown, grown₂, hsome, hsome₂, hgrown⟩
      · exact .inl ⟨by rw [build, hnone], by rw [build, hnone₂]⟩
      · refine .inr ⟨_, _, _, by rw [build, hsome], ?_, hgrown.add (.form name ts)⟩
        rw [build, hsome₂]
        simp only [Graph.add_fst, Term.rename, hgrown.size]
        rfl
  | g, g₂, .emptyExpr, h => by
      refine .inr ⟨_, _, _, rfl, ?_, h.add (.expr none)⟩
      simp only [build, Graph.add_fst, Term.rename, h.size]
      rfl
  | g, g₂, .expr content, h => by
      rcases build_embeds hlookup content h with
        ⟨hnone, hnone₂⟩ | ⟨t, grown, grown₂, hsome, hsome₂, hgrown⟩
      · exact .inl ⟨by rw [build, hnone], by rw [build, hnone₂]⟩
      · refine .inr ⟨_, _, _, by rw [build, hsome], ?_, hgrown.add (.expr (some t))⟩
        rw [build, hsome₂]
        simp only [Graph.add_fst, Term.rename, hgrown.size]
        rfl
  | g, g₂, .ref handle, h => by
      rw [build, build, hlookup handle]
      cases lookup handle with
      | none => exact .inl ⟨rfl, rfl⟩
      | some t => exact .inr ⟨t, g, g₂, rfl, rfl, h⟩

theorem buildAll_embeds (hlookup : ∀ name, lookup₂ name = (lookup name).map (Term.rename f)) :
    ∀ {g g₂ : Graph} (ds : List Draft), g.Embeds f g₂ →
      (buildAll lookup g ds = none ∧ buildAll lookup₂ g₂ ds = none) ∨
      ∃ ts grown grown₂, buildAll lookup g ds = some (ts, grown) ∧
        buildAll lookup₂ g₂ ds = some (ts.map (Term.rename f), grown₂) ∧ grown.Embeds f grown₂
  | g, g₂, [], h => .inr ⟨[], g, g₂, rfl, rfl, h⟩
  | g, g₂, d :: ds, h => by
      rcases build_embeds hlookup d h with
        ⟨hnone, hnone₂⟩ | ⟨t, g₁, g₃, hfirst, hfirst₂, hg₁⟩
      · exact .inl ⟨by rw [buildAll, hnone], by rw [buildAll, hnone₂]⟩
      · rcases buildAll_embeds hlookup ds hg₁ with
          ⟨hnone, hnone₂⟩ | ⟨ts, grown, grown₂, hrest, hrest₂, hgrown⟩
        · exact .inl ⟨by simp only [buildAll, hfirst, hnone],
            by simp only [buildAll, hfirst₂, hnone₂]⟩
        · exact .inr ⟨t :: ts, grown, grown₂, by simp only [buildAll, hfirst, hrest],
            by simp only [buildAll, hfirst₂, hrest₂, List.map_cons], hgrown⟩

end

end Draft

/-- An application succeeds in both graphs or in none. -/
theorem FunSymbol.apply_embeds {g g₂ : Graph} (symbol : FunSymbol) (h : g.Embeds f g₂)
    (args : List Term) :
    (∃ e, symbol.apply g args = .error e ∧ symbol.apply g₂ (args.map (Term.rename f)) = .error e) ∨
    ∃ t grown grown₂, symbol.apply g args = .ok (t, grown) ∧
      symbol.apply g₂ (args.map (Term.rename f)) = .ok (t.rename f, grown₂) ∧
      grown.Embeds f grown₂ := by
  simp only [apply, List.length_map, Graph.add_fst]
  by_cases harity : args.length = symbol.arity
  · refine .inr ⟨_, _, _, if_pos harity, ?_, h.add (.form (some symbol.name) args)⟩
    rw [if_pos harity, Term.rename, h.size]
    rfl
  · exact .inl ⟨_, if_neg harity, if_neg harity⟩

theorem Declared.apply_embeds {g g₂ : Graph} (symbol : Declared) (h : g.Embeds f g₂)
    (args : List Term) :
    (∃ e, symbol.apply g args = .error e ∧ symbol.apply g₂ (args.map (Term.rename f)) = .error e) ∨
    ∃ t grown grown₂, symbol.apply g args = .ok (t, grown) ∧
      symbol.apply g₂ (args.map (Term.rename f)) = .ok (t.rename f, grown₂) ∧
      grown.Embeds f grown₂ := by
  cases symbol with
  | const name =>
      simp only [apply, List.length_map]
      by_cases hnone : args.length = 0
      · exact .inr ⟨_, g, g₂, if_pos hnone, if_pos hnone, h⟩
      · exact .inl ⟨_, if_neg hnone, if_neg hnone⟩
  | function symbol => exact symbol.apply_embeds h args

/-! ## Sessions -/

def Command.rename (f : NodeId → NodeId) : Command Term → Command Term
  | .setLogic logic => .setLogic (logic.rename f)
  | .checkSat => .checkSat
  | .getModel => .getModel
  | .exit => .exit
  | .assert term => .assert (term.rename f)
  | .maximize term => .maximize (term.rename f)
  | .declareConst name sort => .declareConst name (sort.rename f)
  | .declareFun name params result =>
      .declareFun name (params.map (Term.rename f)) (result.rename f)

theorem Command.node_rename (c : Command Term) : (c.rename f).node = c.node.rename f := by
  cases c <;> simp [rename, node, head, args, Node.rename, Term.rename, Term.renameAll_eq_map]

theorem Command.namesLogic_rename (c : Command Term) :
    (c.rename f).namesLogic = c.namesLogic := by
  cases c <;> rfl

def Handle.rename (f : NodeId → NodeId) : Handle → Handle
  | .term t => .term (t.rename f)
  | .declared d => .declared d

theorem Handle.rename_congr {f₂ : NodeId → NodeId} {h : Handle}
    (hterm : ∀ t, h = .term t → t.rename f = t.rename f₂) : h.rename f = h.rename f₂ := by
  cases h with
  | term t => rw [rename, rename, hterm t rfl]
  | declared d => rfl

@[simp] theorem Handle.rename_id (h : Handle) : h.rename id = h := by
  cases h with
  | term t => rw [rename, Term.rename_id]
  | declared d => rfl

theorem Handle.term?_rename (h : Handle) : (h.rename f).term? = h.term?.map (Term.rename f) := by
  cases h with
  | term t => rfl
  | declared d => cases d <;> rfl

namespace Session

/-- The second session holds under other identifiers what the first one holds, and perhaps nodes
that none of its stacks and handles refers to. -/
structure Embeds (f : NodeId → NodeId) (s s₂ : Session) : Prop where
  graph : s.graph.Embeds f s₂.graph
  commands : ∀ name, (s₂.stack name).commands = (s.stack name).commands.map (Term.rename f)
  handle : ∀ name, s₂.handle? name = (s.handle? name).map (Handle.rename f)

/-- The same answer, and sessions that are still alike. -/
def Alike (f : NodeId → NodeId) (r r₂ : Except Failure Answer × Session) : Prop :=
  r₂.1 = r.1 ∧ r.2.Embeds f r₂.2

variable {s s₂ : Session}

/-! ### Answers -/

theorem attached_embeds {g g₂ : Graph} (h : g.Embeds f g₂) (id : NodeId) :
    attached g₂ (f id) = attached g id := by
  rw [attached, attached, h.node id]
  cases g.node id with
  | form name children => simp [Node.rename]
  | expr content => rfl

theorem constructed_embeds {g g₂ : Graph} (h : g.Embeds f g₂) (id : NodeId) :
    constructed g₂ (f id) = constructed g id := by
  rw [constructed, constructed, h.node id]
  cases g.node id with
  | form name children => simp [Node.rename]
  | expr content => rfl

theorem compare_rename (a b : Handle) :
    compare (a.rename f) (b.rename f) = compare a b := by
  cases a with
  | declared d =>
      cases b with
      | declared e => rfl
      | term u => rfl
  | term t =>
      cases b with
      | declared e => cases t <;> rfl
      | term u => cases t <;> cases u <;> rfl

namespace Embeds

theorem refl (s : Session) : s.Embeds id s := by
  refine ⟨.refl s.graph, fun name => ?_, fun name => ?_⟩
  · rw [Term.map_rename_id]
  · cases s.handle? name with
    | none => rfl
    | some handle => rw [Option.map_some, Handle.rename_id]

/-! ### What is read -/

theorem term? (h : s.Embeds f s₂) (name : String) :
    s₂.term? name = (s.term? name).map (Term.rename f) := by
  rw [Session.term?, Session.term?, h.handle name]
  cases s.handle? name with
  | none => rfl
  | some handle => exact handle.term?_rename

theorem node? (h : s.Embeds f s₂) (name : String) : s₂.node? name = (s.node? name).map f := by
  rw [Session.node?, Session.node?, h.handle name]
  cases s.handle? name with
  | none => rfl
  | some handle =>
      cases handle with
      | term t => cases t <;> rfl
      | declared d => rfl

theorem build (h : s.Embeds f s₂) (d : Draft) :
    (s.build d = none ∧ s₂.build d = none) ∨
    ∃ t g g₂, s.build d = some (t, g) ∧ s₂.build d = some (t.rename f, g₂) ∧ g.Embeds f g₂ :=
  Draft.build_embeds h.term? d h.graph

theorem buildAll (h : s.Embeds f s₂) (ds : List Draft) :
    (s.buildAll ds = none ∧ s₂.buildAll ds = none) ∨
    ∃ ts g g₂, s.buildAll ds = some (ts, g) ∧ s₂.buildAll ds = some (ts.map (Term.rename f), g₂) ∧
      g.Embeds f g₂ :=
  Draft.buildAll_embeds h.term? ds h.graph

theorem buildCommand (h : s.Embeds f s₂) (command : Command Draft) :
    (s.buildCommand command = none ∧ s₂.buildCommand command = none) ∨
    ∃ built g g₂, s.buildCommand command = some (built, g) ∧
      s₂.buildCommand command = some (built.rename f, g₂) ∧ g.Embeds f g₂ := by
  cases command with
  | checkSat | getModel | exit => exact .inr ⟨_, _, _, rfl, rfl, h.graph⟩
  | setLogic d | assert d | maximize d | declareConst name d =>
      simp only [Session.buildCommand]
      rcases h.build d with ⟨hnone, hnone₂⟩ | ⟨t, g, g₂, hsome, hsome₂, hg⟩
      · exact .inl ⟨by rw [hnone]; rfl, by rw [hnone₂]; rfl⟩
      · exact .inr ⟨_, g, g₂, by rw [hsome]; rfl, by rw [hsome₂]; rfl, hg⟩
  | declareFun name params result =>
      simp only [Session.buildCommand]
      rcases h.buildAll params with ⟨hnone, hnone₂⟩ | ⟨ts, g₁, g₃, hparams, hparams₂, hg₁⟩
      · exact .inl ⟨by rw [hnone]; rfl, by rw [hnone₂]; rfl⟩
      · rcases Draft.build_embeds h.term? result hg₁ with
          ⟨hnone, hnone₂⟩ | ⟨t, g, g₂, hresult, hresult₂, hg⟩
        · refine .inl ⟨?_, ?_⟩
          · rw [hparams, Option.bind_eq_bind, Option.bind_some, hnone]; rfl
          · rw [hparams₂, Option.bind_eq_bind, Option.bind_some, hnone₂]; rfl
        · refine .inr ⟨.declareFun name ts t, g, g₂, ?_, ?_, hg⟩
          · rw [hparams, Option.bind_eq_bind, Option.bind_some, hresult]; rfl
          · rw [hparams₂, Option.bind_eq_bind, Option.bind_some, hresult₂]; rfl

theorem hasLogic (h : s.Embeds f s₂) (stack : String) {g g₂ : Graph} (hg : g.Embeds f g₂) :
    (s₂.stack stack).hasLogic g₂ = (s.stack stack).hasLogic g := by
  rw [Stack.hasLogic, Stack.hasLogic, h.commands, List.any_map]
  congr 1
  funext t
  exact hg.isFormNamed Command.logicHead t

theorem serialize (h : s.Embeds f s₂) (stack : String) :
    (s₂.stack stack).serialize s₂.graph = (s.stack stack).serialize s.graph := by
  have hstack : s₂.stack stack = ⟨(s.stack stack).commands.map (Term.rename f)⟩ := by
    rw [← h.commands]
  rw [hstack]
  exact Stack.serialize_rename (fun t _ => h.graph.renames t) h.graph.size_le

theorem size (h : s.Embeds f s₂) (stack : String) :
    (s₂.stack stack).size = (s.stack stack).size := by
  rw [Stack.size, Stack.size, h.commands, List.length_map]

theorem describe (h : s.Embeds f s₂) (handle : Handle) :
    s₂.describe (handle.rename f) = s.describe handle := by
  cases handle with
  | declared d => rfl
  | term t =>
      cases t with
      | list items => simp [Handle.rename, Term.rename_list, Session.describe]
      | node id =>
          simp only [Handle.rename, Term.rename, Session.describe, h.graph.node id]
          cases s.graph.node id with
          | form name children => simp [Node.rename]
          | expr content => simp [Node.rename]
      | _ => rfl

/-! ### What is written -/

theorem set_graph (h : s.Embeds f s₂) {g g₂ : Graph} (hg : g.Embeds f g₂) :
    Embeds f { s with graph := g } { s₂ with graph := g₂ } :=
  ⟨hg, h.commands, h.handle⟩

theorem setStack (h : s.Embeds f s₂) (name : String) {stack stack₂ : Stack}
    (hstack : stack₂.commands = stack.commands.map (Term.rename f)) :
    (s.setStack name stack).Embeds f (s₂.setStack name stack₂) := by
  refine ⟨h.graph, fun other => ?_, h.handle⟩
  rw [stack_setStack, stack_setStack]
  by_cases hother : other = name
  · rw [if_pos hother, if_pos hother, hstack]
  · rw [if_neg hother, if_neg hother, h.commands]

theorem push (h : s.Embeds f s₂) (name : String) (t : Term) :
    (s.setStack name ((s.stack name).push t)).Embeds f
      (s₂.setStack name ((s₂.stack name).push (t.rename f))) :=
  h.setStack name (by rw [Stack.push, Stack.push, h.commands, List.map_append]; rfl)

theorem remember (h : s.Embeds f s₂) (name? : Option String) (handle : Handle) :
    (s.remember name? handle).Embeds f (s₂.remember name? (handle.rename f)) := by
  cases name? with
  | none => exact h
  | some name =>
      refine ⟨h.graph, h.commands, fun other => ?_⟩
      simp only [Session.remember, handle?, List.lookup_cons]
      cases other == name with
      | true => rfl
      | false => exact h.handle other

/-! ### The steps one by one -/

theorem ask (h : s.Embeds f s₂) {answer answer₂ : Except Failure Answer}
    (hanswer : answer₂ = answer) : Alike f (s.ask answer) (s₂.ask answer₂) :=
  ⟨hanswer, h⟩

theorem issue (h : s.Embeds f s₂) (stack : String) (command : Command Draft)
    (into : Option String) :
    Alike f (s.issue stack command into) (s₂.issue stack command into) := by
  rw [Session.issue, Session.issue]
  rcases h.buildCommand command with ⟨hnone, hnone₂⟩ | ⟨built, g, g₂, hsome, hsome₂, hg⟩
  · rw [hnone, hnone₂]
    exact ⟨rfl, h⟩
  · simp only [hsome, hsome₂, Stack.issue, h.hasLogic stack hg, Command.namesLogic_rename]
    by_cases hagain : (built.namesLogic && (s.stack stack).hasLogic g) = true
    · rw [if_pos hagain, if_pos hagain]
      exact ⟨rfl, h⟩
    · rw [if_neg hagain, if_neg hagain]
      have hadded : (g.add built.node).2.Embeds f (g₂.add (built.rename f).node).2 := by
        rw [Command.node_rename]
        exact hg.add built.node
      have hnext := (h.set_graph hadded).push stack (.node g.size)
      rw [Term.rename, hg.size] at hnext
      have hsize : ((s₂.stack stack).push (.node g₂.size)).size =
          ((s.stack stack).push (.node g.size)).size := by
        simp only [Stack.push, Stack.size, h.commands, List.length_append, List.length_map,
          List.length_singleton]
      cases built with
      | declareConst name sort =>
          exact ⟨by simp only [Command.rename, Graph.add_fst, hsize],
            hnext.remember into (.term (.atom name))⟩
      | declareFun name params result =>
          simp only [Command.rename, Graph.add_fst, List.length_map]
          exact ⟨by rw [hsize], hnext.remember into (.declared (.ofArity name params.length))⟩
      | _ => exact ⟨by simp only [Command.rename, Graph.add_fst, hsize], hnext⟩

theorem attach (h : s.Embeds f s₂) (receiver : String) (child : Draft) :
    Alike f (s.attach receiver child) (s₂.attach receiver child) := by
  rw [Session.attach, Session.attach, h.node? receiver]
  cases s.node? receiver with
  | none => exact ⟨rfl, h⟩
  | some id =>
      rcases h.build child with ⟨hnone, hnone₂⟩ | ⟨t, g, g₂, hsome, hsome₂, hg⟩
      · rw [hnone, hnone₂]
        exact ⟨rfl, h⟩
      · simp only [hsome, hsome₂, Option.map_some]
        rcases hg.attach id t with ⟨e, he, he₂⟩ | ⟨grown, grown₂, hok, hok₂, hgrown⟩
        · rw [he, he₂]
          exact ⟨rfl, h⟩
        · rw [hok, hok₂]
          exact ⟨by simp only [attached_embeds hgrown id], h.set_graph hgrown⟩

theorem annotate (h : s.Embeds f s₂) (receiver text : String) (into : Option String) :
    Alike f (s.annotate receiver text into) (s₂.annotate receiver text into) := by
  rw [Session.annotate, Session.annotate, h.node? receiver]
  cases s.node? receiver with
  | none => exact ⟨rfl, h⟩
  | some id =>
      simp only [Option.map_some, Graph.annotate]
      rcases h.graph.attach id (.comment ⟨text, true⟩) with
        ⟨e, he, he₂⟩ | ⟨grown, grown₂, hok, hok₂, hgrown⟩
      · rw [he, show s₂.graph.attach (f id) (.comment ⟨text, true⟩) = .error e from he₂]
        exact ⟨rfl, h⟩
      · rw [hok, show s₂.graph.attach (f id) (.comment ⟨text, true⟩) = .ok grown₂ from hok₂]
        exact ⟨rfl, (h.set_graph hgrown).remember into (.term (.comment ⟨text, true⟩))⟩

theorem construct (h : s.Embeds f s₂) (receiver : String) (c : Connective) (args : List Draft)
    (into : Option String) :
    Alike f (s.construct receiver c args into) (s₂.construct receiver c args into) := by
  rw [Session.construct, Session.construct, h.node? receiver]
  cases s.node? receiver with
  | none => exact ⟨rfl, h⟩
  | some id =>
      rcases h.buildAll args with ⟨hnone, hnone₂⟩ | ⟨ts, g, g₂, hsome, hsome₂, hg⟩
      · rw [hnone, hnone₂]
        exact ⟨rfl, h⟩
      · simp only [hsome, hsome₂, Option.map_some]
        rcases hg.construct id c ts with
          ⟨e, he, he₂⟩ | ⟨form, grown, grown₂, hok, hok₂, hgrown⟩
        · rw [he, he₂]
          exact ⟨rfl, h⟩
        · rw [hok, hok₂]
          exact ⟨by simp only [constructed_embeds hgrown form],
            (h.set_graph hgrown).remember into (.term (.node form))⟩

theorem apply (h : s.Embeds f s₂) (symbol : String) (args : List Draft) (onlyFunction : Bool)
    (into : Option String) :
    Alike f (s.apply symbol args onlyFunction into) (s₂.apply symbol args onlyFunction into) := by
  have hfinish : ∀ {applied applied₂ : Except BuildError (Term × Graph)},
      ((∃ e, applied = .error e ∧ applied₂ = .error e) ∨ ∃ t g g₂, applied = .ok (t, g) ∧
        applied₂ = .ok (t.rename f, g₂) ∧ g.Embeds f g₂) →
      Alike f (apply.finish s into applied) (apply.finish s₂ into applied₂) := by
    rintro applied applied₂ (⟨e, rfl, rfl⟩ | ⟨t, g, g₂, rfl, rfl, hg⟩)
    · exact ⟨rfl, h⟩
    · exact ⟨by simp only [apply.finish, hg.serialize],
        (h.set_graph hg).remember into (.term t)⟩
  rw [Session.apply, Session.apply, h.handle symbol]
  cases s.handle? symbol with
  | none => exact ⟨rfl, h⟩
  | some handle =>
      cases handle with
      | term t => exact ⟨rfl, h⟩
      | declared d =>
          rcases h.buildAll args with ⟨hnone, hnone₂⟩ | ⟨ts, g, g₂, hsome, hsome₂, hg⟩
          · rw [hnone, hnone₂]
            exact ⟨rfl, h⟩
          · simp only [hsome, hsome₂, Option.map_some, Handle.rename]
            cases onlyFunction with
            | false => exact hfinish (d.apply_embeds hg ts)
            | true =>
                cases d with
                | const name => exact ⟨rfl, h⟩
                | function symbol => exact hfinish (symbol.apply_embeds hg ts)

/-- **Alike sessions answer alike and stay alike.** -/
theorem step (h : s.Embeds f s₂) (step : Step) : Alike f (s.step step) (s₂.step step) := by
  cases step with
  | issue stack command into => exact h.issue stack command into
  | comment stack text =>
      have hsize : ((s₂.stack stack).comment text).size = ((s.stack stack).comment text).size := by
        simp only [Stack.comment, Stack.push, Stack.size, h.commands, List.length_append,
          List.length_map, List.length_singleton]
      exact ⟨by simp only [Session.step, hsize], h.push stack (.comment ⟨text, false⟩)⟩
  | serialize stack => exact h.ask (by rw [h.serialize])
  | measure stack => exact h.ask (by rw [h.size])
  | listCommands stack depth mode named? =>
      refine h.ask ?_
      simp only [h.commands, List.map_map, Function.comp_def, h.graph.serialize,
        h.graph.isFormNamed]
  | copyStack source target =>
      exact ⟨by simp only [Session.step, h.size], h.setStack target (h.commands source)⟩
  | fetch stack index into =>
      rw [Session.step, Session.step, h.commands, List.getElem?_map]
      cases (s.stack stack).commands[index]? with
      | none => exact ⟨rfl, h⟩
      | some command =>
          cases command with
          | node id => exact ⟨rfl, h.remember into (.term (.node id))⟩
          | _ => exact ⟨rfl, h⟩
  | writeTo stack sink => exact h.ask (by rw [Stack.writeTo, Stack.writeTo, h.serialize])
  | store term into =>
      rw [Session.step, Session.step]
      rcases h.build term with ⟨hnone, hnone₂⟩ | ⟨t, g, g₂, hsome, hsome₂, hg⟩
      · rw [hnone, hnone₂]
        exact ⟨rfl, h⟩
      · rw [hsome, hsome₂]
        exact ⟨rfl, (h.set_graph hg).remember into (.term t)⟩
  | serializeTerm term depth mode =>
      rw [Session.step, Session.step]
      rcases h.build term with ⟨hnone, hnone₂⟩ | ⟨t, g, g₂, hsome, hsome₂, hg⟩
      · rw [hnone, hnone₂]
        exact ⟨rfl, h⟩
      · rw [hsome, hsome₂]
        exact h.ask (by rw [hg.serialize])
  | attach receiver child => exact h.attach receiver child
  | annotate receiver text into => exact h.annotate receiver text into
  | construct receiver c args into => exact h.construct receiver c args into
  | describe handle =>
      rw [Session.step, Session.step, h.handle handle]
      cases s.handle? handle with
      | none => exact ⟨rfl, h⟩
      | some held => exact h.ask (by rw [h.describe])
  | sameNode first second =>
      rw [Session.step, Session.step, h.node? first, h.node? second]
      cases s.node? first with
      | none => exact ⟨rfl, h⟩
      | some a =>
          cases s.node? second with
          | none => exact ⟨rfl, h⟩
          | some b =>
              have hsame : (f a == f b) = (a == b) := by
                rw [Bool.eq_iff_iff, beq_iff_eq, beq_iff_eq, h.graph.injective.eq_iff]
              exact h.ask (by rw [hsame])
  | isFormNamed term name =>
      rw [Session.step, Session.step]
      rcases h.build term with ⟨hnone, hnone₂⟩ | ⟨t, g, g₂, hsome, hsome₂, hg⟩
      · rw [hnone, hnone₂]
        exact ⟨rfl, h⟩
      · rw [hsome, hsome₂]
        exact h.ask (by rw [hg.isFormNamed])
  | compare first second =>
      rw [Session.step, Session.step, h.handle first, h.handle second]
      cases s.handle? first with
      | none => exact ⟨rfl, h⟩
      | some a =>
          cases s.handle? second with
          | none => exact ⟨rfl, h⟩
          | some b => exact h.ask (compare_rename a b)
  | apply symbol args onlyFunction into => exact h.apply symbol args onlyFunction into

theorem run (h : s.Embeds f s₂) (steps : List Step) : (s₂.run steps).1 = (s.run steps).1 := by
  induction steps generalizing s s₂ with
  | nil => rfl
  | cons first rest ih =>
      obtain ⟨hanswer, hnext⟩ := h.step first
      have hrest := ih hnext
      show (s₂.step first).1 :: ((s₂.step first).2.run rest).1 =
        (s.step first).1 :: ((s.step first).2.run rest).1
      rw [hanswer, hrest]

end Embeds

end Session

end SmtScript
