import SmtScript.Serialize
import SmtScript.Proofs.Reach

/-!
# How the writing of a term comes out

A walk meets a term, then its parts from left to right, and each part with all that is below it
before the next one. It ends when nothing is left to meet, it stops at the first node without a
text, and on a cycle it may run on forever. In the first case the term has a text, in the second it
has the error of that node, in the third its writing is cut off, however deep it may go. Neither the
depth nor the mode has a say in this.
-/

namespace SmtScript

/-! ## The walk -/

/-- The error of a node that has no text. -/
def Node.error? : Node → Option SerializeError
  | .form none _ => some .unnamedForm
  | .expr none => some .emptyExpression
  | _ => none

namespace Graph

def error? (g : Graph) : Term → Option SerializeError
  | .node id => (g.node id).error?
  | _ => none

/-- Meets the first of the pending terms. Its parts come before all others. A term without a text
is not entered. -/
def advance (g : Graph) : List Term → Option (List Term)
  | [] => none
  | t :: pending =>
      match g.error? t with
      | some _ => none
      | none => some (g.parts t ++ pending)

/-- What is pending after `n` terms were met. -/
def walk (g : Graph) : Nat → List Term → Option (List Term)
  | 0, pending => some pending
  | n + 1, pending => (g.advance pending).bind (g.walk n)

/-- The walk comes from the terms pending now to others. -/
def Walks (g : Graph) (now later : List Term) : Prop :=
  ∃ n, g.walk n now = some later

/-- At last nothing is pending. -/
def Ends (g : Graph) (pending : List Term) : Prop :=
  g.Walks pending []

/-- The walk comes to a term without a text, which has the error. -/
def Meets (g : Graph) (pending : List Term) (e : SerializeError) : Prop :=
  ∃ t rest, g.Walks pending (t :: rest) ∧ g.error? t = some e

/-- There is always a next term to meet, and it can be entered. -/
def RunsOn (g : Graph) (pending : List Term) : Prop :=
  ∀ n, ∃ later, g.walk n pending = some later

variable {g : Graph} {p q r : List Term}

theorem walk_add (m n : Nat) (p : List Term) :
    g.walk (m + n) p = (g.walk m p).bind (g.walk n) := by
  induction m generalizing p with
  | zero => rw [Nat.zero_add, walk, Option.bind_some]
  | succ m ih =>
      rw [Nat.succ_add, walk, walk, Option.bind_assoc]
      exact congrArg _ (funext ih)

/-- Terms that wait behind do not change the walk. -/
theorem walk_append {n : Nat} (h : g.walk n p = some q) (rest : List Term) :
    g.walk n (p ++ rest) = some (q ++ rest) := by
  induction n generalizing p with
  | zero => cases h; rfl
  | succ n ih =>
      cases p with
      | nil => cases h
      | cons t pending =>
          rw [walk, advance] at h
          rw [List.cons_append, walk, advance]
          cases herror : g.error? t with
          | some e => rw [herror] at h; cases h
          | none =>
              rw [herror, Option.bind_some] at h
              rw [Option.bind_some, ← List.append_assoc]
              exact ih h

theorem exists_walk_of_le {m n : Nat} (hle : m ≤ n) (h : g.walk n p = some q) :
    ∃ mid, g.walk m p = some mid := by
  obtain ⟨k, rfl⟩ := Nat.exists_eq_add_of_le hle
  rw [walk_add, Option.bind_eq_some_iff] at h
  obtain ⟨mid, hmid, -⟩ := h
  exact ⟨mid, hmid⟩

namespace Walks

theorem refl (p : List Term) : g.Walks p p :=
  ⟨0, rfl⟩

theorem trans (h : g.Walks p q) (h₂ : g.Walks q r) : g.Walks p r := by
  obtain ⟨m, hm⟩ := h
  obtain ⟨n, hn⟩ := h₂
  exact ⟨m + n, by rw [walk_add, hm, Option.bind_some, hn]⟩

theorem append (h : g.Walks p q) (rest : List Term) : g.Walks (p ++ rest) (q ++ rest) := by
  obtain ⟨n, hn⟩ := h
  exact ⟨n, walk_append hn rest⟩

/-- A term that can be entered gives way to its parts. -/
theorem enter {t : Term} (h : g.error? t = none) : g.Walks [t] (g.parts t) :=
  ⟨1, by rw [walk, advance, h, List.append_nil]; rfl⟩

end Walks

/-! ## The three ways exclude each other -/

/-- The walk stops at one place only. -/
theorem Walks.stop_unique (h : g.Walks p q) (hstop : g.advance q = none)
    (h₂ : g.Walks p r) (hstop₂ : g.advance r = none) : q = r := by
  -- whichever walk is longer, it would have to go on where the other stopped
  have hstays : ∀ {m n : Nat} {q r : List Term}, m ≤ n → g.walk m p = some q →
      g.advance q = none → g.walk n p = some r → q = r := by
    intro m n q r hle hm hstop hn
    obtain ⟨k, rfl⟩ := Nat.exists_eq_add_of_le hle
    rw [walk_add, hm, Option.bind_some] at hn
    cases k with
    | zero => exact Option.some.inj hn
    | succ k => rw [walk, hstop] at hn; cases hn
  obtain ⟨m, hm⟩ := h
  obtain ⟨n, hn⟩ := h₂
  rcases Nat.le_total m n with hle | hle
  · exact hstays hle hm hstop hn
  · exact (hstays hle hn hstop₂ hm).symm

theorem RunsOn.not_stop (h : g.RunsOn p) (hq : g.Walks p q) : g.advance q ≠ none := by
  intro hstop
  obtain ⟨n, hn⟩ := hq
  obtain ⟨later, hlater⟩ := h (n + 1)
  rw [walk_add, hn, Option.bind_some, walk, hstop] at hlater
  cases hlater

theorem advance_of_error {t : Term} {e : SerializeError} (h : g.error? t = some e) :
    g.advance (t :: r) = none := by
  rw [advance, h]

theorem Ends.not_meets (h : g.Ends p) (e : SerializeError) : ¬ g.Meets p e := by
  rintro ⟨t, rest, hwalks, herror⟩
  cases h.stop_unique rfl hwalks (advance_of_error herror)

theorem Ends.not_runsOn (h : g.Ends p) : ¬ g.RunsOn p :=
  fun hruns => hruns.not_stop h rfl

theorem Meets.not_runsOn {e : SerializeError} (h : g.Meets p e) : ¬ g.RunsOn p := by
  obtain ⟨t, rest, hwalks, herror⟩ := h
  exact fun hruns => hruns.not_stop hwalks (advance_of_error herror)

theorem Meets.unique {e e₂ : SerializeError} (h : g.Meets p e) (h₂ : g.Meets p e₂) : e = e₂ := by
  obtain ⟨t, rest, hwalks, herror⟩ := h
  obtain ⟨u, rest₂, hwalks₂, herror₂⟩ := h₂
  cases hwalks.stop_unique (advance_of_error herror) hwalks₂ (advance_of_error herror₂)
  exact Option.some.inj (herror.symm.trans herror₂)

/-! ## Running on -/

theorem RunsOn.of_walks (hwalks : g.Walks p (q ++ r)) (h : g.RunsOn q) : g.RunsOn p := by
  obtain ⟨m, hm⟩ := hwalks
  intro n
  obtain ⟨later, hlater⟩ := h n
  have hlong : g.walk (m + n) p = some (later ++ r) := by
    rw [walk_add, hm, Option.bind_some]
    exact walk_append hlater r
  exact exists_walk_of_le (Nat.le_add_left n m) hlong

/-- Whoever comes back to the start comes back again and again. -/
theorem RunsOn.of_loop {n : Nat} (h : g.walk (n + 1) p = some (p ++ r)) : g.RunsOn p := by
  have hrounds : ∀ k, ∃ left, g.walk (k * (n + 1)) p = some (p ++ left) := by
    intro k
    induction k with
    | zero => exact ⟨[], by rw [Nat.zero_mul, walk, List.append_nil]⟩
    | succ k ih =>
        obtain ⟨left, hleft⟩ := ih
        refine ⟨r ++ left, ?_⟩
        rw [Nat.succ_mul, walk_add, hleft, Option.bind_some, walk_append h, List.append_assoc]
  intro m
  obtain ⟨left, hleft⟩ := hrounds m
  have hle : m ≤ m * (n + 1) := Nat.le_mul_of_pos_right m (Nat.succ_pos n)
  exact exists_walk_of_le hle hleft

/-- The nodes of `path` are different nodes of the graph, and from each of them the walk comes to
the pending terms. -/
structure OnWay (g : Graph) (path : List NodeId) (pending : List Term) : Prop where
  nodup : path.Nodup
  lt_size : ∀ a ∈ path, a < g.size
  comes : ∀ a ∈ path, ∃ n rest, g.walk (n + 1) [.node a] = some (pending ++ rest)

namespace OnWay

variable {path : List NodeId}

theorem nil (p : List Term) : g.OnWay [] p :=
  ⟨List.nodup_nil, by simp, by simp⟩

theorem of_walks (h : g.OnWay path p) (hwalks : g.Walks p (q ++ r)) : g.OnWay path q := by
  refine ⟨h.nodup, h.lt_size, fun a ha => ?_⟩
  obtain ⟨n, left, hn⟩ := h.comes a ha
  obtain ⟨m, hm⟩ := hwalks
  have hsteps : n + m + 1 = n + 1 + m := Nat.add_right_comm n m 1
  refine ⟨n + m, r ++ left, ?_⟩
  rw [hsteps, walk_add, hn, Option.bind_some, walk_append hm, List.append_assoc]

theorem parts {t : Term} (h : g.OnWay path [t]) (herror : g.error? t = none) :
    g.OnWay path (g.parts t) :=
  h.of_walks (r := []) (by rw [List.append_nil]; exact .enter herror)

theorem cons {id : NodeId} (h : g.OnWay path [.node id]) (hid : id ∉ path)
    (herror : (g.node id).error? = none) : g.OnWay (id :: path) (g.node id).held := by
  refine ⟨List.nodup_cons.mpr ⟨hid, h.nodup⟩, ?_, ?_⟩
  · -- a node beyond the graph reads as a stub, which is not entered
    have hlt : id < g.size := by
      by_contra hge
      rw [node_eq_stub (Nat.le_of_not_lt hge)] at herror
      cases herror
    exact List.forall_mem_cons.mpr ⟨hlt, h.lt_size⟩
  · exact List.forall_mem_cons.mpr
      ⟨⟨0, [], by rw [walk, advance, error?, herror]; rfl⟩, (h.parts herror).comes⟩

end OnWay

/-! ## What a result of writing tells about the walk -/

/-- A text tells that the walk ends, an error what it meets. Of a writing that was cut off is known
what `cut` says. -/
def Explains {α : Type} (g : Graph) (cut : Prop) (pending : List Term) : Except Halt α → Prop
  | .ok _ => g.Ends pending
  | .error (.failed e) => g.Meets pending e
  | .error .unfinished => cut → g.RunsOn pending

variable {cut : Prop}

theorem Explains.of_ok {α β : Type} (hwalks : g.Walks p q) {a : α} {b : β}
    (h : g.Explains cut q (.ok a : Except Halt α)) :
    g.Explains cut p (.ok b : Except Halt β) :=
  hwalks.trans h

theorem Explains.of_error {α β : Type} (hwalks : g.Walks p (q ++ r)) {halt : Halt}
    (h : g.Explains cut q (.error halt : Except Halt α)) :
    g.Explains cut p (.error halt : Except Halt β) := by
  cases halt with
  | failed e =>
      obtain ⟨t, left, hmeets, herror⟩ := h
      exact ⟨t, left ++ r, hwalks.trans (hmeets.append r), herror⟩
  | unfinished => exact fun hcut => (h hcut).of_walks hwalks

theorem Explains.imp {α : Type} {cut₂ : Prop} {r : Except Halt α} (h : g.Explains cut p r)
    (hcut : cut₂ → cut ∨ g.RunsOn p) : g.Explains cut₂ p r := by
  cases r with
  | ok a => exact h
  | error halt =>
      cases halt with
      | failed e => exact h
      | unfinished => exact fun h₂ => (hcut h₂).elim h id

/-- Writing goes on to the next term exactly where the walk does. -/
theorem explains_writeAll {writeNode : NodeWriter} {depth : Nat} : ∀ {ts : List Term},
    (∀ t ∈ ts, ∀ rest, g.Walks ts (t :: rest) →
      g.Explains cut [t] (t.write writeNode depth .auto)) →
        g.Explains cut ts (Term.writeAll writeNode depth ts)
  | [], _ => .refl []
  | t :: ts, h => by
      have hfirst := h t List.mem_cons_self ts (.refl _)
      rw [Term.writeAll]
      cases htext : t.write writeNode depth .auto with
      | error halt =>
          rw [htext] at hfirst
          exact hfirst.of_error (.refl ([t] ++ ts))
      | ok text =>
          rw [htext] at hfirst
          have hnext : g.Walks (t :: ts) ts := Walks.append hfirst ts
          have hrest : g.Explains cut ts (Term.writeAll writeNode depth ts) :=
            explains_writeAll fun u hu left hwalks =>
              h u (List.mem_cons_of_mem t hu) left (hnext.trans hwalks)
          cases htexts : Term.writeAll writeNode depth ts with
          | error halt =>
              rw [htexts] at hrest
              exact hrest.of_error (r := []) (by rwa [List.append_nil])
          | ok texts =>
              rw [htexts] at hrest
              exact hrest.of_ok hnext

/-- So it does where the terms are the parts of a term that can be entered. -/
theorem explains_parts {t : Term} {writeNode : NodeWriter} {depth : Nat} {layout : List Text → Text}
    (herror : g.error? t = none)
    (h : ∀ u ∈ g.parts t, ∀ rest, g.Walks (g.parts t) (u :: rest) →
      g.Explains cut [u] (u.write writeNode depth .auto)) :
    g.Explains cut [t]
      (do return layout (← Term.writeAll writeNode depth (g.parts t)) : Except Halt Text) := by
  have henter : g.Walks [t] (g.parts t) := .enter herror
  have hparts := explains_writeAll h
  cases htexts : Term.writeAll writeNode depth (g.parts t) with
  | error halt =>
      rw [htexts] at hparts
      exact hparts.of_error (r := []) (by rwa [List.append_nil])
  | ok texts =>
      rw [htexts] at hparts
      exact hparts.of_ok henter

theorem explains_node {id : NodeId} {writeNode : NodeWriter} {depth : Nat} {mode : Layout.Mode}
    (h : (g.node id).error? = none → ∀ u ∈ (g.node id).held, ∀ rest,
      g.Walks (g.node id).held (u :: rest) →
        g.Explains cut [u] (u.write writeNode (depth + 1) .auto)) :
    g.Explains cut [.node id] ((g.node id).write writeNode depth mode) := by
  have hstop : ∀ {e : SerializeError}, (g.node id).error? = some e → g.Meets [.node id] e :=
    fun herror => ⟨.node id, [], .refl _, herror⟩
  cases hnode : g.node id with
  | form name children =>
      cases name with
      | none => exact hstop (by rw [hnode]; rfl)
      | some name =>
          have herror : (g.node id).error? = none := by rw [hnode]; rfl
          have hparts : g.parts (.node id) = children := by rw [parts, hnode]; rfl
          rw [Node.write, ← hparts]
          exact explains_parts herror (h herror)
  | expr content =>
      cases content with
      | none => exact hstop (by rw [hnode]; rfl)
      | some content =>
          have herror : (g.node id).error? = none := by rw [hnode]; rfl
          have hheld : (g.node id).held = [content] := by rw [hnode]; rfl
          have henter : g.Walks [.node id] [content] := hheld ▸ .enter herror
          have hcontent := h herror content (by rw [hheld]; exact List.mem_singleton_self _) []
            (hheld ▸ .refl _)
          rw [Node.write]
          cases htext : content.write writeNode (depth + 1) .auto with
          | error halt =>
              rw [htext] at hcontent
              exact hcontent.of_error (r := []) henter
          | ok text =>
              rw [htext] at hcontent
              exact hcontent.of_ok henter

/-- The induction is on the fuel, and on the term for its lists. A node joins the path, so the sum
of fuel and path stays the same, unless it is on the path already, and then the walk is on a cycle.
A path cannot be longer than the graph has nodes, so with enough fuel nothing else is cut off. -/
theorem explains_write (fuel : Nat) : ∀ (path : List NodeId) (t : Term), g.OnWay path [t] →
    ∀ depth mode, g.Explains (g.size < fuel + path.length) [t]
      (t.write (g.writeNode fuel) depth mode) := by
  induction fuel with
  | zero =>
      intro path t honway depth mode
      induction t generalizing depth mode with
      | atom | str | comment => exact .enter rfl
      | list items ih =>
          exact explains_parts rfl fun u hu rest hwalks =>
            ih u hu ((honway.parts rfl).of_walks hwalks) 0 .auto
      | node id =>
          intro hfuel
          have hle := length_le_size honway.nodup honway.lt_size
          omega
  | succ fuel ihfuel =>
      intro path t honway depth mode
      induction t generalizing depth mode with
      | atom | str | comment => exact .enter rfl
      | list items ih =>
          exact explains_parts rfl fun u hu rest hwalks =>
            ih u hu ((honway.parts rfl).of_walks hwalks) 0 .auto
      | node id =>
          by_cases hid : id ∈ path
          · obtain ⟨n, rest, hloop⟩ := honway.comes id hid
            have hruns : g.RunsOn [.node id] := .of_loop hloop
            have hnode : g.Explains (g.size < fuel + 0) [.node id]
                ((g.node id).write (g.writeNode fuel) depth mode) :=
              explains_node fun _ u _ _ _ => ihfuel [] u (.nil [u]) (depth + 1) .auto
            exact hnode.imp fun _ => .inr hruns
          · have hnode : g.Explains (g.size < fuel + (id :: path).length) [.node id]
                ((g.node id).write (g.writeNode fuel) depth mode) :=
              explains_node fun herror u _ _ hwalks =>
                ihfuel (id :: path) u ((honway.cons hid herror).of_walks hwalks) (depth + 1) .auto
            refine hnode.imp fun hfuel => .inl ?_
            rw [List.length_cons]
            omega

/-- What the text of a term, its error or its lack of an end tells about the walk. -/
theorem explains_render (g : Graph) (t : Term) (depth : Nat) (mode : Layout.Mode) :
    g.Explains True [t] (g.render t depth mode) :=
  (explains_write (g.size + 1) [] t (.nil [t]) depth mode).imp fun _ => .inl (Nat.lt_succ_self _)

/-- A walk that runs on cannot be written, however deep the writing may go. -/
theorem RunsOn.write {t : Term} (h : g.RunsOn [t]) (fuel depth : Nat) (mode : Layout.Mode) :
    t.write (g.writeNode fuel) depth mode = .error .unfinished := by
  have hexplains := explains_write (g := g) fuel [] t (.nil [t]) depth mode
  cases hresult : t.write (g.writeNode fuel) depth mode with
  | ok text =>
      rw [hresult] at hexplains
      exact absurd h (Ends.not_runsOn hexplains)
  | error halt =>
      cases halt with
      | unfinished => rfl
      | failed e =>
          rw [hresult] at hexplains
          exact absurd h (Meets.not_runsOn hexplains)

theorem render_eq_unfinished_iff {t : Term} {depth : Nat} {mode : Layout.Mode} :
    g.render t depth mode = .error .unfinished ↔ g.RunsOn [t] := by
  constructor
  · intro h
    have hexplains := g.explains_render t depth mode
    rw [h] at hexplains
    exact hexplains trivial
  · intro h
    exact h.write (g.size + 1) depth mode

theorem render_eq_failed_iff {t : Term} {depth : Nat} {mode : Layout.Mode} {e : SerializeError} :
    g.render t depth mode = .error (.failed e) ↔ g.Meets [t] e := by
  have hexplains := g.explains_render t depth mode
  constructor
  · intro h
    rwa [h] at hexplains
  · intro h
    cases hresult : g.render t depth mode with
    | ok text =>
        rw [hresult] at hexplains
        exact absurd h (Ends.not_meets hexplains e)
    | error halt =>
        rw [hresult] at hexplains
        cases halt with
        | unfinished => exact absurd (hexplains trivial) h.not_runsOn
        | failed other => rw [Meets.unique hexplains h]

theorem exists_render_eq_ok_iff {t : Term} {depth : Nat} {mode : Layout.Mode} :
    (∃ text, g.render t depth mode = .ok text) ↔ g.Ends [t] := by
  have hexplains := g.explains_render t depth mode
  constructor
  · rintro ⟨text, h⟩
    rwa [h] at hexplains
  · intro h
    cases hresult : g.render t depth mode with
    | ok text => exact ⟨text, rfl⟩
    | error halt =>
        rw [hresult] at hexplains
        cases halt with
        | unfinished => exact absurd (hexplains trivial) h.not_runsOn
        | failed e => exact absurd hexplains (h.not_meets e)

/-! ## More fuel -/

/-- The second way to write nodes agrees with the first where that one is not cut off. -/
def Continues (w v : NodeWriter) : Prop :=
  ∀ id depth mode, w id depth mode = .error .unfinished ∨ v id depth mode = w id depth mode

section

variable {w v : NodeWriter}

mutual

theorem Continues.write (h : Continues w v) (depth : Nat) (mode : Layout.Mode) : ∀ t : Term,
    t.write w depth mode = .error .unfinished ∨ t.write v depth mode = t.write w depth mode
  | .atom _ | .str _ | .comment _ => .inr rfl
  | .list items => by
      rw [Term.write, Term.write]
      rcases h.writeAll 0 items with hitems | hitems
      · exact .inl (by rw [hitems]; rfl)
      · exact .inr (by rw [hitems])
  | .node id => h id depth mode

theorem Continues.writeAll (h : Continues w v) (depth : Nat) : ∀ ts : List Term,
    Term.writeAll w depth ts = .error .unfinished ∨
      Term.writeAll v depth ts = Term.writeAll w depth ts
  | [] => .inr rfl
  | t :: ts => by
      rw [Term.writeAll, Term.writeAll]
      rcases h.write depth .auto t with hfirst | hfirst
      · exact .inl (by rw [hfirst]; rfl)
      · rw [hfirst]
        cases t.write w depth .auto with
        | error halt => exact .inr rfl
        | ok text =>
            rcases h.writeAll depth ts with hrest | hrest
            · exact .inl (by rw [hrest]; rfl)
            · exact .inr (by rw [hrest])

end

theorem Continues.node_write (h : Continues w v) (depth : Nat) (mode : Layout.Mode) (n : Node) :
    n.write w depth mode = .error .unfinished ∨ n.write v depth mode = n.write w depth mode := by
  cases n with
  | form name children =>
      cases name with
      | none => exact .inr rfl
      | some name =>
          rw [Node.write, Node.write]
          rcases h.writeAll (depth + 1) children with hchildren | hchildren
          · exact .inl (by rw [hchildren]; rfl)
          · exact .inr (by rw [hchildren])
  | expr content =>
      cases content with
      | none => exact .inr rfl
      | some content => exact h.write (depth + 1) .auto content

end

theorem continues_writeNode (g : Graph) (fuel : Nat) :
    Continues (g.writeNode fuel) (g.writeNode (fuel + 1)) := by
  induction fuel with
  | zero => exact fun _ _ _ => .inl rfl
  | succ fuel ih => exact fun id depth mode => ih.node_write depth mode (g.node id)

/-- Fuel for more nested nodes than the graph has changes nothing any more. -/
theorem write_eq_render {fuel : Nat} (hfuel : g.size < fuel) (t : Term) (depth : Nat)
    (mode : Layout.Mode) : t.write (g.writeNode fuel) depth mode = g.render t depth mode := by
  induction hfuel with
  | refl => rfl
  | @step fuel _ ih =>
      rcases (g.continues_writeNode fuel).write depth mode t with hcut | hsame
      · rw [ih] at hcut
        rw [hcut]
        exact (render_eq_unfinished_iff.mp hcut).write (fuel + 1) depth mode
      · rw [hsame, ih]

/-! ## The outcome of writing -/

/-- A form that chooses its own layout is written in one of two passes, on one line or spread. -/
theorem render_auto (g : Graph) (t : Term) (depth : Nat) :
    g.render t depth .auto = g.render t depth .inline ∨
      g.render t depth .auto = g.render t depth .spread := by
  cases t with
  | node id =>
      have hform : ∀ (name : Text) (texts : List Text),
          Layout.form .auto depth name texts = Layout.form .inline depth name texts ∨
            Layout.form .auto depth name texts = Layout.form .spread depth name texts := by
        intro name texts
        rcases texts with _ | ⟨first, _ | ⟨second, others⟩⟩
        · exact .inl rfl
        · exact .inl rfl
        · simp only [Layout.form]
          split
          · exact .inr rfl
          · exact .inl rfl
      simp only [render, Term.write, writeNode]
      rcases g.node id with ⟨_ | name, children⟩ | ⟨_ | content⟩
      · exact .inl rfl
      · simp only [Node.write]
        cases Term.writeAll (g.writeNode g.size) (depth + 1) children with
        | error halt => exact .inl rfl
        | ok texts =>
            exact (hform name.toList texts).imp (congrArg Except.ok) (congrArg Except.ok)
      · exact .inl rfl
      · exact .inl rfl
  | _ => exact .inl rfl

/-- **How the writing of a term comes out.** In every graph, with cycles or without, a term has a
text if its walk ends, and the error of the first term without a text if the walk meets one, and
neither if the walk runs on; then no fuel would be enough. The walk knows neither depth nor mode, so
the outcome is the same at every depth, in every mode, and in both passes of a form that chooses its
own layout. -/
theorem serialize_outcome (g : Graph) (t : Term) (depth : Nat) (mode : Layout.Mode) :
    ((∃ text, g.serialize t depth mode = .ok text) ↔ g.Ends [t]) ∧
      (∀ e, g.serialize t depth mode = .error (.failed e) ↔ g.Meets [t] e) ∧
      (g.serialize t depth mode = .error .unfinished ↔ g.RunsOn [t]) ∧
      ((∀ fuel, t.write (g.writeNode fuel) depth mode = .error .unfinished) ↔ g.RunsOn [t]) ∧
      (g.serialize t depth .auto = g.serialize t depth .inline ∨
        g.serialize t depth .auto = g.serialize t depth .spread) := by
  have hok : (∃ text, g.serialize t depth mode = .ok text) ↔
      ∃ text, g.render t depth mode = .ok text := by
    rw [serialize]
    cases g.render t depth mode with
    | ok text => exact ⟨fun _ => ⟨text, rfl⟩, fun _ => ⟨String.ofList text, rfl⟩⟩
    | error halt => simp [Except.map]
  have herror : ∀ halt, g.serialize t depth mode = .error halt ↔
      g.render t depth mode = .error halt := by
    intro halt
    rw [serialize]
    cases g.render t depth mode <;> simp [Except.map]
  refine ⟨hok.trans exists_render_eq_ok_iff, fun e => (herror _).trans render_eq_failed_iff,
    (herror _).trans render_eq_unfinished_iff, ?_, ?_⟩
  · constructor
    · intro h
      exact render_eq_unfinished_iff.mp (h (g.size + 1))
    · intro h fuel
      exact h.write fuel depth mode
  · rw [serialize, serialize, serialize]
    rcases g.render_auto t depth with hpass | hpass
    · exact .inl (by rw [hpass])
    · exact .inr (by rw [hpass])

/-- A stub and a form that hold themselves, and a form that holds both. -/
def knots : Graph :=
  ⟨#[.form none [.node 0], .form (some "f") [.atom "x", .node 1],
    .form (some "g") [.node 0, .node 1]]⟩

/-- The stub is not entered, and it comes before the form that never ends. -/
example : knots.serialize (.node 2) 0 .auto = .error (.failed .unnamedForm) ∧
    knots.serialize (.node 1) 0 .auto = .error .unfinished := by
  exact ⟨rfl, rfl⟩

end Graph

end SmtScript
