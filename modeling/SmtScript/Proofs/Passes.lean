import SmtScript.Stack
import SmtScript.Proofs.Unfolding

/-!
# The passes of a form

A form that may choose its layout is first written on one line. If this is too wide, the form is
written once more, each child on a line of its own, and its children are then written again too. The
rules here follow every pass. What they derive has come to an end, and it is the text or the error
that the graph gives.
-/

namespace SmtScript

namespace Graph

variable {g : Graph}

mutual

/-- The writing of a term, pass by pass, ends with a text or an error. -/
inductive Writes (g : Graph) : Term → Nat → Layout.Mode → Except SerializeError Text → Prop
  | atom (text : String) (depth : Nat) (mode : Layout.Mode) :
      Writes g (.atom text) depth mode (.ok text.toList)
  | str (content : String) (depth : Nat) (mode : Layout.Mode) :
      Writes g (.str content) depth mode (.ok (Layout.quoted content.toList))
  | list {items : List Term} {result : Except SerializeError (List Text)} (depth : Nat)
      (mode : Layout.Mode) (h : WritesAll g items 0 result) :
      Writes g (.list items) depth mode (result.map Layout.list)
  | comment (c : Comment) (depth : Nat) (mode : Layout.Mode) :
      Writes g (.comment c) depth mode (.ok (Layout.comment depth c))
  /-- What is below a stub is not written. -/
  | stub {id : NodeId} {children : List Term} (depth : Nat) (mode : Layout.Mode)
      (hnode : g.node id = .form none children) :
      Writes g (.node id) depth mode (.error .unnamedForm)
  /-- A form that is told its layout is written once. -/
  | told {id : NodeId} {name : String} {children : List Term} {depth : Nat} {mode : Layout.Mode}
      {result : Except SerializeError (List Text)}
      (hnode : g.node id = .form (some name) children) (hmode : mode ≠ .auto)
      (h : WritesAll g children (depth + 1) result) :
      Writes g (.node id) depth mode (result.map (Layout.form mode depth name.toList))
  /-- An error ends the first pass, and there is no second one. -/
  | fails {id : NodeId} {name : String} {children : List Term} {depth : Nat} {e : SerializeError}
      (hnode : g.node id = .form (some name) children)
      (h : WritesAll g children (depth + 1) (.error e)) :
      Writes g (.node id) depth .auto (.error e)
  /-- A form with at most one child, or with a line that is not too wide, keeps its line. -/
  | fits {id : NodeId} {name : String} {children : List Term} {depth : Nat} {texts : List Text}
      (hnode : g.node id = .form (some name) children)
      (h : WritesAll g children (depth + 1) (.ok texts))
      (hline : texts.length < 2 ∨ Layout.isTooWide (Layout.inlineForm name.toList texts) = false) :
      Writes g (.node id) depth .auto (.ok (Layout.inlineForm name.toList texts))
  /-- A form that is too wide is written again, spread. -/
  | again {id : NodeId} {name : String} {children : List Term} {depth : Nat} {texts : List Text}
      {result : Except SerializeError Text} (hnode : g.node id = .form (some name) children)
      (first : WritesAll g children (depth + 1) (.ok texts)) (hmany : 2 ≤ texts.length)
      (hwide : Layout.isTooWide (Layout.inlineForm name.toList texts) = true)
      (second : Writes g (.node id) depth .spread result) :
      Writes g (.node id) depth .auto result
  | emptyExpr {id : NodeId} (depth : Nat) (mode : Layout.Mode) (hnode : g.node id = .expr none) :
      Writes g (.node id) depth mode (.error .emptyExpression)
  | expr {id : NodeId} {content : Term} {depth : Nat} {result : Except SerializeError Text}
      (mode : Layout.Mode) (hnode : g.node id = .expr (some content))
      (h : Writes g content (depth + 1) .auto result) : Writes g (.node id) depth mode result

/-- The writing of terms one after the other ends with their texts or with the first error. -/
inductive WritesAll (g : Graph) : List Term → Nat → Except SerializeError (List Text) → Prop
  | nil (depth : Nat) : WritesAll g [] depth (.ok [])
  | error {t : Term} {depth : Nat} {e : SerializeError} (ts : List Term)
      (first : Writes g t depth .auto (.error e)) : WritesAll g (t :: ts) depth (.error e)
  | cons {t : Term} {ts : List Term} {depth : Nat} {text : Text}
      {result : Except SerializeError (List Text)} (first : Writes g t depth .auto (.ok text))
      (rest : WritesAll g ts depth result) :
      WritesAll g (t :: ts) depth (result.map (text :: ·))

end

/-! ## Every tree is written -/

/-- Where a form keeps its line, the layout is that of the first pass. -/
theorem form_auto_of_fits {depth : Nat} {name : Text} {texts : List Text}
    (h : texts.length < 2 ∨ Layout.isTooWide (Layout.inlineForm name texts) = false) :
    Layout.form .auto depth name texts = Layout.inlineForm name texts := by
  rcases texts with _ | ⟨first, _ | ⟨second, rest⟩⟩
  · rfl
  · rfl
  · have hline := h.resolve_left (by simp)
    simp only [Layout.form, hline, Bool.false_eq_true, if_false]

/-- Where it does not, the layout is that of the second pass. -/
theorem form_auto_of_wide {depth : Nat} {name : Text} {texts : List Text}
    (hmany : 2 ≤ texts.length) (h : Layout.isTooWide (Layout.inlineForm name texts) = true) :
    Layout.form .auto depth name texts = Layout.form .spread depth name texts := by
  rcases texts with _ | ⟨first, _ | ⟨second, rest⟩⟩
  · simp at hmany
  · simp at hmany
  · simp only [Layout.form, h, if_true]

/-- The passes of a form, once it is known how its children are written. -/
theorem WritesAll.form {id : NodeId} {name : String} {children : List Term} {depth : Nat}
    {result : Except SerializeError (List Text)} (h : g.WritesAll children (depth + 1) result)
    (hnode : g.node id = .form (some name) children) (mode : Layout.Mode) :
    g.Writes (.node id) depth mode (result.map (Layout.form mode depth name.toList)) := by
  by_cases hmode : mode = .auto
  · subst hmode
    cases result with
    | error e => exact .fails hnode h
    | ok texts =>
        by_cases hline :
            texts.length < 2 ∨ Layout.isTooWide (Layout.inlineForm name.toList texts) = false
        · have hfits := Writes.fits hnode h hline
          rwa [← form_auto_of_fits hline] at hfits
        · rw [not_or, Nat.not_lt, Bool.not_eq_false] at hline
          have hspread : g.Writes (.node id) depth .spread
              (.ok (Layout.form .spread depth name.toList texts)) := .told hnode (by decide) h
          have hagain := Writes.again hnode h hline.1 hline.2 hspread
          rwa [← form_auto_of_wide hline.1 hline.2] at hagain
  · exact .told hnode hmode h

mutual

/-- All passes of the writing of a term that has a tree end, with what the tree gives. -/
theorem Unfolds.writes {t : Term} {tree : Tree} (h : g.Unfolds t tree) (depth : Nat)
    (mode : Layout.Mode) : g.Writes t depth mode (tree.render depth mode) := by
  cases h with
  | atom text => exact .atom text depth mode
  | str content => exact .str content depth mode
  | @list items trees h =>
      have hlist := Writes.list depth mode (h.writesAll 0)
      rw [Tree.render]
      cases hitems : Tree.renderAll 0 trees <;> (rw [hitems] at hlist; exact hlist)
  | comment c => exact .comment c depth mode
  | stub hnode h => exact .stub depth mode hnode
  | @form id name children trees hnode h =>
      have hform := (h.writesAll (depth + 1)).form hnode mode
      rw [Tree.render]
      cases hchildren : Tree.renderAll (depth + 1) trees <;>
        (rw [hchildren] at hform; exact hform)
  | emptyExpr hnode => exact .emptyExpr depth mode hnode
  | expr hnode h => exact .expr mode hnode (h.writes (depth + 1) .auto)

theorem UnfoldsAll.writesAll {ts : List Term} {trees : List Tree} (h : g.UnfoldsAll ts trees)
    (depth : Nat) : g.WritesAll ts depth (Tree.renderAll depth trees) := by
  cases h with
  | nil => exact .nil depth
  | @cons t ts tree trees first rest =>
      have hfirst := first.writes depth .auto
      have hrest := rest.writesAll depth
      rw [Tree.renderAll]
      cases htext : tree.render depth .auto with
      | error e =>
          rw [htext] at hfirst
          exact .error ts hfirst
      | ok text =>
          rw [htext] at hfirst
          have hcons := WritesAll.cons hfirst hrest
          cases htexts : Tree.renderAll depth trees <;> (rw [htexts] at hcons; exact hcons)

end

/-- An acyclic term has a text or an error at every depth and in every mode: all passes of its
writing end, and they end with what the graph gives. -/
theorem Acyclic.writes {t : Term} (h : g.Acyclic t) (depth : Nat) (mode : Layout.Mode) :
    ∃ result, g.Writes t depth mode result ∧
      g.serialize t depth mode = (result.map String.ofList).mapError .failed := by
  obtain ⟨tree, htree⟩ := acyclic_iff.mp h
  exact ⟨_, htree.writes depth mode, htree.serialize depth mode⟩

end Graph

/-- A stack of acyclic commands has a text or an error. -/
theorem Stack.exists_serialize {g : Graph} {stack : Stack}
    (h : ∀ t ∈ stack.commands, g.Acyclic t) :
    ∃ result : Except SerializeError String, stack.serialize g = result.mapError .failed := by
  have hall : ∀ {ts : List Term}, (∀ t ∈ ts, g.Acyclic t) →
      ∃ result : Except SerializeError Text, renderAll g ts = result.mapError .failed := by
    intro ts hts
    induction ts with
    | nil => exact ⟨.ok [], rfl⟩
    | cons t ts ih =>
        rw [List.forall_mem_cons] at hts
        obtain ⟨tree, htree⟩ := Graph.acyclic_iff.mp hts.1
        obtain ⟨rest, hrest⟩ := ih hts.2
        rw [renderAll, htree.render, hrest]
        cases tree.render 0 .auto with
        | error e => exact ⟨.error e, rfl⟩
        | ok text =>
            cases rest with
            | error e => exact ⟨.error e, rfl⟩
            | ok others => exact ⟨.ok (text ++ '\n' :: others), rfl⟩
  obtain ⟨result, hresult⟩ := hall h
  refine ⟨result.map String.ofList, ?_⟩
  rw [serialize, render, hresult]
  cases result <;> rfl

end SmtScript
