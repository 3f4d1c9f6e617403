import SmtScript.Proofs.Reading

/-!
# Where an inline comment may stand

An inline comment has no line feed behind it, and so it lasts until the next one, whatever that is
part of. A form or a list that is joined on one line is read as it should be if each inline comment
in it has another comment right behind it, the last of which is spaced. A form that is spread ends
every line itself, and a comment alone hides nothing.
-/

namespace SmtScript

/-! ## Layouts -/

namespace Layout

/-- Does each child of the form have a line of its own? -/
def isSpread (mode : Mode) (name : Text) : List Text → Bool
  | first :: second :: rest =>
      match mode with
      | .auto => isTooWide (inlineForm name (first :: second :: rest))
      | .inline => false
      | .spread => true
  | _ => false

theorem form_of_isSpread {mode : Mode} {name : Text} {children : List Text} (depth : Nat)
    (h : isSpread mode name children = true) :
    form mode depth name children = spreadForm depth name children := by
  match children, mode with
  | [], _ | [_], _ | _ :: _ :: _, .inline => cases h
  | _ :: _ :: _, .spread => rfl
  | _ :: _ :: _, .auto => exact if_pos h

theorem form_of_not_isSpread {mode : Mode} {name : Text} {children : List Text} (depth : Nat)
    (h : isSpread mode name children = false) :
    form mode depth name children = inlineForm name children := by
  match children, mode with
  | [], _ | [_], _ | _ :: _ :: _, .inline => rfl
  | _ :: _ :: _, .spread => cases h
  | _ :: _ :: _, .auto => exact if_neg (Bool.eq_false_iff.mp h)

end Layout

/-! ## Sealed trees -/

/-- Names and atoms are clean, and no string contains a quote. Comments may be of either kind and
have any text. -/
def Piece.IsLegible : Piece → Prop
  | .comment _ => True
  | p => p.IsClean

instance : DecidablePred Piece.IsLegible
  | .comment _ => isTrue trivial
  | .atom text => inferInstanceAs (Decidable (Piece.atom text).IsClean)
  | .name text => inferInstanceAs (Decidable (Piece.name text).IsClean)
  | .str content => inferInstanceAs (Decidable (Piece.str content).IsClean)
  | .stub | .emptyExpr => isTrue trivial

namespace Tree

def IsLegible (t : Tree) : Prop :=
  ∀ p ∈ t.pieces, p.IsLegible

instance (t : Tree) : Decidable t.IsLegible :=
  inferInstanceAs (Decidable (∀ p ∈ t.pieces, p.IsLegible))

theorem IsLegible.of_part {t part : Tree} (h : t.IsLegible) (hpart : part ∈ t.parts) :
    part.IsLegible :=
  fun p hp => h p (mem_pieces_of_part hpart hp)

/-- A comment, perhaps in expressions. -/
def isNote : Tree → Bool
  | .comment _ => true
  | .expr content => content.isNote
  | _ => false

/-- An inline comment, perhaps in expressions. Its text leaves the comment open. -/
def isOpen : Tree → Bool
  | .comment c => !c.spaced
  | .expr content => content.isOpen
  | _ => false

/-- Behind each inline comment on the line there is another comment, and the last one is spaced. -/
def closesLine : List Tree → Bool
  | [] => true
  | t :: rest => (!t.isOpen || rest.head?.any isNote) && closesLine rest

/-- Is the form spread, with its children as they are written there? -/
def spreads (depth : Nat) (mode : Layout.Mode) (name : String) (children : List Tree) : Bool :=
  match renderAll (depth + 1) children with
  | .ok texts => Layout.isSpread mode name.toList texts
  | .error _ => false

mutual

/-- Every form and every list in the tree that is joined on one line closes its line. -/
def isSealed (depth : Nat) (mode : Layout.Mode) : Tree → Bool
  | .list items => closesLine items && allSealed 0 items
  | .form name children =>
      (spreads depth mode name children || closesLine children) && allSealed (depth + 1) children
  | .expr content => content.isSealed (depth + 1) .auto
  | _ => true

def allSealed (depth : Nat) : List Tree → Bool
  | [] => true
  | t :: ts => t.isSealed depth .auto && allSealed depth ts

end

theorem allSealed_iff {depth : Nat} : ∀ {ts : List Tree},
    allSealed depth ts = true ↔ ∀ t ∈ ts, t.isSealed depth .auto = true
  | [] => by simp [allSealed]
  | t :: ts => by rw [allSealed, Bool.and_eq_true, allSealed_iff, List.forall_mem_cons]

end Tree

namespace SExpr

variable {ends : Char → Bool} {outer : List (List SExpr)} {items : List SExpr} {token : Token}

/-! ## Comments of both kinds -/

/-- What the text of the tree leaves the reader in, apart from a symbol under way. -/
def Token.behind (t : Tree) : Token :=
  if t.isOpen then .comment else .none

theorem Token.behind_cases (t : Tree) :
    behind t = .none ∨ behind t = .comment ∧ t.isOpen = true := by
  rw [behind]
  cases t.isOpen with
  | true => exact .inr ⟨rfl, rfl⟩
  | false => exact .inl rfl

/-- What the first text of such a line leaves open is closed behind it. -/
theorem Token.behind_of_closesLine {t : Tree} {ts : List Tree}
    (h : Tree.closesLine (t :: ts) = true) :
    (behind t = .none ∨ behind t = .comment ∧ ts.head?.any Tree.isNote = true) ∧
      Tree.closesLine ts = true := by
  simp only [Tree.closesLine, Bool.and_eq_true, Bool.or_eq_true, Bool.not_eq_true'] at h
  refine ⟨?_, h.2⟩
  rcases behind_cases t with hbehind | ⟨hbehind, hopen⟩
  · exact .inl hbehind
  · rw [hopen] at h
    exact .inr ⟨hbehind, h.1.resolve_left Bool.noConfusion⟩

namespace Reading

theorem steps_spaces_comment (hends : EndsAtLines ends) (n : Nat) :
    steps ends ⟨outer, items, .comment⟩ (Layout.spaces n) = some ⟨outer, items, .comment⟩ := by
  have hspace : ends ' ' = false := hends.eq_false (by decide) (by decide)
  induction n with
  | zero => rfl
  | succ n ih =>
      rw [Layout.spaces, List.replicate_succ, steps_cons, step_comment hspace]
      exact ih

theorem eq_of_flush_comment {r : Reading} (hr : r.flush = ⟨outer, items, .comment⟩) :
    r = ⟨outer, items, .comment⟩ := by
  obtain ⟨before, inner, own⟩ := r
  cases own with
  | none | symbol text | string content => cases hr
  | comment => exact hr

/-- Between two tokens or in a comment, a space changes nothing. -/
theorem step_space (hends : EndsAtLines ends) {r : Reading} (hr : r.flush = ⟨outer, items, token⟩)
    (htoken : token = .none ∨ token = .comment) :
    r.step ends ' ' = some ⟨outer, items, token⟩ := by
  rcases htoken with rfl | rfl
  · exact step_blank hr (by decide)
  · rw [eq_of_flush_comment hr]
    exact step_comment (hends.eq_false (by decide) (by decide))

theorem step_newline (hends : EndsAtLines ends) {r : Reading}
    (hr : r.flush = ⟨outer, items, token⟩) (htoken : token = .none ∨ token = .comment) :
    r.step ends '\n' = some ⟨outer, items, .none⟩ := by
  rcases htoken with rfl | rfl
  · exact step_blank hr (by decide)
  · rw [eq_of_flush_comment hr]
    exact step_comment_end hends

/-- A comment is read alike between two tokens and behind another comment. -/
theorem steps_note (hends : EndsAtLines ends) {c : Comment} (h : Keeps ends c.text.toList)
    (depth : Nat) (htoken : token = .none ∨ token = .comment) :
    steps ends ⟨outer, items, token⟩ (Layout.comment depth c) =
      some ⟨outer, items, .behind (.comment c)⟩ := by
  obtain ⟨text, spaced⟩ := c
  cases spaced with
  | true =>
      have hbetween : steps ends ⟨outer, items, .none⟩ (Layout.comment depth ⟨text, true⟩) =
          some ⟨outer, items, .none⟩ := steps_spaced_comment hends rfl h depth
      rcases htoken with rfl | rfl
      · exact hbetween
      · -- the first line feed ends the comment before, and from there on it is the same
        rw [Layout.comment] at hbetween ⊢
        simp only [if_true] at hbetween ⊢
        rw [steps_cons, step_blank flush_none (by decide)] at hbetween
        rw [steps_cons, step_comment_end hends]
        exact hbetween
  | false =>
      have hmark : ends ';' = false := hends.eq_false (by decide) (by decide)
      have hspace : ends ' ' = false := hends.eq_false (by decide) (by decide)
      rw [Layout.comment]
      simp only [Bool.false_eq_true, if_false]
      rcases htoken with rfl | rfl
      · rw [steps_append, steps_spaces, Option.bind_some]
        exact steps_commentLines hends h
      · rw [steps_append, steps_spaces_comment hends, Option.bind_some, Layout.commentLines,
          steps_cons, step_comment hmark, Option.bind_some, steps_cons, step_comment hspace,
          Option.bind_some]
        exact steps_comment_rest hends h

end Reading

/-- Between two tokens, the text is read as what the tree says, and a comment is also read behind
another comment. The text may leave the reader in a symbol, and it leaves it in a comment if the
tree is an inline one. -/
def ReadsAs (ends : Char → Bool) (t : Tree) (text : Text) : Prop :=
  ∀ outer items token, token = .none ∨ token = .comment ∧ t.isNote = true →
    ∃ r, Reading.steps ends ⟨outer, items, token⟩ text = some r ∧
      r.flush = ⟨outer, items ++ t.sexprs, .behind t⟩

/-- A text that is no comment is read between two tokens only. -/
theorem ReadsAs.of_reads {t : Tree} {text : Text} (h : Reads ends text t.sexprs)
    (hnote : t.isNote = false) (hopen : t.isOpen = false) : ReadsAs ends t text := by
  rintro outer items token (rfl | ⟨-, hown⟩)
  · rw [Token.behind, hopen]
    exact h outer items
  · rw [hnote] at hown
    cases hown

theorem readsAs_comment (hends : EndsAtLines ends) {c : Comment} (h : Keeps ends c.text.toList)
    (depth : Nat) : ReadsAs ends (.comment c) (Layout.comment depth c) := by
  intro outer items token htoken
  have hsteps : Reading.steps ends ⟨outer, items, token⟩ (Layout.comment depth c) =
      some ⟨outer, items, .behind (.comment c)⟩ :=
    Reading.steps_note hends h depth (htoken.imp_right And.left)
  refine ⟨_, hsteps, ?_⟩
  rw [Tree.sexprs, List.append_nil]
  rcases Token.behind_cases (.comment c) with hbehind | ⟨hbehind, -⟩ <;> (rw [hbehind]; rfl)

/-! ## Parts on one line and on lines of their own -/

/-- The texts stand each behind a space. Behind a comment the first of them is a comment. -/
theorem steps_joined (hends : EndsAtLines ends) {ts : List Tree} {texts : List Text}
    (h : List.Forall₂ (ReadsAs ends) ts texts) : Tree.closesLine ts = true →
      ∀ {r : Reading} {outer : List (List SExpr)} {items : List SExpr} {token : Token},
        r.flush = ⟨outer, items, token⟩ →
          token = .none ∨ token = .comment ∧ ts.head?.any Tree.isNote = true →
            ∃ last, r.steps ends (texts.flatMap (' ' :: ·)) = some last ∧
              last.flush = ⟨outer, items ++ Tree.sexprsAll ts, .none⟩ := by
  induction h with
  | nil =>
      intro _ r outer items token hr htoken
      rcases htoken with rfl | ⟨-, hnote⟩
      · exact ⟨r, rfl, by rw [hr, Tree.sexprsAll, List.append_nil]⟩
      · cases hnote
  | @cons t text ts texts hfirst _ ih =>
      intro hcloses r outer items token hr htoken
      obtain ⟨hnext, hcloses⟩ := Token.behind_of_closesLine hcloses
      obtain ⟨next, hsteps, hflush⟩ := hfirst outer items token htoken
      obtain ⟨last, hlast, hdone⟩ := ih hcloses hflush hnext
      refine ⟨last, ?_, by rw [hdone, Tree.sexprsAll, List.append_assoc]⟩
      rw [List.flatMap_cons, List.cons_append, Reading.steps_cons,
        Reading.step_space hends hr (htoken.imp_right And.left), Option.bind_some,
        Reading.steps_append, hsteps]
      exact hlast

/-- The texts stand each on lines of their own. -/
theorem steps_spread (hends : EndsAtLines ends) {ts : List Tree} {texts : List Text} (depth : Nat)
    (h : List.Forall₂ (ReadsAs ends) ts texts) :
    ∀ {outer : List (List SExpr)} {items : List SExpr},
      Reading.steps ends ⟨outer, items, .none⟩
          (texts.flatMap fun child => Layout.spaces (2 * depth) ++ child ++ ['\n'])
        = some ⟨outer, items ++ Tree.sexprsAll ts, .none⟩ := by
  induction h with
  | nil => intro outer items; rw [Tree.sexprsAll, List.append_nil]; rfl
  | @cons t text ts texts hfirst _ ih =>
      intro outer items
      obtain ⟨next, hnext, hflush⟩ := hfirst outer items .none (.inl rfl)
      have hend := Reading.step_newline hends hflush
        ((Token.behind_cases t).imp_right And.left)
      rw [List.flatMap_cons, Reading.steps_append, Reading.steps_append, Reading.steps_append,
        Reading.steps_spaces, Option.bind_some, hnext, Option.bind_some, Reading.steps_cons, hend,
        Option.bind_some]
      show (some _).bind _ = _
      rw [Option.bind_some, ih, Tree.sexprsAll, List.append_assoc]

/-- The first item of a list has no space before it, but there it would make no difference. -/
theorem Reading.steps_intercalate (hends : EndsAtLines ends)
    (htoken : token = .none ∨ token = .comment) (texts : List Text) :
    steps ends ⟨outer, items, token⟩ ([' '].intercalate texts) =
      steps ends ⟨outer, items, token⟩ (texts.flatMap (' ' :: ·)) := by
  cases texts with
  | nil => rfl
  | cons first rest =>
      have hflush : flush ⟨outer, items, token⟩ = ⟨outer, items, token⟩ := by
        rcases htoken with rfl | rfl <;> rfl
      rw [intercalate_cons, List.flatMap_cons, List.cons_append, steps_cons,
        step_space hends hflush htoken, Option.bind_some]

theorem reads_joined_list (hends : EndsAtLines ends) {ts : List Tree} {texts : List Text}
    (h : List.Forall₂ (ReadsAs ends) ts texts) (hcloses : Tree.closesLine ts = true) :
    Reads ends (Layout.list texts) [.list (Tree.sexprsAll ts)] := by
  intro outer items
  have hflush : Reading.flush ⟨items :: outer, [], .none⟩ = ⟨items :: outer, [], .none⟩ := rfl
  obtain ⟨last, hlast, hdone⟩ := steps_joined hends h hcloses hflush (.inl rfl)
  refine ⟨_, ?_, Reading.flush_none⟩
  rw [Layout.list, Reading.steps_cons, Reading.step_open Reading.flush_none, Option.bind_some,
    Reading.steps_append, Reading.steps_intercalate hends (.inl rfl), hlast, Option.bind_some,
    Reading.steps_cons, Reading.step_close hdone]
  rfl

/-! ## Sealed trees are read as they should be -/

theorem readsAs_render (hends : EndsAtLines ends) (t : Tree) :
    t.IsLegible → KeepsAll ends t → ∀ (depth : Nat) (mode : Layout.Mode) (text : Text),
      t.isSealed depth mode = true → t.render depth mode = .ok text → ReadsAs ends t text := by
  induction t with
  | atom text =>
      intro hlegible _ depth mode _ _ htext
      cases htext
      exact .of_reads (reads_symbol (hlegible _ List.mem_cons_self)) rfl rfl
  | str content =>
      intro hlegible _ depth mode _ _ htext
      cases htext
      exact .of_reads (reads_quoted (hlegible _ List.mem_cons_self)) rfl rfl
  | list items ih =>
      intro hlegible hkeeps depth mode text hsealed htext
      obtain ⟨texts, htexts, rfl⟩ := Tree.render_list_eq_ok_iff.mp htext
      rw [Tree.isSealed, Bool.and_eq_true, Tree.allSealed_iff] at hsealed
      refine .of_reads (reads_joined_list hends ?_ hsealed.1) rfl rfl
      apply Tree.forall₂_of_renderAll htexts
      intro t ht text
      exact ih t ht (hlegible.of_part ht) (hkeeps.of_part ht) 0 .auto text (hsealed.2 t ht)
  | comment c =>
      intro _ hkeeps depth mode _ _ htext
      cases htext
      exact readsAs_comment hends (hkeeps c List.mem_cons_self) depth
  | stub children => intro _ _ depth mode _ _ htext; cases htext
  | form name children ih =>
      intro hlegible hkeeps depth mode text hsealed htext
      obtain ⟨texts, htexts, rfl⟩ := Tree.render_form_eq_ok_iff.mp htext
      rw [Tree.isSealed, Tree.spreads, htexts, Bool.and_eq_true, Tree.allSealed_iff] at hsealed
      have hname : IsClean name.toList := hlegible (.name name) List.mem_cons_self
      have hchildren : List.Forall₂ (ReadsAs ends) children texts := by
        apply Tree.forall₂_of_renderAll htexts
        intro t ht text
        exact ih t ht (hlegible.of_part ht) (hkeeps.of_part ht) (depth + 1) .auto text
          (hsealed.2 t ht)
      cases hspread : Layout.isSpread mode name.toList texts with
      | true =>
          rw [Layout.form_of_isSpread depth hspread]
          have hlines := reads_spreadForm_of_steps hname depth (steps_spread hends depth hchildren)
          exact .of_reads hlines rfl rfl
      | false =>
          have hcloses : Tree.closesLine children = true := by simpa [hspread] using hsealed.1
          rw [Layout.form_of_not_isSpread depth hspread]
          have hline := reads_inlineForm_of_steps hname fun hr =>
            steps_joined hends hchildren hcloses hr (.inl rfl)
          exact .of_reads hline rfl rfl
  | emptyExpr => intro _ _ depth mode _ _ htext; cases htext
  | expr content ih =>
      intro hlegible hkeeps depth mode text hsealed htext
      have hpart : content ∈ (Tree.expr content).parts := List.mem_singleton_self content
      exact ih (hlegible.of_part hpart) (hkeeps.of_part hpart) (depth + 1) .auto text hsealed htext

/-- A symbol or a comment may be under way at the end of a text. -/
theorem Reading.finish?_of_flush {r : Reading} {es : List SExpr} (hr : r.flush = ⟨[], es, token⟩)
    (htoken : token = .none ∨ token = .comment) : r.finish? = some es := by
  obtain ⟨outer, items, own⟩ := r
  cases own with
  | string content => rcases htoken with rfl | rfl <;> cases hr
  | none | symbol text | comment =>
      obtain rfl : outer = [] := congrArg Reading.outer hr
      exact congrArg (fun r => some r.items) hr

theorem readWith_of_readsAs {t : Tree} {text : Text} (h : ReadsAs ends t text) :
    readWith ends text = some t.sexprs := by
  obtain ⟨last, hlast, hflush⟩ := h [] [] .none (.inl rfl)
  rw [readWith, Reading.start, hlast, Option.bind_some]
  exact Reading.finish?_of_flush hflush ((Token.behind_cases t).imp_right And.left)

end SExpr

end SmtScript
