import SmtScript.SExpr
import SmtScript.Proofs.Unfolding

/-!
# Layout never changes what is read

Reading a text between two tokens leaves the reader between two tokens again, or in a symbol that
the next separator ends. This is the invariant that the parts of a form and of a list keep,
whatever is put between them: a space, a line feed or an indentation.
-/

namespace SmtScript

/-! ## Clean pieces -/

/-- The characters that end a symbol or have a meaning of their own in some dialect. -/
def delimiters : List Char :=
  [' ', '\t', '\n', '\r', '(', ')', '"', ';', '|']

/-- The text is read as one symbol. -/
def IsClean (text : Text) : Prop :=
  text ≠ [] ∧ ∀ c ∈ text, c ∉ delimiters

-- Only the characters of the text are tried, and not all that there are.
instance (text : Text) : Decidable (IsClean text) :=
  @instDecidableAnd (text ≠ []) (∀ c ∈ text, c ∉ delimiters) _ (List.decidableBAll _ text)

namespace Piece

/-- Names and atoms are clean, no string contains a quote, and no comment is inline. -/
def IsClean : Piece → Prop
  | .atom text | .name text => SmtScript.IsClean text.toList
  | .str content => '"' ∉ content.toList
  | .comment c => c.spaced = true
  | .stub | .emptyExpr => True

instance : DecidablePred IsClean
  | .atom text | .name text => inferInstanceAs (Decidable (SmtScript.IsClean text.toList))
  | .str content => inferInstanceAs (Decidable ('"' ∉ content.toList))
  | .comment c => inferInstanceAs (Decidable (c.spaced = true))
  | .stub | .emptyExpr => isTrue trivial

end Piece

def Tree.IsClean (t : Tree) : Prop :=
  ∀ p ∈ t.pieces, p.IsClean

instance (t : Tree) : Decidable t.IsClean :=
  inferInstanceAs (Decidable (∀ p ∈ t.pieces, p.IsClean))

theorem Tree.IsClean.of_part {t part : Tree} (h : t.IsClean) (hpart : part ∈ t.parts) :
    part.IsClean :=
  fun p hp => h p (Tree.mem_pieces_of_part hpart hp)

namespace SExpr

/-- Comments end at a line feed, and perhaps at a carriage return too. -/
structure EndsAtLines (ends : Char → Bool) : Prop where
  lf : ends '\n' = true
  only : ∀ c, ends c = true → c = '\n' ∨ c = '\r'

theorem EndsAtLines.eq_false {ends : Char → Bool} (h : EndsAtLines ends) {c : Char}
    (hlf : c ≠ '\n') (hcr : c ≠ '\r') : ends c = false := by
  by_contra hc
  rcases h.only c (by simpa using hc) with hc | hc
  · exact hlf hc
  · exact hcr hc

/-- The comment has no carriage return, where one would end it. -/
def Keeps (ends : Char → Bool) (text : Text) : Prop :=
  ends '\r' = true → '\r' ∉ text

namespace Reading

variable {ends : Char → Bool} {r : Reading} {outer : List (List SExpr)} {items : List SExpr}

theorem steps_cons (c : Char) (rest : Text) :
    r.steps ends (c :: rest) = (r.step ends c).bind fun next => next.steps ends rest :=
  rfl

/-! ## One character -/

@[simp] theorem flush_none : flush ⟨outer, items, .none⟩ = ⟨outer, items, .none⟩ := rfl

@[simp] theorem flush_symbol (text : Text) :
    flush ⟨outer, items, .symbol text⟩ = ⟨outer, items ++ [.symbol text], .none⟩ := rfl

/-- A reader that a separator leaves between two tokens is between them or in a symbol. -/
theorem step_eq_plain (h : r.flush = ⟨outer, items, .none⟩) (c : Char) :
    r.step ends c = r.plain c := by
  obtain ⟨before, inner, token⟩ := r
  cases token with
  | none => rfl
  | symbol text => rfl
  | string content => cases h
  | comment => cases h

theorem step_blank (h : r.flush = ⟨outer, items, .none⟩) {c : Char} (hc : isBlank c = true) :
    r.step ends c = some ⟨outer, items, .none⟩ := by
  rw [step_eq_plain h, plain, if_pos hc, h]

theorem step_close {before : List SExpr} (h : r.flush = ⟨before :: outer, items, .none⟩) :
    r.step ends ')' = some ⟨outer, before ++ [.list items], .none⟩ := by
  rw [step_eq_plain h, plain, if_neg (by decide), if_neg (by decide), if_pos rfl, h]
  rfl

theorem step_open (h : r.flush = ⟨outer, items, .none⟩) :
    r.step ends '(' = some ⟨items :: outer, [], .none⟩ := by
  rw [step_eq_plain h, plain, if_neg (by decide), if_pos rfl, h]

theorem steps_spaces (n : Nat) :
    steps ends ⟨outer, items, .none⟩ (Layout.spaces n) = some ⟨outer, items, .none⟩ := by
  induction n with
  | zero => rfl
  | succ n ih =>
      rw [Layout.spaces, List.replicate_succ, steps_cons, step_blank (flush_none) (by decide)]
      exact ih

/-! ## Symbols and strings -/

theorem step_clean {c : Char} (hc : c ∉ delimiters) (text : Text) :
    step ends ⟨outer, items, .symbol text⟩ c = some ⟨outer, items, .symbol (text ++ [c])⟩ := by
  simp only [delimiters, List.mem_cons, List.not_mem_nil, or_false, not_or] at hc
  simp [step, plain, isBlank, hc]

theorem steps_clean : ∀ {rest : Text}, (∀ c ∈ rest, c ∉ delimiters) → ∀ text : Text,
    steps ends ⟨outer, items, .symbol text⟩ rest
      = some ⟨outer, items, .symbol (text ++ rest)⟩
  | [], _, text => by rw [List.append_nil]; rfl
  | c :: rest, h, text => by
      rw [steps_cons, step_clean (h c List.mem_cons_self)]
      have ih := steps_clean (fun d hd => h d (List.mem_cons_of_mem c hd)) (text ++ [c])
      rw [Option.bind_some, ih, List.append_assoc, List.singleton_append]

/-- A clean text between two tokens is read as a symbol. -/
theorem steps_symbol {text : Text} (h : IsClean text) :
    steps ends ⟨outer, items, .none⟩ text = some ⟨outer, items, .symbol text⟩ := by
  obtain ⟨hne, hclean⟩ := h
  cases text with
  | nil => exact absurd rfl hne
  | cons c rest =>
      have hc := hclean c List.mem_cons_self
      have hfirst : step ends ⟨outer, items, .none⟩ c = some ⟨outer, items, .symbol [c]⟩ := by
        simp only [delimiters, List.mem_cons, List.not_mem_nil, or_false, not_or] at hc
        simp [step, plain, isBlank, hc]
      rw [steps_cons, hfirst]
      exact steps_clean (fun d hd => hclean d (List.mem_cons_of_mem c hd)) [c]

theorem steps_content : ∀ {rest : Text}, '"' ∉ rest → ∀ content : Text,
    steps ends ⟨outer, items, .string content⟩ (rest ++ ['"'])
      = some ⟨outer, items ++ [.string (content ++ rest)], .none⟩
  | [], _, content => by rw [List.append_nil]; rfl
  | c :: rest, h, content => by
      simp only [List.mem_cons, not_or] at h
      have hstep : step ends ⟨outer, items, .string content⟩ c
          = some ⟨outer, items, .string (content ++ [c])⟩ := by
        simp [step, Ne.symm h.1]
      rw [List.cons_append, steps_cons, hstep, Option.bind_some, steps_content h.2,
        List.append_assoc, List.singleton_append]

theorem steps_quoted {content : Text} (h : '"' ∉ content) :
    steps ends ⟨outer, items, .none⟩ (Layout.quoted content)
      = some ⟨outer, items ++ [.string content], .none⟩ := by
  rw [Layout.quoted, steps_cons]
  exact steps_content h []

/-! ## Comments -/

theorem step_mark : step ends ⟨outer, items, .none⟩ ';' = some ⟨outer, items, .comment⟩ := by
  rfl

theorem step_comment {c : Char} (h : ends c = false) :
    step ends ⟨outer, items, .comment⟩ c = some ⟨outer, items, .comment⟩ := by
  simp [step, h]

theorem step_comment_end (hends : EndsAtLines ends) :
    step ends ⟨outer, items, .comment⟩ '\n' = some ⟨outer, items, .none⟩ := by
  simp [step, hends.lf]

/-- Every line feed in a comment is followed by a new comment mark. -/
theorem steps_comment_rest (hends : EndsAtLines ends) : ∀ {text : Text}, Keeps ends text →
    steps ends ⟨outer, items, .comment⟩
      (text.flatMap fun c => if c = '\n' then ['\n', ';', ' '] else [c])
      = some ⟨outer, items, .comment⟩
  | [], _ => rfl
  | c :: rest, h => by
      have hrest : Keeps ends rest := fun hcr hmem => h hcr (List.mem_cons_of_mem c hmem)
      have ih := steps_comment_rest hends hrest
      rw [List.flatMap_cons]
      by_cases hc : c = '\n'
      · -- the comment ends here, and the mark behind the line feed begins the next
        rw [if_pos hc, List.cons_append, steps_cons, step_comment_end hends, Option.bind_some,
          List.cons_append, steps_cons, step_mark, Option.bind_some, List.cons_append, steps_cons,
          step_comment (hends.eq_false (by decide) (by decide)), Option.bind_some]
        exact ih
      · have hstep : ends c = false := by
          by_cases hcr : c = '\r'
          · by_contra hstep
            subst hcr
            exact h (by simpa using hstep) List.mem_cons_self
          · exact hends.eq_false hc hcr
        rw [if_neg hc, List.cons_append, steps_cons, step_comment hstep, Option.bind_some]
        exact ih

theorem steps_commentLines (hends : EndsAtLines ends) {text : Text} (h : Keeps ends text) :
    steps ends ⟨outer, items, .none⟩ (Layout.commentLines text)
      = some ⟨outer, items, .comment⟩ := by
  rw [Layout.commentLines, steps_cons, step_mark, Option.bind_some, steps_cons,
    step_comment (hends.eq_false (by decide) (by decide)), Option.bind_some]
  exact steps_comment_rest hends h

/-- A spaced comment at any depth leaves the reader where it was. -/
theorem steps_spaced_comment (hends : EndsAtLines ends) {c : Comment} (hspaced : c.spaced = true)
    (h : Keeps ends c.text.toList) (depth : Nat) :
    steps ends ⟨outer, items, .none⟩ (Layout.comment depth c)
      = some ⟨outer, items, .none⟩ := by
  rw [Layout.comment]
  simp only [hspaced, if_true]
  rw [steps_cons, step_blank flush_none (by decide), Option.bind_some, List.append_assoc,
    steps_append, steps_spaces, Option.bind_some, steps_append, steps_commentLines hends h,
    Option.bind_some, steps_cons, step_comment_end hends]
  exact steps_spaces _

end Reading

/-! ## Texts that are read as given -/

/-- Between two tokens, the text is read as the s-expressions. It may leave the reader in a symbol
that the next separator ends, but not in a string or a comment. -/
def Reads (ends : Char → Bool) (text : Text) (es : List SExpr) : Prop :=
  ∀ outer items, ∃ r, Reading.steps ends ⟨outer, items, .none⟩ text = some r ∧
    r.flush = ⟨outer, items ++ es, .none⟩

section

variable {ends : Char → Bool}

theorem reads_symbol {text : Text} (h : IsClean text) : Reads ends text [.symbol text] :=
  fun _ _ => ⟨_, Reading.steps_symbol h, Reading.flush_symbol text⟩

theorem reads_quoted {content : Text} (h : '"' ∉ content) :
    Reads ends (Layout.quoted content) [.string content] :=
  fun _ _ => ⟨_, Reading.steps_quoted h, Reading.flush_none⟩

theorem reads_spaced_comment (hends : EndsAtLines ends) {c : Comment} (hspaced : c.spaced = true)
    (h : Keeps ends c.text.toList) (depth : Nat) : Reads ends (Layout.comment depth c) [] := by
  intro outer items
  refine ⟨_, Reading.steps_spaced_comment hends hspaced h depth, ?_⟩
  rw [List.append_nil, Reading.flush_none]

/-! ### Parts between separators -/

/-- Texts that stand each behind a blank and perhaps further spaces are read one after the other. -/
theorem steps_children {ts : List Tree} {texts : List Text}
    (h : List.Forall₂ (fun t text => Reads ends text t.sexprs) ts texts) :
    ∀ {r : Reading} {outer : List (List SExpr)} {items : List SExpr},
      r.flush = ⟨outer, items, .none⟩ →
        ∃ last, r.steps ends (texts.flatMap (' ' :: ·)) = some last ∧
          last.flush = ⟨outer, items ++ Tree.sexprsAll ts, .none⟩ := by
  induction h with
  | nil =>
      intro r outer items hr
      exact ⟨r, rfl, by rw [hr, Tree.sexprsAll, List.append_nil]⟩
  | @cons t text ts texts hfirst _ ih =>
      intro r outer items hr
      obtain ⟨next, hnext, hflush⟩ := hfirst outer items
      obtain ⟨last, hlast, hdone⟩ := ih hflush
      refine ⟨last, ?_, by rw [hdone, Tree.sexprsAll, List.append_assoc]⟩
      rw [List.flatMap_cons, List.cons_append, Reading.steps_cons,
        Reading.step_blank hr (by decide), Option.bind_some, Reading.steps_append, hnext]
      exact hlast

theorem steps_lines {ts : List Tree} {texts : List Text} (depth : Nat)
    (h : List.Forall₂ (fun t text => Reads ends text t.sexprs) ts texts) :
    ∀ {outer : List (List SExpr)} {items : List SExpr},
      Reading.steps ends ⟨outer, items, .none⟩
          (texts.flatMap fun child => Layout.spaces (2 * depth) ++ child ++ ['\n'])
        = some ⟨outer, items ++ Tree.sexprsAll ts, .none⟩ := by
  induction h with
  | nil => intro outer items; rw [Tree.sexprsAll, List.append_nil]; rfl
  | @cons t text ts texts hfirst _ ih =>
      intro outer items
      obtain ⟨next, hnext, hflush⟩ := hfirst outer items
      rw [List.flatMap_cons, Reading.steps_append, Reading.steps_append, Reading.steps_append,
        Reading.steps_spaces, Option.bind_some, hnext, Option.bind_some, Reading.steps_cons,
        Reading.step_blank hflush (by decide), Option.bind_some]
      show (some _).bind _ = _
      rw [Option.bind_some, ih, Tree.sexprsAll, List.append_assoc]

/-! ### Forms and lists -/

/-- A form on one line is read as its name and what is read behind the name. -/
theorem reads_inlineForm_of_steps {name : Text} (hname : IsClean name) {texts : List Text}
    {es : List SExpr}
    (h : ∀ {r : Reading} {outer : List (List SExpr)} {items : List SExpr},
      r.flush = ⟨outer, items, .none⟩ →
        ∃ last, r.steps ends (texts.flatMap (' ' :: ·)) = some last ∧
          last.flush = ⟨outer, items ++ es, .none⟩) :
    Reads ends (Layout.inlineForm name texts) [.list (.symbol name :: es)] := by
  intro outer items
  have hname' : Reading.flush ⟨items :: outer, [], .symbol name⟩
      = ⟨items :: outer, [.symbol name], .none⟩ := Reading.flush_symbol name
  obtain ⟨last, hlast, hflush⟩ := h hname'
  refine ⟨_, ?_, Reading.flush_none⟩
  rw [Layout.inlineForm, Reading.steps_cons, Reading.step_open Reading.flush_none,
    Option.bind_some, List.append_assoc, Reading.steps_append, Reading.steps_symbol hname,
    Option.bind_some, Reading.steps_append, hlast, Option.bind_some, Reading.steps_cons,
    Reading.step_close hflush]
  rfl

theorem reads_inlineForm {name : Text} (hname : IsClean name) {ts : List Tree}
    {texts : List Text}
    (h : List.Forall₂ (fun t text => Reads ends text t.sexprs) ts texts) :
    Reads ends (Layout.inlineForm name texts)
      [.list (.symbol name :: Tree.sexprsAll ts)] :=
  reads_inlineForm_of_steps hname (steps_children h)

/-- A form over several lines is read as its name and what is read on the lines below. -/
theorem reads_spreadForm_of_steps {name : Text} (hname : IsClean name) {texts : List Text}
    {es : List SExpr} (depth : Nat)
    (h : ∀ {outer : List (List SExpr)} {items : List SExpr},
      Reading.steps ends ⟨outer, items, .none⟩
          (texts.flatMap fun child => Layout.spaces (2 * depth) ++ child ++ ['\n'])
        = some ⟨outer, items ++ es, .none⟩) :
    Reads ends (Layout.spreadForm depth name texts) [.list (.symbol name :: es)] := by
  intro outer items
  refine ⟨_, ?_, Reading.flush_none⟩
  rw [Layout.spreadForm, Reading.steps_cons, Reading.step_open Reading.flush_none,
    Option.bind_some, List.append_assoc, Reading.steps_append, Reading.steps_symbol hname,
    Option.bind_some, List.cons_append, Reading.steps_cons,
    Reading.step_blank (Reading.flush_symbol name) (by decide), Option.bind_some,
    Reading.steps_append, h, Option.bind_some, Reading.steps_cons,
    Reading.step_close Reading.flush_none]
  rfl

theorem reads_spreadForm {name : Text} (hname : IsClean name) {ts : List Tree}
    {texts : List Text} (depth : Nat)
    (h : List.Forall₂ (fun t text => Reads ends text t.sexprs) ts texts) :
    Reads ends (Layout.spreadForm depth name texts)
      [.list (.symbol name :: Tree.sexprsAll ts)] :=
  reads_spreadForm_of_steps hname depth (steps_lines depth h)

/-- Whatever layout is chosen, a form is read as its name and its children. -/
theorem reads_form {name : Text} (hname : IsClean name) {ts : List Tree} {texts : List Text}
    (mode : Layout.Mode) (depth : Nat)
    (h : List.Forall₂ (fun t text => Reads ends text t.sexprs) ts texts) :
    Reads ends (Layout.form mode depth name texts)
      [.list (.symbol name :: Tree.sexprsAll ts)] := by
  rw [Layout.form.eq_def]
  split
  · split
    · exact reads_inlineForm hname h
    · exact reads_spreadForm hname depth h
    · split
      · exact reads_spreadForm hname depth h
      · exact reads_inlineForm hname h
  · exact reads_inlineForm hname h

theorem intercalate_cons : ∀ (first : Text) (rest : List Text),
    [' '].intercalate (first :: rest) = first ++ rest.flatMap (' ' :: ·)
  | first, [] => by simp
  | first, second :: rest => by
      rw [List.intercalate_cons_cons, intercalate_cons second rest]
      simp

theorem reads_list {ts : List Tree} {texts : List Text}
    (h : List.Forall₂ (fun t text => Reads ends text t.sexprs) ts texts) :
    Reads ends (Layout.list texts) [.list (Tree.sexprsAll ts)] := by
  intro outer items
  refine ⟨_, ?_, Reading.flush_none⟩
  rw [Layout.list, Reading.steps_cons, Reading.step_open Reading.flush_none, Option.bind_some]
  cases h with
  | nil => rfl
  | @cons t text ts texts hfirst hrest =>
      -- the first item has no space before it, the others are read like children
      obtain ⟨next, hnext, hflush⟩ := hfirst (items :: outer) []
      obtain ⟨last, hlast, hdone⟩ := steps_children hrest hflush
      rw [intercalate_cons, List.append_assoc, Reading.steps_append, hnext, Option.bind_some,
        Reading.steps_append, hlast, Option.bind_some, Reading.steps_cons,
        Reading.step_close hdone]
      rfl

end

/-! ## Trees -/

/-- Every comment of the tree is kept whole. -/
def KeepsAll (ends : Char → Bool) (t : Tree) : Prop :=
  ∀ c, .comment c ∈ t.pieces → Keeps ends c.text.toList

theorem KeepsAll.of_part {ends : Char → Bool} {t part : Tree} (h : KeepsAll ends t)
    (hpart : part ∈ t.parts) : KeepsAll ends part :=
  fun c hc => h c (Tree.mem_pieces_of_part hpart hc)

/-- The text of a clean tree is read as what the tree says, at every depth and in every mode, if
its comments are read as nothing. -/
theorem reads_render_of_comments {ends : Char → Bool} (t : Tree) :
    t.IsClean →
      (∀ c, .comment c ∈ t.pieces → ∀ depth, Reads ends (Layout.comment depth c) []) →
      ∀ (depth : Nat) (mode : Layout.Mode) (text : Text),
        t.render depth mode = .ok text → Reads ends text t.sexprs := by
  induction t with
  | atom text =>
      intro hclean _ depth mode _ htext
      cases htext
      exact reads_symbol (hclean _ List.mem_cons_self)
  | str content =>
      intro hclean _ depth mode _ htext
      cases htext
      exact reads_quoted (hclean _ List.mem_cons_self)
  | list items ih =>
      intro hclean hcomments depth mode text htext
      obtain ⟨texts, htexts, rfl⟩ := Tree.render_list_eq_ok_iff.mp htext
      apply reads_list
      apply Tree.forall₂_of_renderAll htexts
      intro t ht
      exact ih t ht (hclean.of_part ht)
        (fun c hc => hcomments c (Tree.mem_pieces_of_part ht hc)) 0 .auto
  | comment c =>
      intro _ hcomments depth mode _ htext
      cases htext
      exact hcomments c List.mem_cons_self depth
  | stub children => intro _ _ depth mode _ htext; cases htext
  | form name children ih =>
      intro hclean hcomments depth mode text htext
      obtain ⟨texts, htexts, rfl⟩ := Tree.render_form_eq_ok_iff.mp htext
      apply reads_form (hclean _ List.mem_cons_self)
      apply Tree.forall₂_of_renderAll htexts
      intro t ht
      exact ih t ht (hclean.of_part ht)
        (fun c hc => hcomments c (Tree.mem_pieces_of_part ht hc)) (depth + 1) .auto
  | emptyExpr => intro _ _ depth mode _ htext; cases htext
  | expr content ih =>
      intro hclean hcomments depth mode text htext
      have hpart : content ∈ (Tree.expr content).parts := List.mem_singleton_self content
      exact ih (hclean.of_part hpart)
        (fun c hc => hcomments c (Tree.mem_pieces_of_part hpart hc)) (depth + 1) .auto text htext

theorem reads_render {ends : Char → Bool} (hends : EndsAtLines ends) (t : Tree)
    (hclean : t.IsClean) (hkeeps : KeepsAll ends t) (depth : Nat) (mode : Layout.Mode)
    (text : Text) (htext : t.render depth mode = .ok text) : Reads ends text t.sexprs :=
  reads_render_of_comments t hclean
    (fun c hc depth => reads_spaced_comment hends (hclean _ hc) (hkeeps c hc) depth) depth mode
    text htext

/-! ## Whole texts -/

theorem readWith_of_reads {ends : Char → Bool} {text : Text} {es : List SExpr}
    (h : Reads ends text es) : readWith ends text = some es := by
  obtain ⟨last, hlast, hflush⟩ := h [] []
  rw [readWith, Reading.start, hlast, Option.bind_some]
  obtain ⟨outer, items, token⟩ := last
  cases token with
  | none => cases hflush; rfl
  | symbol text => cases hflush; rfl
  | string content => cases hflush
  | comment => cases hflush

theorem endsAtLines_lf : EndsAtLines (· == '\n') :=
  ⟨rfl, fun c hc => Or.inl (by simpa using hc)⟩

theorem keepsAll_lf (t : Tree) : KeepsAll (· == '\n') t :=
  fun _ _ hcr => absurd hcr (by decide)

end SExpr

namespace Graph

/-- **Layout never changes what is read.** The text of a term is read as what its tree says, at
every depth and in every mode, if names, atoms and strings are clean and no comment is inline.
The terms with a tree are the acyclic ones, and the complete trees are those with a text. -/
theorem read_serialize {g : Graph} {t : Term} {tree : Tree} (htree : g.Unfolds t tree)
    (hcomplete : tree.Complete) (hclean : tree.IsClean) (depth : Nat) (mode : Layout.Mode) :
    ∃ text, g.serialize t depth mode = .ok text ∧
      SExpr.read text.toList = some tree.sexprs := by
  obtain ⟨text, htext⟩ := (tree.exists_render_iff depth mode).mpr hcomplete
  refine ⟨String.ofList text, ?_, ?_⟩
  · rw [htree.serialize, Tree.serialize, htext]
    rfl
  · rw [String.toList_ofList]
    exact SExpr.readWith_of_reads (SExpr.reads_render SExpr.endsAtLines_lf tree hclean
      (SExpr.keepsAll_lf tree) depth mode text htext)

/-- An assertion with a comment that looks like code and a string that looks like a comment. -/
def misleading : Graph :=
  ⟨#[.form (some "or") [.comment ⟨"one)\n(two", true⟩, .str ")\n; three", .list [.atom "p"]],
    .expr (some (.node 0)), .form (some "assert") [.node 1]]⟩

def misleadingTree : Tree :=
  .form "assert" [.expr (.form "or" [.comment ⟨"one)\n(two", true⟩, .str ")\n; three",
    .list [.atom "p"]])]

theorem read_serialize_misleading :
    misleading.Unfolds (.node 2) misleadingTree ∧ misleadingTree.Complete ∧
      misleadingTree.IsClean ∧ ∃ text, misleading.serialize (.node 2) 3 .spread = .ok text ∧
        SExpr.read text.toList = some misleadingTree.sexprs := by
  have htree : misleading.Unfolds (.node 2) misleadingTree := unfolds_of_tree? rfl
  have hcomplete : misleadingTree.Complete := by decide
  have hclean : misleadingTree.IsClean := by decide
  exact ⟨htree, hcomplete, hclean, read_serialize htree hcomplete hclean 3 .spread⟩

end Graph

end SmtScript
