import SmtScript.Proofs.Sealing
import Mathlib.Algebra.GroupWithZero.Nat

/-!
# What a comment swallows

Tokens are counted while a text is read. Each symbol, string and parenthesis of a tree is seen at
most once, and what stands behind a comment on its line is not seen at all. So a tree that is not
sealed is read as something that has fewer tokens, if it can be read.
-/

namespace SmtScript

namespace SExpr

/-! ## Counting tokens -/

mutual

/-- The symbols, the strings and the parentheses of an s-expression. -/
def tokens : SExpr → Nat
  | .symbol _ | .string _ => 1
  | .list items => tokensAll items + 2

def tokensAll : List SExpr → Nat
  | [] => 0
  | e :: es => e.tokens + tokensAll es

end

theorem tokensAll_append : ∀ as bs : List SExpr,
    tokensAll (as ++ bs) = tokensAll as + tokensAll bs
  | [], bs => (Nat.zero_add _).symm
  | a :: as, bs => by
      rw [List.cons_append, tokensAll, tokensAll, tokensAll_append as bs, Nat.add_assoc]

namespace Reading

variable {ends : Char → Bool} {outer : List (List SExpr)} {items : List SExpr} {token : Token}
  {r a b last : Reading} {n m : Nat} {p q : Prop}

/-- The tokens that were read so far. A list that is not closed yet has one parenthesis. -/
def seen (r : Reading) : Nat :=
  (r.outer.map fun items => tokensAll items + 1).sum + tokensAll r.items

theorem seen_mk (outer : List (List SExpr)) (items : List SExpr) (token : Token) :
    seen ⟨outer, items, token⟩ =
      (outer.map fun items => tokensAll items + 1).sum + tokensAll items :=
  rfl

/-- Between two tokens, or in a comment. -/
def IsFree (r : Reading) : Prop :=
  r.token = .none ∨ r.token = .comment

theorem IsFree.flush (h : r.IsFree) : r.flush = r := by
  obtain ⟨outer, items, token⟩ := r
  rcases h with h | h <;> (cases h; rfl)

theorem seen_close {next : Reading} (h : r.close? = some next) :
    next.token = .none ∧ next.seen = r.seen + 1 := by
  obtain ⟨outer, items, token⟩ := r
  cases outer with
  | nil => cases h
  | cons before outer =>
      cases h
      refine ⟨rfl, ?_⟩
      simp only [seen, List.map_cons, List.sum_cons, tokensAll_append, tokensAll, tokens]
      omega

/-- From a free reading to one that is free but for a symbol under way, at most so many tokens are
seen, and fewer in the case that is given. -/
structure Spends (r last : Reading) (n : Nat) (short : Prop) : Prop where
  free : last.flush.IsFree
  le : last.flush.seen ≤ r.seen + n
  lt : short → last.flush.seen < r.seen + n

theorem Spends.trans (h : r.Spends a n p) (h₂ : a.flush.Spends b m q) :
    r.Spends b (n + m) (p ∨ q) := by
  have hle := h.le
  have hle₂ := h₂.le
  refine ⟨h₂.free, by omega, ?_⟩
  rintro (hshort | hshort)
  · have hlt := h.lt hshort
    omega
  · have hlt := h₂.lt hshort
    omega

theorem Spends.imp (h : r.Spends a n p) (himp : q → p) : r.Spends a n q :=
  ⟨h.free, h.le, fun hq => h.lt (himp hq)⟩

/-! ## One character, one token -/

theorem step_space_of_free (hends : EndsAtLines ends) (h : r.flush.IsFree) :
    r.step ends ' ' = some r.flush :=
  step_space hends rfl h

theorem step_newline_of_free (hends : EndsAtLines ends) (h : r.flush.IsFree) :
    r.step ends '\n' = some { r.flush with token := .none } :=
  step_newline hends rfl h

theorem steps_swallowed {text : Text} (h : ∀ c ∈ text, ends c = false) :
    steps ends ⟨outer, items, .comment⟩ text = some ⟨outer, items, .comment⟩ := by
  induction text with
  | nil => rfl
  | cons c rest ih =>
      rw [List.forall_mem_cons] at h
      rw [steps_cons, step_comment h.1]
      exact ih h.2

/-- A text without a line end is read as it says, or it is not seen at all. -/
theorem spends_of_reads {text : Text} {es : List SExpr} (hreads : Reads ends text es)
    (hline : ∀ c ∈ text, ends c = false) (hpos : 0 < tokensAll es) (h : r.IsFree)
    (hsteps : r.steps ends text = some last) :
    r.Spends last (tokensAll es) (r.token = .comment) := by
  obtain ⟨outer, items, token⟩ := r
  rcases h with h | h
  · cases h
    obtain ⟨own, hown, hflush⟩ := hreads outer items
    rw [hown] at hsteps
    cases hsteps
    refine ⟨?_, ?_, fun hcomment => by cases hcomment⟩
    · rw [hflush]
      exact .inl rfl
    · rw [hflush, seen_mk, seen_mk, tokensAll_append]
      omega
  · cases h
    rw [steps_swallowed hline] at hsteps
    cases hsteps
    exact ⟨.inr rfl, Nat.le_add_right _ _, fun _ => Nat.lt_add_of_pos_right hpos⟩

theorem spends_open (hends : EndsAtLines ends) (h : r.IsFree)
    (hstep : r.step ends '(' = some last) :
    last.IsFree ∧ r.Spends last 1 (r.token = .comment) := by
  obtain ⟨outer, items, token⟩ := r
  rcases h with h | h
  · cases h
    rw [step_open flush_none] at hstep
    cases hstep
    refine ⟨.inl rfl, .inl rfl, ?_, fun hcomment => by cases hcomment⟩
    simp only [flush_none, seen_mk, List.map_cons, List.sum_cons, tokensAll]
    omega
  · cases h
    rw [step_comment (hends.eq_false (by decide) (by decide))] at hstep
    cases hstep
    exact ⟨.inr rfl, .inr rfl, Nat.le_add_right _ _, fun _ => Nat.lt_succ_self _⟩

/-- Behind a comment the closing parenthesis is not seen. -/
theorem spends_close (hends : EndsAtLines ends) (h : r.flush.IsFree)
    (hstep : r.step ends ')' = some last) :
    r.flush.Spends last 1 (r.flush.token = .comment) := by
  rcases hr : r.flush with ⟨outer, items, token⟩
  rw [hr] at h
  rcases h with h | h
  · cases h
    rw [step_eq_plain hr, plain, if_neg (by decide), if_neg (by decide), if_pos rfl, hr] at hstep
    obtain ⟨htoken, hseen⟩ := seen_close hstep
    have hfree : last.IsFree := .inl htoken
    refine ⟨?_, ?_, fun hcomment => by cases hcomment⟩
    · rwa [hfree.flush]
    · rw [hfree.flush]
      exact Nat.le_of_eq hseen
  · cases h
    rw [eq_of_flush_comment hr, step_comment (hends.eq_false (by decide) (by decide))] at hstep
    cases hstep
    exact ⟨.inr rfl, Nat.le_add_right _ _, fun _ => Nat.lt_succ_self _⟩

end Reading

section

variable {ends : Char → Bool}

/-- No string of the tree goes over the end of a line. -/
def Unbroken (ends : Char → Bool) (t : Tree) : Prop :=
  ∀ content, .str content ∈ t.pieces → ∀ c ∈ content.toList, ends c = false

theorem Unbroken.of_part {t part : Tree} (h : Unbroken ends t) (hpart : part ∈ t.parts) :
    Unbroken ends part :=
  fun content hcontent => h content (Tree.mem_pieces_of_part hpart hcontent)

theorem clean_oneLine (hends : EndsAtLines ends) {text : Text} (h : IsClean text) :
    ∀ c ∈ text, ends c = false := by
  intro c hc
  have hclean := h.2 c hc
  simp only [delimiters, List.mem_cons, not_or] at hclean
  exact hends.eq_false hclean.2.2.1 hclean.2.2.2.1

/-! ## Trees -/

/-- Of the tree at most its tokens are seen, and fewer if it is not sealed, or if it is no comment
but stands behind one. -/
def Counts (ends : Char → Bool) (sealed : Bool) (t : Tree) (text : Text) : Prop :=
  ∀ r last, r.IsFree → Reading.steps ends r text = some last →
    r.Spends last (tokensAll t.sexprs)
      (sealed = false ∨ r.token = .comment ∧ t.isNote = false) ∧
    (t.isOpen = true → last.flush.token = .comment)

theorem counts_comment (hends : EndsAtLines ends) {c : Comment} (h : Keeps ends c.text.toList)
    (depth : Nat) : Counts ends true (.comment c) (Layout.comment depth c) := by
  rintro ⟨outer, items, token⟩ last hfree hsteps
  rw [Reading.steps_note hends h depth hfree] at hsteps
  cases hsteps
  have hbehind : Reading.IsFree ⟨outer, items, .behind (.comment c)⟩ :=
    (Token.behind_cases (.comment c)).imp_right And.left
  refine ⟨⟨?_, ?_, ?_⟩, fun hopen => ?_⟩
  · rwa [hbehind.flush]
  · rw [hbehind.flush]
    exact Nat.le_refl _
  · rintro (hsealed | ⟨-, hnote⟩)
    · cases hsealed
    · cases hnote
  · rw [hbehind.flush]
    exact if_pos hopen

theorem Counts.of_spends {sealed : Bool} {t : Tree} {text : Text} (hopen : t.isOpen = false)
    (h : ∀ r last, r.IsFree → Reading.steps ends r text = some last →
      r.Spends last (tokensAll t.sexprs) (sealed = false ∨ r.token = .comment)) :
    Counts ends sealed t text := by
  intro r last hfree hsteps
  refine ⟨(h r last hfree hsteps).imp (Or.imp_right And.left), fun hown => ?_⟩
  rw [hopen] at hown
  cases hown

theorem Counts.of_reads {t : Tree} {text : Text} (hreads : Reads ends text t.sexprs)
    (hline : ∀ c ∈ text, ends c = false) (hpos : 0 < tokensAll t.sexprs)
    (hopen : t.isOpen = false) : Counts ends true t text := by
  refine .of_spends hopen fun r last hfree hsteps => ?_
  have hspends := Reading.spends_of_reads hreads hline hpos hfree hsteps
  exact hspends.imp fun hshort => hshort.resolve_left Bool.noConfusion

/-- Children on one line. If the line is not closed, then something on it is not seen, or it ends in
a comment. -/
theorem spends_joined (hends : EndsAtLines ends) {depth : Nat} {ts : List Tree} {texts : List Text}
    (h : List.Forall₂ (fun t text => Counts ends (t.isSealed depth .auto) t text) ts texts) :
    ∀ {r last : Reading}, r.flush.IsFree →
      r.steps ends (texts.flatMap (' ' :: ·)) = some last →
        r.flush.Spends last (tokensAll (Tree.sexprsAll ts)) (Tree.allSealed depth ts = false) ∧
        (Tree.closesLine ts = false ∨
            r.flush.token = .comment ∧ ts.head?.any Tree.isNote = false →
          last.flush.token = .comment ∨
            last.flush.seen < r.flush.seen + tokensAll (Tree.sexprsAll ts)) := by
  induction h with
  | nil =>
      intro r last hr hsteps
      cases hsteps
      refine ⟨⟨hr, Nat.le_refl _, fun hsealed => by cases hsealed⟩, ?_⟩
      rintro (hcloses | ⟨htoken, -⟩)
      · cases hcloses
      · exact .inl htoken
  | @cons t text ts texts hfirst _ ih =>
      intro r last hr hsteps
      rw [List.flatMap_cons, List.cons_append, Reading.steps_cons,
        Reading.step_space_of_free hends hr, Option.bind_some, Reading.steps_append,
        Option.bind_eq_some_iff] at hsteps
      obtain ⟨next, hnext, hlast⟩ := hsteps
      obtain ⟨hspends, hopen⟩ := hfirst r.flush next hr hnext
      obtain ⟨hrest, hline⟩ := ih hspends.free hlast
      have hboth := hspends.trans hrest
      rw [Tree.sexprsAll, tokensAll_append, Tree.allSealed, Bool.and_eq_false_iff]
      refine ⟨hboth.imp (Or.imp_left .inl), ?_⟩
      have hle := hspends.le
      rintro (hcloses | ⟨htoken, hnote⟩)
      · have hshort : next.flush.token = .comment ∧ ts.head?.any Tree.isNote = false ∨
            Tree.closesLine ts = false := by
          simp only [Tree.closesLine, Bool.and_eq_false_iff, Bool.or_eq_false_iff,
            Bool.not_eq_false'] at hcloses
          exact hcloses.imp_left (And.imp_left hopen)
        rcases hline hshort.symm with hcomment | hlt
        · exact .inl hcomment
        · exact .inr (by omega)
      · exact .inr (hboth.lt (.inl (.inr ⟨htoken, hnote⟩)))

/-- Children on lines of their own. Each line is ended, whatever stands on it. -/
theorem spends_spread (hends : EndsAtLines ends) {depth : Nat} (indent : Nat) {ts : List Tree}
    {texts : List Text}
    (h : List.Forall₂ (fun t text => Counts ends (t.isSealed depth .auto) t text) ts texts) :
    ∀ {outer : List (List SExpr)} {items : List SExpr} {last : Reading},
      Reading.steps ends ⟨outer, items, .none⟩
          (texts.flatMap fun child => Layout.spaces indent ++ child ++ ['\n']) = some last →
        Reading.Spends ⟨outer, items, .none⟩ last (tokensAll (Tree.sexprsAll ts))
          (Tree.allSealed depth ts = false) := by
  induction h with
  | nil =>
      intro outer items last hsteps
      cases hsteps
      exact ⟨.inl rfl, Nat.le_refl _, fun hsealed => by cases hsealed⟩
  | @cons t text ts texts hfirst _ ih =>
      intro outer items last hsteps
      rw [List.flatMap_cons, Reading.steps_append, Option.bind_eq_some_iff] at hsteps
      obtain ⟨line, hline, hlast⟩ := hsteps
      rw [Reading.steps_append, Option.bind_eq_some_iff] at hline
      obtain ⟨next, hnext, hend⟩ := hline
      rw [Reading.steps_append, Reading.steps_spaces, Option.bind_some] at hnext
      obtain ⟨hspends, -⟩ := hfirst _ next (.inl rfl) hnext
      rw [Reading.steps_cons, Reading.step_newline_of_free hends hspends.free] at hend
      cases hend
      have hrest := ih hlast
      -- the line feed changes nothing that was seen
      have hline : Reading.Spends ⟨outer, items, .none⟩ { next.flush with token := .none }
          (tokensAll t.sexprs) (t.isSealed depth .auto = false) :=
        ⟨.inl rfl, hspends.le, fun hsealed => hspends.lt (.inl hsealed)⟩
      rw [Tree.sexprsAll, tokensAll_append, Tree.allSealed, Bool.and_eq_false_iff]
      exact hline.trans hrest

theorem spends_head (hends : EndsAtLines ends) {name : Text} (hname : IsClean name)
    {r last : Reading} (h : r.IsFree) (hsteps : r.steps ends ('(' :: name) = some last) :
    r.Spends last 2 (r.token = .comment) := by
  rw [Reading.steps_cons, Option.bind_eq_some_iff] at hsteps
  obtain ⟨next, hnext, hlast⟩ := hsteps
  obtain ⟨hfree, hopen⟩ := Reading.spends_open hends h hnext
  have hsymbol := Reading.spends_of_reads (reads_symbol hname) (clean_oneLine hends hname)
    Nat.one_pos hfree hlast
  rw [← hfree.flush] at hsymbol
  exact (hopen.trans hsymbol).imp .inl

/-- The closing parenthesis is not seen behind a comment. -/
theorem spends_line (hends : EndsAtLines ends) {depth : Nat} {ts : List Tree} {texts : List Text}
    (h : List.Forall₂ (fun t text => Counts ends (t.isSealed depth .auto) t text) ts texts)
    {r last : Reading} (hfree : r.flush.IsFree)
    (hsteps : r.steps ends (texts.flatMap (' ' :: ·) ++ [')']) = some last) :
    r.flush.Spends last (tokensAll (Tree.sexprsAll ts) + 1)
      (Tree.closesLine ts = false ∨ Tree.allSealed depth ts = false) := by
  rw [Reading.steps_append, Option.bind_eq_some_iff] at hsteps
  obtain ⟨next, hnext, hlast⟩ := hsteps
  obtain ⟨hspends, hline⟩ := spends_joined hends h hfree hnext
  rw [Reading.steps_cons, Option.bind_eq_some_iff] at hlast
  obtain ⟨_, hclose, heq⟩ := hlast
  cases heq
  have hend := Reading.spends_close hends hspends.free hclose
  have hboth := hspends.trans hend
  refine ⟨hboth.free, hboth.le, ?_⟩
  rintro (hcloses | hsealed)
  · rcases hline (.inl hcloses) with hcomment | hlt
    · exact hboth.lt (.inr hcomment)
    · have hle := hend.le
      omega
  · exact hboth.lt (.inl hsealed)

theorem spends_inlineForm (hends : EndsAtLines ends) {name : Text} (hname : IsClean name)
    {depth : Nat} {ts : List Tree} {texts : List Text}
    (h : List.Forall₂ (fun t text => Counts ends (t.isSealed depth .auto) t text) ts texts)
    {r last : Reading} (hfree : r.IsFree)
    (hsteps : r.steps ends (Layout.inlineForm name texts) = some last) :
    r.Spends last (tokensAll [.list (.symbol name :: Tree.sexprsAll ts)])
      ((Tree.closesLine ts = false ∨ Tree.allSealed depth ts = false) ∨ r.token = .comment) := by
  have htext : Layout.inlineForm name texts =
      ('(' :: name) ++ (texts.flatMap (' ' :: ·) ++ [')']) := by
    rw [Layout.inlineForm, List.append_assoc, List.cons_append]
  rw [htext, Reading.steps_append, Option.bind_eq_some_iff] at hsteps
  obtain ⟨next, hnext, hlast⟩ := hsteps
  have hhead := spends_head hends hname hfree hnext
  have hboth := (hhead.trans (spends_line hends h hhead.free hlast)).imp Or.symm
  have htokens : tokensAll [.list (.symbol name :: Tree.sexprsAll ts)] =
      2 + (tokensAll (Tree.sexprsAll ts) + 1) := by
    simp only [tokensAll, tokens]
    omega
  rwa [htokens]

theorem spends_spreadForm (hends : EndsAtLines ends) {name : Text} (hname : IsClean name)
    {depth : Nat} (indent : Nat) {ts : List Tree} {texts : List Text}
    (h : List.Forall₂ (fun t text => Counts ends (t.isSealed depth .auto) t text) ts texts)
    {r last : Reading} (hfree : r.IsFree)
    (hsteps : r.steps ends (Layout.spreadForm indent name texts) = some last) :
    r.Spends last (tokensAll [.list (.symbol name :: Tree.sexprsAll ts)])
      (Tree.allSealed depth ts = false ∨ r.token = .comment) := by
  have htext : Layout.spreadForm indent name texts = ('(' :: name) ++ ('\n' ::
      ((texts.flatMap fun child => Layout.spaces (2 * indent) ++ child ++ ['\n']) ++ [')'])) := by
    rw [Layout.spreadForm, List.append_assoc, List.cons_append, List.cons_append]
  rw [htext, Reading.steps_append, Option.bind_eq_some_iff] at hsteps
  obtain ⟨next, hnext, hlast⟩ := hsteps
  have hhead := spends_head hends hname hfree hnext
  rw [Reading.steps_cons, Reading.step_newline_of_free hends hhead.free, Option.bind_some,
    Reading.steps_append, Option.bind_eq_some_iff] at hlast
  obtain ⟨below, hbelow, hlast⟩ := hlast
  rw [Reading.steps_cons, Option.bind_eq_some_iff] at hlast
  obtain ⟨_, hclose, heq⟩ := hlast
  cases heq
  -- the line feed behind the name changes nothing that was seen
  have hline : r.Spends { next.flush with token := .none } 2 (r.token = .comment) :=
    ⟨.inl rfl, hhead.le, hhead.lt⟩
  have hlines := spends_spread hends (2 * indent) h hbelow
  have hall := (hline.trans hlines).trans (Reading.spends_close hends hlines.free hclose)
  have htokens : tokensAll [.list (.symbol name :: Tree.sexprsAll ts)] =
      2 + tokensAll (Tree.sexprsAll ts) + 1 := by
    simp only [tokensAll, tokens]
    omega
  rw [htokens]
  exact hall.imp fun hshort => .inl hshort.symm

theorem spends_list (hends : EndsAtLines ends) {depth : Nat} {ts : List Tree} {texts : List Text}
    (h : List.Forall₂ (fun t text => Counts ends (t.isSealed depth .auto) t text) ts texts)
    {r last : Reading} (hfree : r.IsFree)
    (hsteps : r.steps ends (Layout.list texts) = some last) :
    r.Spends last (tokensAll [.list (Tree.sexprsAll ts)])
      ((Tree.closesLine ts = false ∨ Tree.allSealed depth ts = false) ∨ r.token = .comment) := by
  rw [Layout.list, Reading.steps_cons, Option.bind_eq_some_iff] at hsteps
  obtain ⟨next, hnext, hlast⟩ := hsteps
  obtain ⟨hopened, hopen⟩ := Reading.spends_open hends hfree hnext
  rw [Reading.steps_append, Reading.steps_intercalate hends hopened, ← Reading.steps_append]
    at hlast
  rw [← hopened.flush] at hlast hopen
  have hboth := (hopen.trans (spends_line hends h hopen.free hlast)).imp Or.symm
  have htokens : tokensAll [.list (Tree.sexprsAll ts)] =
      1 + (tokensAll (Tree.sexprsAll ts) + 1) := by
    simp only [tokensAll, tokens]
    omega
  rwa [htokens]

theorem counts_render (hends : EndsAtLines ends) (t : Tree) :
    t.IsLegible → KeepsAll ends t → Unbroken ends t →
      ∀ (depth : Nat) (mode : Layout.Mode) (text : Text), t.render depth mode = .ok text →
        Counts ends (t.isSealed depth mode) t text := by
  induction t with
  | atom text =>
      intro hlegible _ _ depth mode _ htext
      cases htext
      have hclean : IsClean text.toList := hlegible (.atom text) List.mem_cons_self
      exact .of_reads (reads_symbol hclean) (clean_oneLine hends hclean) Nat.one_pos rfl
  | str content =>
      intro hlegible _ hunbroken depth mode _ htext
      cases htext
      have hquote : '"' ∉ content.toList := hlegible (.str content) List.mem_cons_self
      have hmark : ends '"' = false := hends.eq_false (by decide) (by decide)
      have hline : ∀ c ∈ Layout.quoted content.toList, ends c = false := by
        intro c hc
        simp only [Layout.quoted, List.mem_cons, List.mem_append, List.not_mem_nil, or_false] at hc
        rcases hc with rfl | hc | rfl
        · exact hmark
        · exact hunbroken content List.mem_cons_self c hc
        · exact hmark
      exact .of_reads (reads_quoted hquote) hline Nat.one_pos rfl
  | list items ih =>
      intro hlegible hkeeps hunbroken depth mode text htext
      obtain ⟨texts, htexts, rfl⟩ := Tree.render_list_eq_ok_iff.mp htext
      rw [Tree.isSealed]
      refine .of_spends rfl fun r last hfree hsteps => ?_
      rw [Bool.and_eq_false_iff]
      refine spends_list hends ?_ hfree hsteps
      apply Tree.forall₂_of_renderAll htexts
      intro t ht
      exact ih t ht (hlegible.of_part ht) (hkeeps.of_part ht) (hunbroken.of_part ht) 0 .auto
  | comment c =>
      intro _ hkeeps _ depth mode _ htext
      cases htext
      exact counts_comment hends (hkeeps c List.mem_cons_self) depth
  | stub children => intro _ _ _ depth mode _ htext; cases htext
  | form name children ih =>
      intro hlegible hkeeps hunbroken depth mode text htext
      obtain ⟨texts, htexts, rfl⟩ := Tree.render_form_eq_ok_iff.mp htext
      have hname : IsClean name.toList := hlegible (.name name) List.mem_cons_self
      have hchildren : List.Forall₂
          (fun t text => Counts ends (t.isSealed (depth + 1) .auto) t text) children texts := by
        apply Tree.forall₂_of_renderAll htexts
        intro t ht
        exact ih t ht (hlegible.of_part ht) (hkeeps.of_part ht) (hunbroken.of_part ht)
          (depth + 1) .auto
      rw [Tree.isSealed, Tree.spreads, htexts]
      refine .of_spends rfl fun r last hfree hsteps => ?_
      cases hspread : Layout.isSpread mode name.toList texts with
      | true =>
          rw [Layout.form_of_isSpread depth hspread] at hsteps
          refine (spends_spreadForm hends hname depth hchildren hfree hsteps).imp
            (Or.imp_left fun hsealed => ?_)
          simpa only [hspread, Bool.true_or, Bool.true_and] using hsealed
      | false =>
          rw [Layout.form_of_not_isSpread depth hspread] at hsteps
          refine (spends_inlineForm hends hname hchildren hfree hsteps).imp
            (Or.imp_left fun hsealed => ?_)
          simpa only [hspread, Bool.false_or, Bool.and_eq_false_iff] using hsealed
  | emptyExpr => intro _ _ _ depth mode _ htext; cases htext
  | expr content ih =>
      intro hlegible hkeeps hunbroken depth mode text htext
      have hpart : content ∈ (Tree.expr content).parts := List.mem_singleton_self content
      exact ih (hlegible.of_part hpart) (hkeeps.of_part hpart) (hunbroken.of_part hpart)
        (depth + 1) .auto text htext

/-- What is read in the end has as many tokens as were seen. -/
theorem Reading.seen_of_finish? {r : Reading} {es : List SExpr} (h : r.finish? = some es) :
    r.flush.seen = tokensAll es := by
  obtain ⟨outer, items, token⟩ := r
  cases outer with
  | cons before outer => cases token <;> cases h
  | nil =>
      cases token with
      | string content => cases h
      | none | symbol text | comment =>
          cases h
          exact Nat.zero_add _

theorem tokensAll_lt_of_readWith {t : Tree} {text : Text} (h : Counts ends false t text)
    {es : List SExpr} (hread : readWith ends text = some es) :
    tokensAll es < tokensAll t.sexprs := by
  rw [readWith, Option.bind_eq_some_iff] at hread
  obtain ⟨last, hlast, hfinish⟩ := hread
  obtain ⟨hspends, -⟩ := h .start last (.inl rfl) hlast
  have hlt := hspends.lt (.inl rfl)
  rw [Reading.seen_of_finish? hfinish] at hlt
  exact Nat.lt_of_lt_of_eq hlt (Nat.zero_add _)

end

end SExpr

namespace Graph

/-- **A comment hides nothing behind it exactly where a comment follows it or its line ends.** The
text of a term with comments of either kind anywhere in it is read as the term without them, if
every form and every list that is joined on one line closes its line. If not, then it is read as
something else or not at all, as long as no string goes over the end of a line. -/
theorem read_serialize_sealed {g : Graph} {t : Term} {tree : Tree} (htree : g.Unfolds t tree)
    (hcomplete : tree.Complete) (hlegible : tree.IsLegible) (depth : Nat) (mode : Layout.Mode) :
    ∃ text, g.serialize t depth mode = .ok text ∧
      (tree.isSealed depth mode = true → SExpr.read text.toList = some tree.sexprs) ∧
      ((∀ content, .str content ∈ tree.pieces → '\n' ∉ content.toList) →
        SExpr.read text.toList = some tree.sexprs → tree.isSealed depth mode = true) := by
  obtain ⟨text, htext⟩ := (tree.exists_render_iff depth mode).mpr hcomplete
  refine ⟨String.ofList text, ?_, ?_⟩
  · rw [htree.serialize, Tree.serialize, htext]
    rfl
  · rw [String.toList_ofList]
    constructor
    · intro hsealed
      exact SExpr.readWith_of_readsAs (SExpr.readsAs_render SExpr.endsAtLines_lf tree hlegible
        (SExpr.keepsAll_lf tree) depth mode text hsealed htext)
    · intro hstrings hread
      have hunbroken : SExpr.Unbroken (· == '\n') tree := by
        intro content hcontent c hc
        have hne : c ≠ '\n' := fun heq => hstrings content hcontent (heq ▸ hc)
        simpa using hne
      have hcounts := SExpr.counts_render SExpr.endsAtLines_lf tree hlegible
        (SExpr.keepsAll_lf tree) hunbroken depth mode text htext
      by_contra hsealed
      rw [Bool.eq_false_iff.mpr hsealed] at hcounts
      exact Nat.lt_irrefl _ (SExpr.tokensAll_lt_of_readWith hcounts hread)

/-- A disjunction that begins with a comment of each kind, between two inline comments. -/
def margins : Graph :=
  ⟨#[.form (some "or") [.comment ⟨"(one", false⟩, .comment ⟨"two)", true⟩, .str "; p"],
    .form (some "and") [.comment ⟨"left", false⟩, .node 0, .comment ⟨"right\n)", false⟩]]⟩

def marginsTree : Tree :=
  .form "and" [.comment ⟨"left", false⟩,
    .form "or" [.comment ⟨"(one", false⟩, .comment ⟨"two)", true⟩, .str "; p"],
    .comment ⟨"right\n)", false⟩]

/-- Spread, the term is read as it should be, and joined on one line it is not. -/
theorem read_serialize_margins : margins.Unfolds (.node 1) marginsTree ∧ marginsTree.Complete ∧
    marginsTree.IsLegible ∧
    (∃ text, margins.serialize (.node 1) 0 .spread = .ok text ∧
      SExpr.read text.toList = some marginsTree.sexprs) ∧
    ∃ text, margins.serialize (.node 1) 0 .auto = .ok text ∧
      SExpr.read text.toList ≠ some marginsTree.sexprs := by
  have htree : margins.Unfolds (.node 1) marginsTree := unfolds_of_tree? rfl
  have hcomplete : marginsTree.Complete := by decide
  have hlegible : marginsTree.IsLegible := by decide
  have hstrings : ∀ content, .str content ∈ marginsTree.pieces → '\n' ∉ content.toList := by
    intro content hcontent
    have hown : content = "; p" := by
      simpa [marginsTree, Tree.pieces, Tree.piecesAll] using hcontent
    rw [hown]
    decide
  obtain ⟨spread, hspread, hreads, -⟩ := read_serialize_sealed htree hcomplete hlegible 0 .spread
  obtain ⟨joined, hjoined, -, hsealed⟩ := read_serialize_sealed htree hcomplete hlegible 0 .auto
  refine ⟨htree, hcomplete, hlegible, ⟨spread, hspread, hreads (by decide)⟩, joined, hjoined, ?_⟩
  intro hread
  exact absurd (hsealed hstrings hread) (by decide)

/-- An inline comment is the last child of a form on one line. -/
def trailing : Graph :=
  ⟨#[.form (some "and") [.atom "p", .comment ⟨"x", false⟩]]⟩

/-- Nothing ends the comment, and the parenthesis is part of it. -/
theorem not_read_serialize_trailing :
    trailing.Unfolds (.node 0) (.form "and" [.atom "p", .comment ⟨"x", false⟩]) ∧
      Tree.IsLegible (.form "and" [.atom "p", .comment ⟨"x", false⟩]) ∧
      trailing.serialize (.node 0) 0 .auto = .ok "(and p ; x)" ∧
      SExpr.read "(and p ; x)".toList = none := by
  refine ⟨unfolds_of_tree? rfl, by decide, by decide, by decide⟩

end Graph

end SmtScript
