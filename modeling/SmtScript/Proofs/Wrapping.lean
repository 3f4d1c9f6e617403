import SmtScript.Proofs.Reading

/-!
# Which forms are spread

A form that chooses its own layout looks at the text of its children, so whether it is spread
seems to depend on how they were written. The law says it without their text: a form is spread if
it has several children, would be too wide on one line, has nothing in it that breaks a line, and
no form below it is spread already. The innermost wide forms are spread first, and they keep all
forms around them on one line with what they hold.
-/

namespace SmtScript

/-- Neither a comment nor a text with a line feed. -/
def Piece.IsOneLine : Piece → Prop
  | .atom text | .str text | .name text => '\n' ∉ text.toList
  | .comment _ => False
  | .stub | .emptyExpr => True

instance : DecidablePred Piece.IsOneLine
  | .atom text | .str text | .name text => inferInstanceAs (Decidable ('\n' ∉ text.toList))
  | .comment _ => isFalse id
  | .stub | .emptyExpr => isTrue trivial

/-- Comments stand on lines of their own. -/
def Piece.IsSpaced : Piece → Prop
  | .comment c => c.spaced = true
  | _ => True

instance : DecidablePred Piece.IsSpaced
  | .comment c => inferInstanceAs (Decidable (c.spaced = true))
  | .atom _ | .str _ | .name _ | .stub | .emptyExpr => isTrue trivial

namespace Tree

/-! ## The law -/

mutual

/-- The text with all children of every form and list joined by single spaces. A stub counts as
a list, though it has no text. -/
def flat : Tree → Text
  | .atom text => text.toList
  | .str content => Layout.quoted content.toList
  | .list items => Layout.list (flatAll items)
  | .comment c => Layout.comment 0 c
  | .form name children => Layout.list (name.toList :: flatAll children)
  | .expr content => content.flat
  | .stub children => Layout.list (flatAll children)
  | .emptyExpr => []

def flatAll : List Tree → List Text
  | [] => []
  | t :: ts => t.flat :: flatAll ts

end

/-- The form has several children and is too wide for one line, but nothing in it breaks it. -/
def isWide (name : String) (children : List Tree) : Bool :=
  decide (2 ≤ children.length) &&
    decide (Layout.lineWidth < (flat (.form name children)).length) &&
    decide (∀ p ∈ pieces (.form name children), p.IsOneLine)

mutual

/-- Is a form of the tree spread? -/
def hasSpread : Tree → Bool
  | .list items => anySpread items
  | .stub children => anySpread children
  | .form name children => anySpread children || isWide name children
  | .expr content => content.hasSpread
  | _ => false

def anySpread : List Tree → Bool
  | [] => false
  | t :: ts => t.hasSpread || anySpread ts

end

/-- The form is wide, and no form strictly below it is spread. -/
def isSpread (name : String) (children : List Tree) : Bool :=
  isWide name children && !anySpread children

mutual

/-- The text at a depth where every spread form has the flat text of each child on a line of its
own, every other form and list is joined in place by single spaces, and every comment stands at
its own depth. -/
def wrapped (depth : Nat) : Tree → Text
  | .atom text => text.toList
  | .str content => Layout.quoted content.toList
  | .list items => Layout.list (wrappedAll 0 items)
  | .comment c => Layout.comment depth c
  | .form name children =>
      if isSpread name children then Layout.spreadForm depth name.toList (flatAll children)
      else Layout.list (name.toList :: wrappedAll (depth + 1) children)
  | .expr content => content.wrapped (depth + 1)
  | .stub children => Layout.list (wrappedAll (depth + 1) children)
  | .emptyExpr => []

def wrappedAll (depth : Nat) : List Tree → List Text
  | [] => []
  | t :: ts => t.wrapped depth :: wrappedAll depth ts

end

theorem flatAll_eq_map : ∀ ts : List Tree, flatAll ts = ts.map flat
  | [] => rfl
  | t :: ts => by rw [flatAll, flatAll_eq_map ts, List.map_cons]

theorem wrappedAll_eq_map (depth : Nat) : ∀ ts : List Tree,
    wrappedAll depth ts = ts.map (wrapped depth)
  | [] => rfl
  | t :: ts => by rw [wrappedAll, wrappedAll_eq_map depth ts, List.map_cons]

theorem anySpread_eq_false_iff : ∀ {ts : List Tree},
    anySpread ts = false ↔ ∀ t ∈ ts, t.hasSpread = false
  | [] => by simp [anySpread]
  | t :: ts => by
      rw [anySpread, Bool.or_eq_false_iff, anySpread_eq_false_iff, List.forall_mem_cons]

theorem isWide_iff {name : String} {children : List Tree} :
    isWide name children = true ↔ 2 ≤ children.length ∧
      Layout.lineWidth < (flat (.form name children)).length ∧
      ∀ p ∈ pieces (.form name children), p.IsOneLine := by
  simp only [isWide, Bool.and_eq_true, decide_eq_true_eq, and_assoc]

/-- A form in which a form is spread is spread itself, or a form strictly below it is. -/
theorem hasSpread_form (name : String) (children : List Tree) :
    hasSpread (.form name children) = (anySpread children || isSpread name children) := by
  rw [hasSpread, isSpread]
  cases anySpread children <;> simp

/-! ## Line feeds -/

theorem newline_mem_list {texts : List Text} :
    '\n' ∈ Layout.list texts ↔ ∃ text ∈ texts, '\n' ∈ text := by
  cases texts with
  | nil => simp [Layout.list]
  | cons first rest =>
      rw [Layout.list, SExpr.intercalate_cons]
      simp

theorem not_mem_list {texts : List Text} :
    '\n' ∉ Layout.list texts ↔ ∀ text ∈ texts, '\n' ∉ text := by
  rw [newline_mem_list]
  push Not
  rfl

theorem newline_mem_spreadForm (depth : Nat) (name : Text) (lines : List Text) :
    '\n' ∈ Layout.spreadForm depth name lines := by
  simp [Layout.spreadForm]

theorem newline_mem_comment (depth : Nat) {c : Comment} (h : c.spaced = true) :
    '\n' ∈ Layout.comment depth c := by
  simp [Layout.comment, h]

theorem newline_mem_quoted {content : Text} :
    '\n' ∈ Layout.quoted content ↔ '\n' ∈ content := by
  simp [Layout.quoted]

/-- A tree without anything that breaks a line is flat in one line. -/
theorem not_mem_flat {t : Tree} (h : ∀ p ∈ t.pieces, p.IsOneLine) : '\n' ∉ t.flat := by
  induction t with
  | atom text => exact h _ List.mem_cons_self
  | str content =>
      rw [flat, newline_mem_quoted]
      exact h _ List.mem_cons_self
  | list items ih =>
      rw [forall_pieces_list] at h
      rw [flat, not_mem_list, flatAll_eq_map, List.forall_mem_map]
      exact fun t ht => ih t ht (h t ht)
  | comment c => exact absurd (h _ List.mem_cons_self) id
  | stub children ih =>
      rw [forall_pieces_stub] at h
      rw [flat, not_mem_list, flatAll_eq_map, List.forall_mem_map]
      exact fun t ht => ih t ht (h.2 t ht)
  | form name children ih =>
      rw [forall_pieces_form] at h
      rw [flat, not_mem_list, flatAll_eq_map, List.forall_mem_cons, List.forall_mem_map]
      exact ⟨h.1, fun t ht => ih t ht (h.2 t ht)⟩
  | emptyExpr => exact List.not_mem_nil
  | expr content ih =>
      rw [forall_pieces_expr] at h
      exact ih h

/-- Where nothing breaks a line and no form is spread, the text is flat at every depth. -/
theorem wrapped_eq_flat {t : Tree} (h : ∀ p ∈ t.pieces, p.IsOneLine)
    (hspread : t.hasSpread = false) (depth : Nat) : t.wrapped depth = t.flat := by
  induction t generalizing depth with
  | atom text => rfl
  | str content => rfl
  | list items ih =>
      rw [forall_pieces_list] at h
      rw [hasSpread, anySpread_eq_false_iff] at hspread
      rw [wrapped, flat, wrappedAll_eq_map, flatAll_eq_map,
        List.map_congr_left fun t ht => ih t ht (h t ht) (hspread t ht) 0]
  | comment c => exact absurd (h _ List.mem_cons_self) id
  | stub children ih =>
      rw [forall_pieces_stub] at h
      rw [hasSpread, anySpread_eq_false_iff] at hspread
      rw [wrapped, flat, wrappedAll_eq_map, flatAll_eq_map,
        List.map_congr_left fun t ht => ih t ht (h.2 t ht) (hspread t ht) (depth + 1)]
  | form name children ih =>
      rw [forall_pieces_form] at h
      rw [hasSpread_form, Bool.or_eq_false_iff, anySpread_eq_false_iff] at hspread
      rw [wrapped, flat, hspread.2, if_neg Bool.false_ne_true, wrappedAll_eq_map, flatAll_eq_map,
        List.map_congr_left fun t ht => ih t ht (h.2 t ht) (hspread.1 t ht) (depth + 1)]
  | emptyExpr => rfl
  | expr content ih =>
      rw [forall_pieces_expr] at h
      exact ih h hspread (depth + 1)

/-- A text in one line tells that nothing in the tree breaks a line and no form is spread. -/
theorem oneLine_of_not_mem_wrapped {t : Tree} (hspaced : ∀ p ∈ t.pieces, p.IsSpaced)
    {depth : Nat} (h : '\n' ∉ t.wrapped depth) :
    (∀ p ∈ t.pieces, p.IsOneLine) ∧ t.hasSpread = false := by
  induction t generalizing depth with
  | atom text => exact ⟨List.forall_mem_singleton.mpr h, rfl⟩
  | str content =>
      rw [wrapped, newline_mem_quoted] at h
      exact ⟨List.forall_mem_singleton.mpr h, rfl⟩
  | list items ih =>
      rw [forall_pieces_list] at hspaced ⊢
      rw [wrapped, not_mem_list, wrappedAll_eq_map, List.forall_mem_map] at h
      rw [hasSpread, anySpread_eq_false_iff]
      exact ⟨fun t ht => (ih t ht (hspaced t ht) (h t ht)).1,
        fun t ht => (ih t ht (hspaced t ht) (h t ht)).2⟩
  | comment c =>
      exact absurd (newline_mem_comment depth (hspaced _ List.mem_cons_self)) h
  | stub children ih =>
      rw [forall_pieces_stub] at hspaced ⊢
      rw [wrapped, not_mem_list, wrappedAll_eq_map, List.forall_mem_map] at h
      rw [hasSpread, anySpread_eq_false_iff]
      exact ⟨⟨trivial, fun t ht => (ih t ht (hspaced.2 t ht) (h t ht)).1⟩,
        fun t ht => (ih t ht (hspaced.2 t ht) (h t ht)).2⟩
  | form name children ih =>
      rw [forall_pieces_form] at hspaced ⊢
      have hnot : isSpread name children = false := by
        by_contra hspread
        rw [wrapped, if_pos (by simpa using hspread)] at h
        exact h (newline_mem_spreadForm depth _ _)
      rw [wrapped, hnot, if_neg Bool.false_ne_true, not_mem_list, wrappedAll_eq_map,
        List.forall_mem_cons, List.forall_mem_map] at h
      rw [hasSpread_form, hnot, Bool.or_false, anySpread_eq_false_iff]
      exact ⟨⟨h.1, fun t ht => (ih t ht (hspaced.2 t ht) (h.2 t ht)).1⟩,
        fun t ht => (ih t ht (hspaced.2 t ht) (h.2 t ht)).2⟩
  | emptyExpr => exact ⟨List.forall_mem_singleton.mpr trivial, rfl⟩
  | expr content ih =>
      rw [forall_pieces_expr] at hspaced ⊢
      exact ih hspaced h

/-! ## The writer follows the law -/

theorem inlineForm_eq_list (name : Text) (texts : List Text) :
    Layout.inlineForm name texts = Layout.list (name :: texts) := by
  rw [Layout.inlineForm, Layout.list, SExpr.intercalate_cons]

/-- The width and the line feeds of the joined text decide as the law does. -/
theorem isTooWide_iff_isSpread {name : String} {children : List Tree}
    (hspaced : ∀ t ∈ children, ∀ p ∈ t.pieces, p.IsSpaced) (hmany : 2 ≤ children.length)
    (depth : Nat) :
    Layout.isTooWide (Layout.list (name.toList :: wrappedAll depth children)) = true ↔
      isSpread name children = true := by
  have hwidth : Layout.isTooWide (Layout.list (name.toList :: wrappedAll depth children)) = true
      ↔ '\n' ∉ Layout.list (name.toList :: wrappedAll depth children) ∧
        Layout.lineWidth < (Layout.list (name.toList :: wrappedAll depth children)).length := by
    simp [Layout.isTooWide]
  have hflat : (∀ t ∈ children, (∀ p ∈ t.pieces, p.IsOneLine) ∧ t.hasSpread = false) →
      Layout.list (name.toList :: wrappedAll depth children) = flat (.form name children) := by
    intro h
    rw [flat, wrappedAll_eq_map, flatAll_eq_map,
      List.map_congr_left fun t ht => wrapped_eq_flat (h t ht).1 (h t ht).2 depth]
  rw [hwidth, isSpread, Bool.and_eq_true, isWide_iff, Bool.not_eq_true', anySpread_eq_false_iff,
    forall_pieces_form]
  constructor
  · -- one line tells that the children are flat, and so the width that was measured is the flat one
    rintro ⟨hline, hlong⟩
    have hparts := hline
    rw [not_mem_list, wrappedAll_eq_map, List.forall_mem_cons, List.forall_mem_map] at hparts
    have hchildren : ∀ t ∈ children, (∀ p ∈ t.pieces, p.IsOneLine) ∧ t.hasSpread = false :=
      fun t ht => oneLine_of_not_mem_wrapped (hspaced t ht) (hparts.2 t ht)
    rw [hflat hchildren] at hlong
    exact ⟨⟨hmany, hlong, hparts.1, fun t ht => (hchildren t ht).1⟩,
      fun t ht => (hchildren t ht).2⟩
  · rintro ⟨⟨-, hlong, hname, hpieces⟩, hspread⟩
    rw [hflat fun t ht => ⟨hpieces t ht, hspread t ht⟩]
    exact ⟨not_mem_flat (forall_pieces_form.mpr ⟨hname, hpieces⟩), hlong⟩

/-- What is below a spread form is flat. -/
theorem wrappedAll_eq_flatAll {name : String} {children : List Tree}
    (h : isSpread name children = true) (depth : Nat) :
    wrappedAll depth children = flatAll children := by
  rw [isSpread, Bool.and_eq_true, isWide_iff, Bool.not_eq_true', anySpread_eq_false_iff,
    forall_pieces_form] at h
  obtain ⟨⟨-, -, -, hpieces⟩, hspread⟩ := h
  rw [wrappedAll_eq_map, flatAll_eq_map,
    List.map_congr_left fun t ht => wrapped_eq_flat (hpieces t ht) (hspread t ht) depth]

theorem form_eq_wrapped {name : String} {children : List Tree}
    (hspaced : ∀ t ∈ children, ∀ p ∈ t.pieces, p.IsSpaced) (depth : Nat) :
    Layout.form .auto depth name.toList (wrappedAll (depth + 1) children)
      = wrapped depth (.form name children) := by
  by_cases hmany : 2 ≤ children.length
  · have hdecide : _ ↔ isSpread name children = true :=
      isTooWide_iff_isSpread hspaced hmany (depth + 1)
    obtain ⟨first, second, rest, rfl⟩ : ∃ first second rest, children = first :: second :: rest :=
      match children, hmany with
      | first :: second :: rest, _ => ⟨first, second, rest, rfl⟩
    rw [wrapped]
    -- the second pass writes the children again, and they are flat as before
    simp only [wrappedAll, Layout.form, inlineForm_eq_list] at hdecide ⊢
    by_cases hspread : isSpread name (first :: second :: rest) = true
    · have hflat := wrappedAll_eq_flatAll hspread (depth + 1)
      simp only [wrappedAll] at hflat
      rw [if_pos (hdecide.mpr hspread), if_pos hspread, hflat]
    · rw [if_neg (mt hdecide.mp hspread), if_neg hspread]
  · have hnot : isSpread name children = false := by
      rw [isSpread, isWide, decide_eq_false hmany]
      rfl
    rw [wrapped, hnot, if_neg Bool.false_ne_true, ← inlineForm_eq_list]
    match children, hmany with
    | [], _ => rfl
    | [child], _ => rfl
    | _ :: _ :: _, hmany => exact absurd (by simp) hmany

theorem renderAll_eq_map {depth : Nat} {text : Tree → Text} : ∀ {ts : List Tree},
    (∀ t ∈ ts, t.render depth .auto = .ok (text t)) → renderAll depth ts = .ok (ts.map text)
  | [], _ => rfl
  | t :: ts, h => by
      rw [renderAll, h t List.mem_cons_self,
        renderAll_eq_map fun u hu => h u (List.mem_cons_of_mem t hu)]
      rfl

theorem render_eq_wrapped {t : Tree} (hcomplete : t.Complete)
    (hspaced : ∀ p ∈ t.pieces, p.IsSpaced) (depth : Nat) :
    t.render depth .auto = .ok (t.wrapped depth) := by
  induction t generalizing depth with
  | atom text => rfl
  | str content => rfl
  | list items ih =>
      rw [Complete, forall_pieces_list] at hcomplete
      rw [forall_pieces_list] at hspaced
      have hitems := renderAll_eq_map fun t ht => ih t ht (hcomplete t ht) (hspaced t ht) 0
      rw [render_list_eq_ok_iff]
      exact ⟨_, hitems, by rw [wrapped, wrappedAll_eq_map]⟩
  | comment c => rfl
  | stub children => exact absurd (hcomplete _ List.mem_cons_self) id
  | form name children ih =>
      rw [Complete, forall_pieces_form] at hcomplete
      rw [forall_pieces_form] at hspaced
      have hchildren := renderAll_eq_map
        fun t ht => ih t ht (hcomplete.2 t ht) (hspaced.2 t ht) (depth + 1)
      rw [render_form_eq_ok_iff]
      exact ⟨_, hchildren, by rw [← wrappedAll_eq_map, form_eq_wrapped hspaced.2]⟩
  | emptyExpr => exact absurd (hcomplete _ List.mem_cons_self) id
  | expr content ih =>
      rw [Complete, forall_pieces_expr] at hcomplete
      rw [forall_pieces_expr] at hspaced
      exact ih hcomplete hspaced (depth + 1)

/-- A form of several children whose text stays on one line fits in it. -/
theorem length_wrapped_le {name : String} {children : List Tree}
    (hspaced : ∀ p ∈ pieces (.form name children), p.IsSpaced) (hmany : 2 ≤ children.length)
    {depth : Nat} (h : '\n' ∉ wrapped depth (.form name children)) :
    (wrapped depth (.form name children)).length ≤ Layout.lineWidth := by
  obtain ⟨hline, hspread⟩ := oneLine_of_not_mem_wrapped hspaced h
  rw [wrapped_eq_flat hline hspread]
  by_contra hlong
  have hwide : isWide name children = true := isWide_iff.mpr ⟨hmany, by omega, hline⟩
  rw [hasSpread, hwide, Bool.or_true] at hspread
  cases hspread

end Tree

namespace Graph

/-- **Layout law.** Where no comment is inline, the text of a term that chooses its layout itself
has exactly the spread forms on several lines. So a form of several children whose text has no
line feed fits in 80 characters. -/
theorem serialize_eq_wrapped {g : Graph} {t : Term} {tree : Tree} (htree : g.Unfolds t tree)
    (hcomplete : tree.Complete) (hspaced : ∀ p ∈ tree.pieces, p.IsSpaced) (depth : Nat) :
    g.serialize t depth .auto = .ok (String.ofList (tree.wrapped depth)) ∧
      ∀ name children, tree = .form name children → 2 ≤ children.length →
        '\n' ∉ tree.wrapped depth → (tree.wrapped depth).length ≤ 80 := by
  constructor
  · rw [htree.serialize, Tree.serialize, Tree.render_eq_wrapped hcomplete hspaced]
    rfl
  · rintro name children rfl hmany hline
    exact Tree.length_wrapped_le hspaced hmany hline

/-- A wide disjunction, once in a list and once beside a comment. -/
def nestedWide : Graph :=
  ⟨#[.form (some "or") [.atom "a_name_of_more_than_thirty_letters",
      .atom "b_name_of_more_than_thirty_letters", .str "c_string_of_thirty_letters"],
    .form (some "and") [.list [.node 0], .node 0, .comment ⟨"note", true⟩, .atom "x"]]⟩

def wideTree : Tree :=
  .form "or" [.atom "a_name_of_more_than_thirty_letters",
    .atom "b_name_of_more_than_thirty_letters", .str "c_string_of_thirty_letters"]

def nestedWideTree : Tree :=
  .form "and" [.list [wideTree], wideTree, .comment ⟨"note", true⟩, .atom "x"]

theorem serialize_nestedWide : nestedWide.Unfolds (.node 1) nestedWideTree ∧
    nestedWideTree.Complete ∧ (∀ p ∈ nestedWideTree.pieces, p.IsSpaced) ∧
    nestedWide.serialize (.node 1) 1 .auto
      = .ok (String.ofList (nestedWideTree.wrapped 1)) := by
  have htree : nestedWide.Unfolds (.node 1) nestedWideTree := unfolds_of_tree? rfl
  have hcomplete : nestedWideTree.Complete := by decide
  have hspaced : ∀ p ∈ nestedWideTree.pieces, p.IsSpaced := by decide
  exact ⟨htree, hcomplete, hspaced, (serialize_eq_wrapped htree hcomplete hspaced 1).1⟩

end Graph

end SmtScript
