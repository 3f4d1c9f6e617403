import SmtScript.Proofs.Wrapping

/-!
# Depth only moves lines sideways

The depth of a term is seen in the spaces that its lines begin with, and nowhere else. Whether a
form is spread could still depend on it, since that is decided by the width of a text. But only a
text without a line feed has a width that counts, and there the depth has left no trace: all that it
adds stands after a line feed.
-/

namespace SmtScript

namespace Layout

/-! ## Texts up to the spaces after line feeds -/

/-- The lines of a text without their leading spaces. -/
def trimmedLines (text : Text) : List Text :=
  (text.splitOn '\n').map (·.dropWhile (· == ' '))

def firstLine (text : Text) : Text :=
  text.takeWhile (· != '\n')

/-- Two texts that differ at most in how many spaces follow their line feeds. -/
inductive Sideways : Text → Text → Prop
  | nil : Sideways [] []
  | cons (c : Char) {a b : Text} : Sideways a b → Sideways (c :: a) (c :: b)
  | shift (m n : Nat) {a b : Text} :
      Sideways a b → Sideways ('\n' :: (spaces m ++ a)) ('\n' :: (spaces n ++ b))

namespace Sideways

variable {a b a' b' : Text}

theorem refl : ∀ a : Text, Sideways a a
  | [] => .nil
  | c :: a => .cons c (refl a)

theorem append (h : Sideways a b) (h' : Sideways a' b') : Sideways (a ++ a') (b ++ b') := by
  induction h with
  | nil => exact h'
  | cons c _ ih => exact .cons c ih
  | shift m n _ ih =>
      rw [List.cons_append, List.cons_append, List.append_assoc, List.append_assoc]
      exact .shift m n ih

theorem firstLine_eq (h : Sideways a b) : firstLine a = firstLine b := by
  induction h with
  | nil => rfl
  | cons c _ ih =>
      unfold firstLine at ih ⊢
      rw [List.takeWhile_cons, List.takeWhile_cons, ih]
  | shift => simp [firstLine]

/-- Where nothing follows a line feed, there is nothing to differ in. -/
theorem eq_of_oneLine (h : Sideways a b) (hline : '\n' ∉ a) : a = b := by
  induction h with
  | nil => rfl
  | cons c _ ih => rw [ih fun hmem => hline (List.mem_cons_of_mem c hmem)]
  | shift => exact absurd List.mem_cons_self hline

theorem newline_mem_iff (h : Sideways a b) : '\n' ∈ a ↔ '\n' ∈ b := by
  induction h with
  | nil => rfl
  | cons c _ ih => rw [List.mem_cons, List.mem_cons, ih]
  | shift => simp

end Sideways

/-! ## Lines -/

theorem splitOn_newline (text : Text) : ('\n' :: text).splitOn '\n' = [] :: text.splitOn '\n' := by
  simp [List.splitOn, List.splitOnP_cons_eq_if_modifyHead]

theorem splitOn_cons_of_ne {c : Char} (h : c ≠ '\n') {text first : Text} {rest : List Text}
    (htext : text.splitOn '\n' = first :: rest) :
    (c :: text).splitOn '\n' = (c :: first) :: rest := by
  unfold List.splitOn at htext ⊢
  rw [List.splitOnP_cons_eq_if_modifyHead, htext]
  simp [h]

theorem splitOn_spaces_append (n : Nat) {text first : Text} {rest : List Text}
    (htext : text.splitOn '\n' = first :: rest) :
    (spaces n ++ text).splitOn '\n' = (spaces n ++ first) :: rest := by
  induction n with
  | zero => exact htext
  | succ n ih => exact splitOn_cons_of_ne (by decide) ih

theorem dropWhile_spaces_append (n : Nat) (text : Text) :
    (spaces n ++ text).dropWhile (· == ' ') = text.dropWhile (· == ' ') := by
  induction n with
  | zero => rfl
  | succ n ih => exact ih

/-- Trimming takes away all that such texts differ in. -/
theorem Sideways.trimmedLines_eq {a b : Text} (h : Sideways a b) :
    trimmedLines a = trimmedLines b := by
  -- the first lines are equal even untrimmed, which keeps a text in front of them in step
  have hlines : ∃ first rest rest', a.splitOn '\n' = first :: rest ∧
      b.splitOn '\n' = first :: rest' ∧
      rest.map (·.dropWhile (· == ' ')) = rest'.map (·.dropWhile (· == ' ')) := by
    induction h with
    | nil => exact ⟨[], [], [], rfl, rfl, rfl⟩
    | @cons c a b _ ih =>
        obtain ⟨first, rest, rest', ha, hb, hrest⟩ := ih
        by_cases hc : c = '\n'
        · subst hc
          refine ⟨[], first :: rest, first :: rest', ?_, ?_, ?_⟩
          · rw [splitOn_newline, ha]
          · rw [splitOn_newline, hb]
          · rw [List.map_cons, List.map_cons, hrest]
        · exact ⟨c :: first, rest, rest', splitOn_cons_of_ne hc ha, splitOn_cons_of_ne hc hb, hrest⟩
    | shift m n _ ih =>
        obtain ⟨first, rest, rest', ha, hb, hrest⟩ := ih
        refine ⟨[], (spaces m ++ first) :: rest, (spaces n ++ first) :: rest', ?_, ?_, ?_⟩
        · rw [splitOn_newline, splitOn_spaces_append m ha]
        · rw [splitOn_newline, splitOn_spaces_append n hb]
        · rw [List.map_cons, List.map_cons, dropWhile_spaces_append, dropWhile_spaces_append, hrest]
  obtain ⟨first, rest, rest', ha, hb, hrest⟩ := hlines
  rw [trimmedLines, trimmedLines, ha, hb, List.map_cons, List.map_cons, hrest]

/-! ## Layouts at two depths -/

theorem sideways_comment (depth depth' : Nat) {c : Comment} (h : c.spaced = true) :
    Sideways (comment depth c) (comment depth' c) := by
  have hblock : Sideways
      ('\n' :: (spaces (commentWidth depth) ++ commentLines c.text.toList))
      ('\n' :: (spaces (commentWidth depth') ++ commentLines c.text.toList)) :=
    .shift _ _ (.refl _)
  have hpad : Sideways ('\n' :: (spaces (commentWidth depth - 1) ++ []))
      ('\n' :: (spaces (commentWidth depth' - 1) ++ [])) :=
    .shift _ _ .nil
  have := hblock.append hpad
  simpa [comment, h] using this

theorem sideways_inlineForm (name : Text) {texts texts' : List Text}
    (h : List.Forall₂ Sideways texts texts') :
    Sideways (inlineForm name texts) (inlineForm name texts') := by
  have hchildren : Sideways (texts.flatMap (' ' :: ·)) (texts'.flatMap (' ' :: ·)) := by
    induction h with
    | nil => exact .nil
    | cons hfirst _ ih =>
        rw [List.flatMap_cons, List.flatMap_cons]
        exact (Sideways.cons ' ' hfirst).append ih
  exact .cons '(' (((Sideways.refl name).append hchildren).append (.refl [')']))

theorem sideways_spreadForm (depth depth' : Nat) (name : Text) {texts texts' : List Text}
    (h : List.Forall₂ Sideways texts texts') :
    Sideways (spreadForm depth name texts) (spreadForm depth' name texts') := by
  -- the indentation of a child goes with the line feed before it
  have hlines : Sideways
      ('\n' :: (texts.flatMap (fun child => spaces (2 * depth) ++ child ++ ['\n']) ++ [')']))
      ('\n' :: (texts'.flatMap (fun child => spaces (2 * depth') ++ child ++ ['\n']) ++ [')'])) := by
    induction h with
    | nil => exact .refl _
    | cons hfirst _ ih =>
        have := Sideways.shift (2 * depth) (2 * depth') (hfirst.append ih)
        simpa using this
  have := Sideways.cons '(' ((Sideways.refl name).append hlines)
  simpa [spreadForm] using this

/-- A width counts only where there is nothing that the depth could change. -/
theorem Sideways.isTooWide_eq {a b : Text} (h : Sideways a b) : isTooWide a = isTooWide b := by
  by_cases hline : '\n' ∈ a
  · simp [isTooWide, hline, h.newline_mem_iff.mp hline]
  · rw [h.eq_of_oneLine hline]

theorem sideways_form (mode : Mode) (depth depth' : Nat) (name : Text) {texts texts' : List Text}
    (h : List.Forall₂ Sideways texts texts') :
    Sideways (form mode depth name texts) (form mode depth' name texts') := by
  have hinline : Sideways (inlineForm name texts) (inlineForm name texts') :=
    sideways_inlineForm name h
  have hspread : Sideways (spreadForm depth name texts) (spreadForm depth' name texts') :=
    sideways_spreadForm depth depth' name h
  cases h with
  | nil => exact hinline
  | cons _ hrest =>
      cases hrest with
      | nil => exact hinline
      | cons =>
          cases mode with
          | inline => exact hinline
          | spread => exact hspread
          | auto =>
              simp only [form, hinline.isTooWide_eq]
              split
              · exact hspread
              · exact hinline

end Layout

namespace Tree

open Layout (Sideways)

theorem sideways_renderAll {depth depth' : Nat} {ts : List Tree} {texts texts' : List Text}
    (htexts : renderAll depth ts = .ok texts) (htexts' : renderAll depth' ts = .ok texts')
    (h : ∀ t ∈ ts, ∀ text text', t.render depth .auto = .ok text →
      t.render depth' .auto = .ok text' → Sideways text text') :
    List.Forall₂ Sideways texts texts' := by
  rw [renderAll_eq_ok_iff] at htexts htexts'
  induction htexts generalizing texts' with
  | nil =>
      rw [List.forall₂_nil_left_iff] at htexts'
      rw [htexts']
      exact .nil
  | @cons t text _ _ htext _ ih =>
      obtain ⟨text', rest', htext', hrest', rfl⟩ := List.forall₂_cons_left_iff.mp htexts'
      have hfirst : Sideways text text' := h t List.mem_cons_self text text' htext htext'
      exact .cons hfirst (ih hrest' fun u hu => h u (List.mem_cons_of_mem t hu))

theorem sideways_render {t : Tree} (hspaced : ∀ p ∈ t.pieces, p.IsSpaced) {depth depth' : Nat}
    {mode : Layout.Mode} {text text' : Text} (htext : t.render depth mode = .ok text)
    (htext' : t.render depth' mode = .ok text') : Sideways text text' := by
  induction t generalizing depth depth' mode text text' with
  | atom content =>
      cases htext
      cases htext'
      exact .refl _
  | str content =>
      cases htext
      cases htext'
      exact .refl _
  | list items =>
      -- the items start again at depth 0
      obtain ⟨texts, htexts, rfl⟩ := render_list_eq_ok_iff.mp htext
      obtain ⟨texts', htexts', rfl⟩ := render_list_eq_ok_iff.mp htext'
      rw [htexts] at htexts'
      cases htexts'
      exact .refl _
  | comment c =>
      cases htext
      cases htext'
      exact Layout.sideways_comment depth depth' (hspaced _ List.mem_cons_self)
  | stub children => cases htext
  | form name children ih =>
      rw [forall_pieces_form] at hspaced
      obtain ⟨texts, htexts, rfl⟩ := render_form_eq_ok_iff.mp htext
      obtain ⟨texts', htexts', rfl⟩ := render_form_eq_ok_iff.mp htext'
      have hchildren : List.Forall₂ Sideways texts texts' :=
        sideways_renderAll htexts htexts' fun t ht _ _ => ih t ht (hspaced.2 t ht)
      exact Layout.sideways_form mode depth depth' name.toList hchildren
  | emptyExpr => cases htext
  | expr content ih =>
      rw [forall_pieces_expr] at hspaced
      exact ih hspaced htext htext'

end Tree

namespace Graph

/-- **Depth only moves lines sideways.** Where no comment is inline, a term has the same lines at
any two depths, apart from the spaces that they begin with. The first line does not move at all. -/
theorem serialize_sideways {g : Graph} {t : Term} {tree : Tree} (htree : g.Unfolds t tree)
    (hcomplete : tree.Complete) (hspaced : ∀ p ∈ tree.pieces, p.IsSpaced) (mode : Layout.Mode)
    (depth depth' : Nat) :
    ∃ text text' : Text, g.serialize t depth mode = .ok (String.ofList text) ∧
      g.serialize t depth' mode = .ok (String.ofList text') ∧
      Layout.trimmedLines text = Layout.trimmedLines text' ∧
      Layout.firstLine text = Layout.firstLine text' := by
  obtain ⟨text, htext⟩ := (Tree.exists_render_iff tree depth mode).mpr hcomplete
  obtain ⟨text', htext'⟩ := (Tree.exists_render_iff tree depth' mode).mpr hcomplete
  have hsideways : Layout.Sideways text text' := Tree.sideways_render hspaced htext htext'
  refine ⟨text, text', ?_, ?_, hsideways.trimmedLines_eq, hsideways.firstLine_eq⟩
  · rw [htree.serialize, Tree.serialize, htext]
    rfl
  · rw [htree.serialize, Tree.serialize, htext']
    rfl

/-- The name has a line feed, and so does the string, which is indented inside. -/
def ragged : Graph :=
  ⟨#[.form (some "or\n") [.str "on\n  two lines", .comment ⟨"first\nsecond", true⟩, .atom "x"],
    .form (some "and") [.node 0, .list [.node 0], .atom "y"]]⟩

def raggedTree : Tree :=
  .form "and" [
    .form "or\n" [.str "on\n  two lines", .comment ⟨"first\nsecond", true⟩, .atom "x"],
    .list [.form "or\n" [.str "on\n  two lines", .comment ⟨"first\nsecond", true⟩, .atom "x"]],
    .atom "y"]

theorem serialize_ragged : ragged.Unfolds (.node 1) raggedTree ∧ raggedTree.Complete ∧
    (∀ p ∈ raggedTree.pieces, p.IsSpaced) ∧
    ∃ text text' : Text, text ≠ text' ∧
      ragged.serialize (.node 1) 0 .spread = .ok (String.ofList text) ∧
      ragged.serialize (.node 1) 3 .spread = .ok (String.ofList text') ∧
      Layout.trimmedLines text = Layout.trimmedLines text' ∧
      Layout.firstLine text = Layout.firstLine text' := by
  have htree : ragged.Unfolds (.node 1) raggedTree := unfolds_of_tree? rfl
  have hcomplete : raggedTree.Complete := by decide
  have hspaced : ∀ p ∈ raggedTree.pieces, p.IsSpaced := by decide
  obtain ⟨text, text', htext, htext', hlines, hfirst⟩ :=
    serialize_sideways htree hcomplete hspaced .spread 0 3
  refine ⟨htree, hcomplete, hspaced, text, text', ?_, htext, htext', hlines, hfirst⟩
  rintro rfl
  have hsame : ragged.serialize (.node 1) 0 .spread = ragged.serialize (.node 1) 3 .spread := by
    rw [htext, htext']
  exact absurd hsame (by decide +kernel)

end Graph

end SmtScript
