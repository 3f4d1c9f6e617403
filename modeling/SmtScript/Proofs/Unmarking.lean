import SmtScript.Proofs.Indentation

/-!
# Comments lose nothing

A comment is written with a mark in front of every line and, if it is spaced, between line feeds.
Neither is confused with the comment's own text: what was added has a known length, the lines are
as many as those of the text, and without what was added they are the lines of the text, also where
the text is empty, ends in line feeds or has marks and blanks of its own.
-/

namespace SmtScript

namespace Layout

/-! ## What was added -/

/-- A spaced comment without the line feed before it and the last one with the pad behind it. -/
def block? (spaced : Bool) (depth : Nat) (text : Text) : Option Text :=
  if spaced then
    (['\n'].isPrefixOf? text).bind ('\n' :: spaces (2 * (depth - 1) - 1)).isSuffixOf?
  else some text

/-- The lines without the spaces that the first one begins with. -/
def unindented? (width : Nat) : List Text → Option (List Text)
  | [] => none
  | first :: rest => ((spaces width).isPrefixOf? first).map (· :: rest)

/-- The line without the comment mark. -/
def unmarked? (line : Text) : Option Text :=
  [';', ' '].isPrefixOf? line

/-- The lines of a comment's text, from the block that it was written as. -/
def linesOfBlock? (depth : Nat) (block : Text) : Option (List Text) :=
  (unindented? (2 * (depth - 1)) (block.splitOn '\n')).bind (·.mapM unmarked?)

/-- The text of a comment, from what was written. -/
def commentText? (spaced : Bool) (depth : Nat) (text : Text) : Option Text :=
  ((block? spaced depth text).bind (linesOfBlock? depth)).map ['\n'].intercalate

/-! ## Reading it back -/

/-- The lines of a comment without the spaces before it, and nothing around it. -/
def block (depth : Nat) (text : Text) : Text :=
  spaces (commentWidth depth) ++ commentLines text

theorem comment_eq (depth : Nat) (c : Comment) :
    comment depth c = if c.spaced then
      '\n' :: (block depth c.text.toList ++ '\n' :: spaces (2 * (depth - 1) - 1))
    else block depth c.text.toList := rfl

theorem splitOn_mark {text first : Text} {rest : List Text}
    (h : text.splitOn '\n' = first :: rest) :
    (';' :: ' ' :: text).splitOn '\n' = ([';', ' '] ++ first) :: rest :=
  splitOn_cons_of_ne (by decide) (splitOn_cons_of_ne (by decide) h)

/-- The mark of a line is written with the line feed before it, so that the first line stays as it
is. -/
theorem splitOn_flatMap_mark {text first : Text} {rest : List Text}
    (h : text.splitOn '\n' = first :: rest) :
    (text.flatMap fun c => if c = '\n' then ['\n', ';', ' '] else [c]).splitOn '\n'
      = first :: rest.map ([';', ' '] ++ ·) := by
  induction text generalizing first rest with
  | nil =>
      cases h
      rfl
  | cons c text ih =>
      obtain ⟨second, others, hsplit⟩ := List.exists_cons_of_ne_nil (List.splitOn_ne_nil '\n' text)
      rw [List.flatMap_cons]
      by_cases hc : c = '\n'
      · subst hc
        rw [splitOn_newline, hsplit] at h
        cases h
        rw [if_pos rfl, List.cons_append, splitOn_newline]
        exact congrArg ([] :: ·) (splitOn_mark (ih hsplit))
      · rw [splitOn_cons_of_ne hc hsplit] at h
        cases h
        rw [if_neg hc]
        exact splitOn_cons_of_ne hc (ih hsplit)

/-- Every line is marked, and no line is added or lost. -/
theorem splitOn_commentLines (text : Text) :
    (commentLines text).splitOn '\n' = (text.splitOn '\n').map ([';', ' '] ++ ·) := by
  obtain ⟨first, rest, h⟩ := List.exists_cons_of_ne_nil (List.splitOn_ne_nil '\n' text)
  rw [commentLines, splitOn_mark (splitOn_flatMap_mark h), h, List.map_cons]

theorem splitOn_block (depth : Nat) {text first : Text} {rest : List Text}
    (h : text.splitOn '\n' = first :: rest) :
    (block depth text).splitOn '\n'
      = (spaces (commentWidth depth) ++ ([';', ' '] ++ first)) :: rest.map ([';', ' '] ++ ·) := by
  apply splitOn_spaces_append
  rw [splitOn_commentLines, h, List.map_cons]

theorem length_splitOn_block (depth : Nat) (text : Text) :
    ((block depth text).splitOn '\n').length = (text.splitOn '\n').length := by
  obtain ⟨first, rest, h⟩ := List.exists_cons_of_ne_nil (List.splitOn_ne_nil '\n' text)
  rw [splitOn_block depth h, h, List.length_cons, List.length_cons, List.length_map]

theorem unmarked?_append (line : Text) : unmarked? ([';', ' '] ++ line) = some line :=
  List.isPrefixOf?_eq_some_iff_append_eq.mpr rfl

theorem mapM_unmarked?_map (lines : List Text) :
    (lines.map ([';', ' '] ++ ·)).mapM unmarked? = some lines := by
  have hmark : unmarked? ∘ ([';', ' '] ++ ·) = some := funext unmarked?_append
  rw [List.mapM_map, hmark]
  simpa using List.mapM_pure (m := Option) (f := id) (l := lines)

theorem linesOfBlock?_block (depth : Nat) (text : Text) :
    linesOfBlock? depth (block depth text) = some (text.splitOn '\n') := by
  obtain ⟨first, rest, h⟩ := List.exists_cons_of_ne_nil (List.splitOn_ne_nil '\n' text)
  have hindent : (spaces (2 * (depth - 1))).isPrefixOf?
      (spaces (commentWidth depth) ++ ([';', ' '] ++ first)) = some ([';', ' '] ++ first) :=
    List.isPrefixOf?_eq_some_iff_append_eq.mpr rfl
  rw [linesOfBlock?, splitOn_block depth h, unindented?, hindent, h]
  exact mapM_unmarked?_map (first :: rest)

theorem block?_comment (depth : Nat) (c : Comment) :
    block? c.spaced depth (comment depth c) = some (block depth c.text.toList) := by
  rw [comment_eq, block?]
  cases c.spaced with
  | false => rfl
  | true =>
      have hpad : ('\n' :: spaces (2 * (depth - 1) - 1)).isSuffixOf?
          (block depth c.text.toList ++ '\n' :: spaces (2 * (depth - 1) - 1))
            = some (block depth c.text.toList) :=
        List.isSuffixOf?_eq_some_iff_append_eq.mpr rfl
      exact hpad

theorem commentText?_comment (depth : Nat) (c : Comment) :
    commentText? c.spaced depth (comment depth c) = some c.text.toList := by
  rw [commentText?, block?_comment, Option.bind_some, linesOfBlock?_block, Option.map_some,
    List.intercalate_splitOn]

end Layout

namespace Graph

/-- **Comments lose nothing.** Without the line feed before it and the last one with its pad, a
spaced comment is a block of as many lines as its text has, as an inline comment is by itself.
Without the spaces before the first line and without the mark before each, they are the lines of the
text. So the text can be read from what was written, and no other comment of that kind is written
like this at that depth. -/
theorem comments_lossless (g : Graph) (text : String) (spaced : Bool) (depth : Nat)
    (mode : Layout.Mode) :
    ∃ written block : Text,
      g.serialize (.comment ⟨text, spaced⟩) depth mode = .ok (String.ofList written) ∧
      (written = if spaced then
        '\n' :: (block ++ '\n' :: Layout.spaces (2 * (depth - 1) - 1)) else block) ∧
      (block.splitOn '\n').length = (text.toList.splitOn '\n').length ∧
      Layout.linesOfBlock? depth block = some (text.toList.splitOn '\n') ∧
      Layout.commentText? spaced depth written = some text.toList ∧
      ∀ other, g.serialize (.comment ⟨other, spaced⟩) depth mode = .ok (String.ofList written) ↔
        other = text := by
  refine ⟨Layout.comment depth ⟨text, spaced⟩, Layout.block depth text.toList, rfl, rfl,
    Layout.length_splitOn_block .., Layout.linesOfBlock?_block ..,
    Layout.commentText?_comment depth ⟨text, spaced⟩, fun other => ⟨fun h => ?_, ?_⟩⟩
  · have hsame : Layout.comment depth ⟨other, spaced⟩ = Layout.comment depth ⟨text, spaced⟩ :=
      String.ofList_injective (Except.ok.inj h)
    have hother := Layout.commentText?_comment depth ⟨other, spaced⟩
    rw [hsame, Layout.commentText?_comment depth ⟨text, spaced⟩] at hother
    exact (String.toList_inj.mp (Option.some.inj hother)).symm
  · rintro rfl
    rfl

/-- Only the first line is indented. -/
example : Layout.comment 3 ⟨"a\n", true⟩ = "\n    ; a\n; \n   ".toList := by
  decide

end Graph

end SmtScript
