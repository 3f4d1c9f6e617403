import SmtScript.Proofs.Wrapping

/-!
# How far a single line reaches

A form can be told to stay on one line. That concerns the children of the form itself: each of them
stands behind a space and chooses its own layout, so that a wide form below may still be spread.
The text is in one line, and then it is the flat text, exactly if no form below is too wide.
-/

namespace SmtScript

theorem Piece.IsOneLine.isSpaced {p : Piece} (h : p.IsOneLine) : p.IsSpaced := by
  cases p with
  | comment c => exact absurd h id
  | _ => trivial

theorem Layout.form_inline (depth : Nat) (name : Text) (children : List Text) :
    form .inline depth name children = inlineForm name children := by
  unfold form
  split <;> rfl

namespace Tree

variable {t : Tree} {name : String} {children : List Tree}

/-! ## What is found in a tree -/

/-- What holds at every place of a tree holds of the tree and at every place of its parts. -/
theorem forall_at?_iff {P : Tree → Prop} : (∀ place u, t.at? place = some u → P u) ↔
    P t ∧ ∀ part ∈ t.parts, ∀ place u, part.at? place = some u → P u := by
  constructor
  · intro h
    refine ⟨h [] t (by rw [at?]), fun part hpart place u hu => ?_⟩
    obtain ⟨i, hi⟩ := List.getElem?_of_mem hpart
    refine h (i :: place) u ?_
    rw [at?, hi]
    exact hu
  · rintro ⟨hroot, hparts⟩ place u hu
    cases place with
    | nil =>
        rw [at?] at hu
        cases hu
        exact hroot
    | cons i place =>
        rw [at?, Option.bind_eq_some_iff] at hu
        obtain ⟨part, hpart, hu⟩ := hu
        exact hparts part (List.mem_of_getElem? hpart) place u hu

theorem mem_pieces_of_at? {place : List Nat} {u : Tree} {p : Piece} (h : t.at? place = some u)
    (hp : p ∈ u.pieces) : p ∈ t.pieces := by
  induction place generalizing t with
  | nil =>
      rw [at?] at h
      cases h
      exact hp
  | cons i place ih =>
      rw [at?, Option.bind_eq_some_iff] at h
      obtain ⟨part, hpart, h⟩ := h
      exact mem_pieces_of_part (List.mem_of_getElem? hpart) (ih h)

/-- A form is spread somewhere in a tree exactly if there is a wide one. -/
theorem hasSpread_eq_false_iff : t.hasSpread = false ↔
    ∀ place u, t.at? place = some u → ∀ name children, u = .form name children →
      isWide name children = false := by
  induction t with
  | atom text => rw [forall_at?_iff]; simp [hasSpread, parts]
  | str content => rw [forall_at?_iff]; simp [hasSpread, parts]
  | comment c => rw [forall_at?_iff]; simp [hasSpread, parts]
  | emptyExpr => rw [forall_at?_iff]; simp [hasSpread, parts]
  | list items ih =>
      rw [forall_at?_iff, hasSpread, anySpread_eq_false_iff]
      exact ⟨fun h => ⟨by rintro _ _ ⟨⟩, fun t ht => (ih t ht).mp (h t ht)⟩,
        fun h t ht => (ih t ht).mpr (h.2 t ht)⟩
  | stub children ih =>
      rw [forall_at?_iff, hasSpread, anySpread_eq_false_iff]
      exact ⟨fun h => ⟨by rintro _ _ ⟨⟩, fun t ht => (ih t ht).mp (h t ht)⟩,
        fun h t ht => (ih t ht).mpr (h.2 t ht)⟩
  | form name children ih =>
      rw [forall_at?_iff, hasSpread, Bool.or_eq_false_iff, anySpread_eq_false_iff]
      constructor
      · rintro ⟨hchildren, hwide⟩
        refine ⟨fun name' children' heq => ?_, fun t ht => (ih t ht).mp (hchildren t ht)⟩
        cases heq
        exact hwide
      · rintro ⟨hroot, hparts⟩
        exact ⟨fun t ht => (ih t ht).mpr (hparts t ht), hroot name children rfl⟩
  | expr content ih =>
      rw [forall_at?_iff, hasSpread, ih]
      exact ⟨fun h => ⟨by rintro _ _ ⟨⟩, fun t ht => List.mem_singleton.mp ht ▸ h⟩,
        fun h => h.2 content (List.mem_singleton.mpr rfl)⟩

/-- Every form strictly below that has several children fits in a line when it is flat. -/
def NarrowBelow (t : Tree) : Prop :=
  ∀ place, place ≠ [] → ∀ name children, t.at? place = some (.form name children) →
    2 ≤ children.length → (flat (.form name children)).length ≤ Layout.lineWidth

/-- Where nothing breaks a line, only width can spread a form. -/
theorem isWide_eq_false_iff (hline : ∀ p ∈ pieces (.form name children), p.IsOneLine) :
    isWide name children = false ↔
      (2 ≤ children.length → (flat (.form name children)).length ≤ Layout.lineWidth) := by
  rw [← Bool.not_eq_true, isWide_iff]
  constructor
  · intro h hmany
    by_contra hlong
    exact h ⟨hmany, Nat.not_le.mp hlong, hline⟩
  · rintro h ⟨hmany, hlong, -⟩
    exact absurd (h hmany) (Nat.not_le.mpr hlong)

theorem anySpread_eq_false_iff_narrowBelow
    (hline : ∀ p ∈ pieces (.form name children), p.IsOneLine) :
    anySpread children = false ↔ NarrowBelow (.form name children) := by
  have hwide : ∀ {place below own}, (Tree.form name children).at? place = some (.form below own) →
      (isWide below own = false ↔
        (2 ≤ own.length → (flat (.form below own)).length ≤ Layout.lineWidth)) :=
    fun hat => isWide_eq_false_iff fun p hp => hline p (mem_pieces_of_at? hat hp)
  simp only [anySpread_eq_false_iff, hasSpread_eq_false_iff]
  constructor
  · intro h place hplace below own hat
    cases place with
    | nil => exact absurd rfl hplace
    | cons i place =>
        have hbelow := hat
        rw [at?, Option.bind_eq_some_iff] at hbelow
        obtain ⟨child, hchild, hbelow⟩ := hbelow
        exact (hwide hat).mp (h child (List.mem_of_getElem? hchild) place _ hbelow below own rfl)
  · rintro h child hchild place u hu below own rfl
    obtain ⟨i, hi⟩ := List.getElem?_of_mem hchild
    have hat : (Tree.form name children).at? (i :: place) = some (.form below own) := by
      rw [at?, parts, hi]
      exact hu
    exact (hwide hat).mpr (h (i :: place) (List.cons_ne_nil i place) below own hat)

/-! ## The text on one line -/

/-- The form's own children stay on its line, whatever they do themselves. -/
theorem render_inline (hcomplete : Complete (.form name children))
    (hspaced : ∀ p ∈ pieces (.form name children), p.IsSpaced) (depth : Nat) :
    renderAll (depth + 1) children = .ok (wrappedAll (depth + 1) children) ∧
      (Tree.form name children).render depth .inline
        = .ok (Layout.list (name.toList :: wrappedAll (depth + 1) children)) := by
  rw [Complete, forall_pieces_form] at hcomplete
  rw [forall_pieces_form] at hspaced
  have htexts : renderAll (depth + 1) children = .ok (wrappedAll (depth + 1) children) := by
    rw [wrappedAll_eq_map]
    exact renderAll_eq_map fun t ht =>
      render_eq_wrapped (hcomplete.2 t ht) (hspaced.2 t ht) (depth + 1)
  refine ⟨htexts, render_form_eq_ok_iff.mpr ⟨_, htexts, ?_⟩⟩
  rw [Layout.form_inline, inlineForm_eq_list]

/-- One line tells that no form below is spread, and then all of the text is flat. -/
theorem not_mem_list_wrappedAll_iff (hline : ∀ p ∈ pieces (.form name children), p.IsOneLine)
    (depth : Nat) : '\n' ∉ Layout.list (name.toList :: wrappedAll depth children) ↔
      anySpread children = false := by
  rw [forall_pieces_form] at hline
  rw [not_mem_list, List.forall_mem_cons, wrappedAll_eq_map, List.forall_mem_map,
    anySpread_eq_false_iff]
  constructor
  · rintro ⟨-, hchildren⟩ t ht
    exact (oneLine_of_not_mem_wrapped (fun p hp => (hline.2 t ht p hp).isSpaced)
      (hchildren t ht)).2
  · intro hspread
    refine ⟨hline.1, fun t ht => ?_⟩
    rw [wrapped_eq_flat (hline.2 t ht) (hspread t ht)]
    exact not_mem_flat (hline.2 t ht)

theorem list_wrappedAll_eq_flat_iff (hline : ∀ p ∈ pieces (.form name children), p.IsOneLine)
    (depth : Nat) : Layout.list (name.toList :: wrappedAll depth children)
      = flat (.form name children) ↔ anySpread children = false := by
  constructor
  · intro heq
    rw [← not_mem_list_wrappedAll_iff hline depth, heq]
    exact not_mem_flat hline
  · intro hspread
    rw [anySpread_eq_false_iff] at hspread
    rw [forall_pieces_form] at hline
    rw [flat, wrappedAll_eq_map, flatAll_eq_map,
      List.map_congr_left fun t ht => wrapped_eq_flat (hline.2 t ht) (hspread t ht) depth]

end Tree

namespace Graph

/-- **How far a single line reaches.** Where nothing breaks a line, a form that is told to stay on
one line has the texts that its children choose themselves, each behind a single space. There is no
line feed in it exactly if it is the flat text, and that is so exactly if no form strictly below is
too wide for a line. -/
theorem serialize_inline {g : Graph} {t : Term} {name : String} {children : List Tree}
    (htree : g.Unfolds t (.form name children)) (hcomplete : Tree.Complete (.form name children))
    (hline : ∀ p ∈ Tree.pieces (.form name children), p.IsOneLine) (depth : Nat) :
    ∃ texts, Tree.renderAll (depth + 1) children = .ok texts ∧
      ∃ text, g.serialize t depth .inline = .ok (String.ofList text) ∧
        text = '(' :: (name.toList ++ texts.flatMap (' ' :: ·) ++ [')']) ∧
        ('\n' ∉ text ↔ text = Tree.flat (.form name children)) ∧
        (text = Tree.flat (.form name children) ↔ Tree.NarrowBelow (.form name children)) := by
  have hspaced : ∀ p ∈ Tree.pieces (.form name children), p.IsSpaced :=
    fun p hp => (hline p hp).isSpaced
  obtain ⟨htexts, htext⟩ := Tree.render_inline hcomplete hspaced depth
  have hflat := Tree.list_wrappedAll_eq_flat_iff hline (depth + 1)
  refine ⟨_, htexts, _, ?_, (Tree.inlineForm_eq_list ..).symm, ?_, ?_⟩
  · rw [htree.serialize, Tree.serialize, htext]
    rfl
  · rw [hflat, Tree.not_mem_list_wrappedAll_iff hline]
  · rw [hflat, Tree.anySpread_eq_false_iff_narrowBelow hline]

/-- A disjunction of more than 80 characters, alone and as one of two children. -/
def crowded : Graph :=
  ⟨#[.form (some "or") [.atom "a_name_of_more_than_thirty_letters",
      .atom "b_name_of_more_than_thirty_letters", .str "a string"],
    .form (some "and") [.node 0, .atom "x"]]⟩

def crowdedOr : Tree :=
  .form "or" [.atom "a_name_of_more_than_thirty_letters",
    .atom "b_name_of_more_than_thirty_letters", .str "a string"]

def crowdedAnd : Tree :=
  .form "and" [crowdedOr, .atom "x"]

/-- The disjunction itself stays on one line, which is then too wide. -/
theorem serialize_crowdedOr : crowded.Unfolds (.node 0) crowdedOr ∧ crowdedOr.Complete ∧
    (∀ p ∈ crowdedOr.pieces, p.IsOneLine) ∧ crowdedOr.NarrowBelow ∧ 80 < crowdedOr.flat.length ∧
    '\n' ∉ crowdedOr.flat ∧
    crowded.serialize (.node 0) 1 .inline = .ok (String.ofList crowdedOr.flat) := by
  have htree : crowded.Unfolds (.node 0) crowdedOr := unfolds_of_tree? rfl
  have hcomplete : crowdedOr.Complete := by decide
  have hline : ∀ p ∈ crowdedOr.pieces, p.IsOneLine := by decide
  have hnarrow : crowdedOr.NarrowBelow :=
    (Tree.anySpread_eq_false_iff_narrowBelow hline).mp (by decide)
  obtain ⟨texts, -, text, htext, -, hbreaks, hflat⟩ := serialize_inline htree hcomplete hline 1
  have heq : text = crowdedOr.flat := hflat.mpr hnarrow
  exact ⟨htree, hcomplete, hline, hnarrow, by decide, heq ▸ hbreaks.mpr heq, heq ▸ htext⟩

/-- As a child it is spread, on whatever line its parent is to stay. -/
theorem not_serialize_flat : crowded.Unfolds (.node 1) crowdedAnd ∧ crowdedAnd.Complete ∧
    (∀ p ∈ crowdedAnd.pieces, p.IsOneLine) ∧
    ∃ text, crowded.serialize (.node 1) 0 .inline = .ok text ∧ '\n' ∈ text.toList ∧
      text.toList ≠ crowdedAnd.flat := by
  have htext : crowded.serialize (.node 1) 0 .inline = .ok ("(and (or\n"
      ++ "  a_name_of_more_than_thirty_letters\n"
      ++ "  b_name_of_more_than_thirty_letters\n"
      ++ "  \"a string\"\n) x)") := by
    decide +kernel
  exact ⟨unfolds_of_tree? rfl, by decide, by decide, _, htext, by decide +kernel,
    by decide +kernel⟩

end Graph

end SmtScript
