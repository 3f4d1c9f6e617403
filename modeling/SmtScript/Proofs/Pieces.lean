import SmtScript.Tree
import Mathlib.Data.List.Forall2

/-!
# The parts and the pieces of a tree

The parts of a tree are the trees right below it. Its pieces are what it is made of, apart from
how it nests: its atoms, strings and comments, the names of its forms, its stubs and its empty
expressions, from left to right. A tree has a text exactly if all of its pieces have one.
-/

namespace SmtScript

/-! ## Results -/

section

variable {ε α β : Type}

theorem bind_eq_ok_iff {x : Except ε α} {f : α → Except ε β} {b : β} :
    (x >>= f) = .ok b ↔ ∃ a, x = .ok a ∧ f a = .ok b := by
  cases x with
  | error e => simp [bind, Except.bind]
  | ok a => simp [bind, Except.bind]

theorem map_eq_ok_iff {x : Except ε α} {f : α → β} {b : β} :
    x.map f = .ok b ↔ ∃ a, x = .ok a ∧ f a = b := by
  cases x with
  | error e => simp [Except.map]
  | ok a => simp [Except.map]

theorem mapError_eq_ok_iff {x : Except ε α} {f : ε → β} {a : α} :
    x.mapError f = .ok a ↔ x = .ok a := by
  cases x with
  | error e => simp [Except.mapError]
  | ok a => simp [Except.mapError]

theorem pure_eq_ok_iff {a b : α} : (pure a : Except ε α) = .ok b ↔ b = a := by
  simp [pure, Except.pure, eq_comm]

end

/-! ## Parts -/

namespace Tree

/-- The trees right below a tree. -/
def parts : Tree → List Tree
  | .list items => items
  | .stub children | .form _ children => children
  | .expr content => [content]
  | _ => []

/-- The tree at a place, which is given by the positions of the parts on the way to it. -/
def at? : Tree → List Nat → Option Tree
  | t, [] => some t
  | t, i :: place => t.parts[i]?.bind fun part => part.at? place

theorem sizeOf_part {t part : Tree} (h : part ∈ t.parts) : sizeOf part < sizeOf t := by
  cases t with
  | list items =>
      have : sizeOf part < sizeOf items := List.sizeOf_lt_of_mem h
      simp only [Tree.list.sizeOf_spec]
      omega
  | stub children =>
      have : sizeOf part < sizeOf children := List.sizeOf_lt_of_mem h
      simp only [Tree.stub.sizeOf_spec]
      omega
  | form name children =>
      have : sizeOf part < sizeOf children := List.sizeOf_lt_of_mem h
      simp only [Tree.form.sizeOf_spec]
      omega
  | expr content =>
      rw [List.mem_singleton.mp h]
      simp
  | _ => cases h

end Tree

/-! ## Pieces -/

inductive Piece where
  | atom (text : String)
  | str (content : String)
  | comment (comment : Comment)
  /-- The name of a form. -/
  | name (name : String)
  | stub
  | emptyExpr
deriving DecidableEq

mutual

def Tree.pieces : Tree → List Piece
  | .atom text => [.atom text]
  | .str content => [.str content]
  | .list items => Tree.piecesAll items
  | .comment c => [.comment c]
  | .stub children => .stub :: Tree.piecesAll children
  | .form name children => .name name :: Tree.piecesAll children
  | .emptyExpr => [.emptyExpr]
  | .expr content => content.pieces

def Tree.piecesAll : List Tree → List Piece
  | [] => []
  | t :: ts => t.pieces ++ Tree.piecesAll ts

end

namespace Tree

theorem mem_piecesAll {p : Piece} : ∀ {ts : List Tree},
    p ∈ piecesAll ts ↔ ∃ t ∈ ts, p ∈ t.pieces
  | [] => by simp [piecesAll]
  | t :: ts => by
      rw [piecesAll, List.mem_append, mem_piecesAll]
      simp

theorem mem_pieces_of_part {t part : Tree} {p : Piece} (h : part ∈ t.parts)
    (hp : p ∈ part.pieces) : p ∈ t.pieces := by
  cases t with
  | list items => exact mem_piecesAll.mpr ⟨part, h, hp⟩
  | stub children => exact List.mem_cons_of_mem _ (mem_piecesAll.mpr ⟨part, h, hp⟩)
  | form name children => exact List.mem_cons_of_mem _ (mem_piecesAll.mpr ⟨part, h, hp⟩)
  | expr content => rwa [← List.mem_singleton.mp h]
  | _ => cases h

section

variable {P : Piece → Prop}

@[simp] theorem forall_pieces_list {items : List Tree} :
    (∀ p ∈ (Tree.list items).pieces, P p) ↔ ∀ t ∈ items, ∀ p ∈ t.pieces, P p := by
  simp only [pieces, mem_piecesAll]
  constructor
  · intro h t ht p hp
    exact h p ⟨t, ht, hp⟩
  · rintro h p ⟨t, ht, hp⟩
    exact h t ht p hp

@[simp] theorem forall_pieces_stub {children : List Tree} :
    (∀ p ∈ (Tree.stub children).pieces, P p) ↔
      P .stub ∧ ∀ t ∈ children, ∀ p ∈ t.pieces, P p := by
  rw [← forall_pieces_list]
  simp [pieces]

@[simp] theorem forall_pieces_form {name : String} {children : List Tree} :
    (∀ p ∈ (Tree.form name children).pieces, P p) ↔
      P (.name name) ∧ ∀ t ∈ children, ∀ p ∈ t.pieces, P p := by
  rw [← forall_pieces_list]
  simp [pieces]

@[simp] theorem forall_pieces_expr {content : Tree} :
    (∀ p ∈ (Tree.expr content).pieces, P p) ↔ ∀ p ∈ content.pieces, P p := by
  rw [pieces]

end

end Tree

/-! ## Pieces with a text -/

def Piece.HasText : Piece → Prop
  | .stub | .emptyExpr => False
  | _ => True

instance : DecidablePred Piece.HasText
  | .stub | .emptyExpr => isFalse id
  | .atom _ | .str _ | .comment _ | .name _ => isTrue trivial

namespace Tree

/-- There is no stub and no empty expression in the tree. -/
def Complete (t : Tree) : Prop :=
  ∀ p ∈ t.pieces, p.HasText

instance (t : Tree) : Decidable t.Complete :=
  inferInstanceAs (Decidable (∀ p ∈ t.pieces, p.HasText))

theorem renderAll_eq_ok_iff {depth : Nat} : ∀ {ts : List Tree} {texts : List Text},
    renderAll depth ts = .ok texts ↔
      List.Forall₂ (fun t text => render depth .auto t = .ok text) ts texts
  | [], texts => by
      rw [renderAll, List.forall₂_nil_left_iff]
      constructor
      · intro h
        cases h
        rfl
      · rintro rfl
        rfl
  | t :: ts, texts => by
      simp only [renderAll, bind_eq_ok_iff, pure_eq_ok_iff, List.forall₂_cons_left_iff,
        renderAll_eq_ok_iff]
      constructor
      · rintro ⟨first, hfirst, rest, hrest, rfl⟩
        exact ⟨first, rest, hfirst, hrest, rfl⟩
      · rintro ⟨first, rest, hfirst, hrest, rfl⟩
        exact ⟨first, hfirst, rest, hrest, rfl⟩

/-- What holds of the text of each tree holds of the texts of all. -/
theorem forall₂_of_renderAll {S : Tree → Text → Prop} {depth : Nat} {ts : List Tree}
    {texts : List Text} (htexts : renderAll depth ts = .ok texts)
    (h : ∀ t ∈ ts, ∀ text, render depth .auto t = .ok text → S t text) :
    List.Forall₂ S ts texts := by
  have hboth := (List.forall₂_and_left ..).mpr ⟨h, renderAll_eq_ok_iff.mp htexts⟩
  exact hboth.imp fun t text ⟨himp, htext⟩ => himp text htext

theorem render_list_eq_ok_iff {depth : Nat} {mode : Layout.Mode} {items : List Tree}
    {text : Text} : render depth mode (.list items) = .ok text ↔
      ∃ texts, renderAll 0 items = .ok texts ∧ text = Layout.list texts := by
  simp only [render, bind_eq_ok_iff, pure_eq_ok_iff]

theorem render_form_eq_ok_iff {depth : Nat} {mode : Layout.Mode} {name : String}
    {children : List Tree} {text : Text} :
    render depth mode (.form name children) = .ok text ↔
      ∃ texts, renderAll (depth + 1) children = .ok texts ∧
        text = Layout.form mode depth name.toList texts := by
  simp only [render, bind_eq_ok_iff, pure_eq_ok_iff]

theorem exists_renderAll_iff {depth : Nat} : ∀ {ts : List Tree},
    (∃ texts, renderAll depth ts = .ok texts) ↔
      ∀ t ∈ ts, ∃ text, render depth .auto t = .ok text
  | [] => by simp [renderAll]
  | t :: ts => by
      have ih : (∃ texts, renderAll depth ts = .ok texts) ↔
          ∀ t ∈ ts, ∃ text, render depth .auto t = .ok text := exists_renderAll_iff
      simp only [renderAll_eq_ok_iff, List.forall₂_cons_left_iff, List.forall_mem_cons] at ih ⊢
      constructor
      · rintro ⟨_, first, rest, hfirst, hrest, rfl⟩
        exact ⟨⟨first, hfirst⟩, ih.mp ⟨rest, hrest⟩⟩
      · rintro ⟨⟨first, hfirst⟩, hts⟩
        obtain ⟨rest, hrest⟩ := ih.mpr hts
        exact ⟨first :: rest, first, rest, hfirst, hrest, rfl⟩

/-- Whether a tree has a text depends neither on the depth nor on the mode. -/
theorem exists_render_iff (t : Tree) : ∀ (depth : Nat) (mode : Layout.Mode),
    (∃ text, render depth mode t = .ok text) ↔ t.Complete := by
  induction t with
  | atom text => intro depth mode; simp [render, Complete, pieces, Piece.HasText]
  | str content => intro depth mode; simp [render, Complete, pieces, Piece.HasText]
  | list items ih =>
      intro depth mode
      simp only [Complete, forall_pieces_list, render_list_eq_ok_iff]
      constructor
      · rintro ⟨_, texts, htexts, -⟩ t ht
        exact (ih t ht 0 .auto).mp (exists_renderAll_iff.mp ⟨texts, htexts⟩ t ht)
      · intro h
        obtain ⟨texts, htexts⟩ := exists_renderAll_iff.mpr
          fun t ht => (ih t ht 0 .auto).mpr (h t ht)
        exact ⟨_, texts, htexts, rfl⟩
  | comment c => intro depth mode; simp [render, Complete, pieces, Piece.HasText]
  | stub children => intro depth mode; simp [render, Complete, pieces, Piece.HasText]
  | form name children ih =>
      intro depth mode
      simp only [Complete, forall_pieces_form, Piece.HasText, true_and, render_form_eq_ok_iff]
      constructor
      · rintro ⟨_, texts, htexts, -⟩ t ht
        exact (ih t ht (depth + 1) .auto).mp (exists_renderAll_iff.mp ⟨texts, htexts⟩ t ht)
      · intro h
        obtain ⟨texts, htexts⟩ := exists_renderAll_iff.mpr
          fun t ht => (ih t ht (depth + 1) .auto).mpr (h t ht)
        exact ⟨_, texts, htexts, rfl⟩
  | emptyExpr => intro depth mode; simp [render, Complete, pieces, Piece.HasText]
  | expr content ih =>
      intro depth mode
      simp only [Complete, forall_pieces_expr, render]
      exact ih (depth + 1) .auto

end Tree

end SmtScript
