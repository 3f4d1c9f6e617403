import SmtScript.Proofs.Composition
import SmtScript.Proofs.Locality
import SmtScript.Proofs.Script
import SmtScript.Proofs.Sealing

/-!
# What stays inside of a comment

A comment is split into lines at line feeds, but a strict reader ends it at a carriage return too.
What stands behind a carriage return is then read as if it were code. So a comment is read as
nothing exactly if there is nothing behind each of its carriage returns, apart from spaces, but
another comment or another line end.
-/

namespace SmtScript

namespace SExpr

/-! ## Contained texts -/

def isLineEnd (c : Char) : Bool :=
  c == '\n' || c == '\r'

theorem endsAtLines_isLineEnd : EndsAtLines isLineEnd :=
  ⟨rfl, fun c hc => by simpa [isLineEnd] using hc⟩

theorem ne_of_not_isLineEnd {c : Char} (h : isLineEnd c = false) : c ≠ '\n' ∧ c ≠ '\r' := by
  simpa [isLineEnd] using h

def isGap (c : Char) : Bool :=
  c == ' ' || c == '\t'

theorem isBlank_eq (c : Char) : isBlank c = (isGap c || isLineEnd c) := by
  rw [isBlank, isGap, isLineEnd, Bool.or_assoc]

/-- Behind spaces and tabs, a comment begins, or the line ends. -/
def startsHarmless (text : Text) : Bool :=
  (text.dropWhile isGap).head?.all fun c => c == ';' || isLineEnd c

/-- Behind every carriage return there is nothing to be read. -/
def isContained : Text → Bool
  | [] => true
  | c :: rest => (c != '\r' || startsHarmless rest) && isContained rest

theorem isContained_of_ne {c : Char} (h : c ≠ '\r') (rest : Text) :
    isContained (c :: rest) = isContained rest := by
  rw [isContained, bne_iff_ne.mpr h, Bool.true_or, Bool.true_and]

theorem startsHarmless_of_gap {c : Char} (h : isGap c = true) (rest : Text) :
    startsHarmless (c :: rest) = startsHarmless rest := by
  rw [startsHarmless, List.dropWhile_cons, if_pos h, startsHarmless]

theorem startsHarmless_of_not_gap {c : Char} (h : isGap c = false) (rest : Text) :
    startsHarmless (c :: rest) = (c == ';' || isLineEnd c) := by
  have hne : ¬ isGap c = true := Bool.eq_false_iff.mp h
  rw [startsHarmless, List.dropWhile_cons, if_neg hne]
  rfl

/-- What comes of the rest of a comment, in the comment or behind a line end in it. -/
def isHarmless (token : Token) (text : Text) : Bool :=
  match token with
  | .comment => isContained text
  | _ => startsHarmless text && isContained text

theorem isHarmless_none (text : Text) :
    isHarmless .none text = (startsHarmless text && isContained text) :=
  rfl

theorem isHarmless_comment (text : Text) : isHarmless .comment text = isContained text :=
  rfl

namespace Reading

variable {outer : List (List SExpr)} {items : List SExpr} {token : Token} {r next last : Reading}

/-! ## Traces -/

/-- Something was read that is no comment. -/
def IsDirty (r : Reading) : Prop :=
  r.outer ≠ [] ∨ r.flush.items ≠ [] ∨ ∃ content, r.token = .string content

theorem IsDirty.finish? (h : r.IsDirty) : r.finish? ≠ some [] := by
  obtain ⟨outer, items, token⟩ := r
  cases outer with
  | cons before outer => cases token <;> simp [Reading.finish?]
  | nil => cases token <;> simp_all [IsDirty, Reading.finish?, flush, push]

theorem isDirty_of_close {next : Reading} (h : r.close? = some next) : next.IsDirty := by
  obtain ⟨outer, items, token⟩ := r
  cases outer with
  | nil => cases h
  | cons before outer =>
      cases h
      exact .inr (.inl (by simp [Reading.flush]))

/-- Outside of strings and comments every character but a blank leaves a trace. -/
theorem isDirty_of_plain {c : Char} (hblank : isBlank c = false) (hmark : c ≠ ';')
    (h : r.plain c = some next) : next.IsDirty := by
  rw [plain, if_neg (Bool.eq_false_iff.mp hblank)] at h
  split at h
  · cases h
    exact .inl (List.cons_ne_nil _ _)
  · split at h
    · exact isDirty_of_close h
    · split at h
      · cases h
        exact .inr (.inr ⟨[], rfl⟩)
      · refine .inr (.inl ?_)
        split at h <;> (cases h; simp [Reading.flush, push])

theorem IsDirty.step {ends : Char → Bool} (h : r.IsDirty) {c : Char}
    (hstep : r.step ends c = some next) : next.IsDirty := by
  obtain ⟨outer, items, token⟩ := r
  cases token with
  | string content =>
      simp only [Reading.step] at hstep
      split at hstep <;> cases hstep
      · exact .inr (.inl (by simp [push, Reading.flush]))
      · exact .inr (.inr ⟨_, rfl⟩)
  | comment =>
      simp only [Reading.step] at hstep
      have hkept : outer ≠ [] ∨ items ≠ [] := by simpa [IsDirty, Reading.flush] using h
      split at hstep <;> (cases hstep; exact hkept.imp_right .inl)
  | none | symbol text =>
      by_cases hblank : isBlank c = true
      · simp only [Reading.step, plain, if_pos hblank] at hstep
        cases hstep
        simp_all [IsDirty, Reading.flush, push]
      · by_cases hmark : c = ';'
        · subst hmark
          cases hstep
          simp_all [IsDirty, Reading.flush, push]
        · exact isDirty_of_plain (Bool.eq_false_iff.mpr hblank) hmark hstep

theorem IsDirty.steps {ends : Char → Bool} {text : Text} (h : r.IsDirty)
    (hsteps : r.steps ends text = some last) : last.IsDirty := by
  induction text generalizing r with
  | nil => cases hsteps; exact h
  | cons c rest ih =>
      rw [steps_cons, Option.bind_eq_some_iff] at hsteps
      obtain ⟨next, hnext, hlast⟩ := hsteps
      exact ih (h.step hnext) hlast

/-! ## The text of a comment, character by character -/

/-- The text of a comment behind its first mark. Every further line has a mark of its own. -/
def marked (text : Text) : Text :=
  text.flatMap fun c => if c = '\n' then ['\n', ';', ' '] else [c]

theorem marked_cons (c : Char) (rest : Text) : marked (c :: rest) = marked [c] ++ marked rest := by
  rw [marked, marked, marked, ← List.flatMap_append, List.singleton_append]

theorem marked_singleton {c : Char} (h : c ≠ '\n') : marked [c] = [c] := by
  simp [marked, h]

/-- The character leaves no trace, and the rest is as harmless as it is from there on. -/
structure Passes (token : Token) (c : Char) (after : Token) : Prop where
  free : after = .none ∨ after = .comment
  steps : ∀ outer items, steps isLineEnd ⟨outer, items, token⟩ (marked [c]) =
    some ⟨outer, items, after⟩
  isHarmless : ∀ rest, isHarmless token (c :: rest) = isHarmless after rest

/-- The next line has its mark, wherever the reader was. -/
theorem passes_newline (htoken : token = .none ∨ token = .comment) :
    Passes token '\n' .comment := by
  rcases htoken with rfl | rfl
  · exact ⟨.inr rfl, fun _ _ => rfl, fun _ => rfl⟩
  · exact ⟨.inr rfl, fun _ _ => rfl, fun _ => rfl⟩

theorem passes_return (htoken : token = .none ∨ token = .comment) : Passes token '\r' .none := by
  rcases htoken with rfl | rfl
  · refine ⟨.inl rfl, fun _ _ => rfl, fun rest => ?_⟩
    rw [isHarmless_none, startsHarmless_of_not_gap rfl, isContained]
    rfl
  · refine ⟨.inl rfl, fun _ _ => rfl, fun rest => ?_⟩
    rw [isHarmless_comment, isContained]
    rfl

theorem passes_comment {c : Char} (hend : isLineEnd c = false) : Passes .comment c .comment := by
  obtain ⟨hlf, hcr⟩ := ne_of_not_isLineEnd hend
  refine ⟨.inr rfl, fun outer items => ?_, fun rest => ?_⟩
  · rw [marked_singleton hlf, steps_cons, step_comment hend]
    rfl
  · rw [isHarmless_comment, isHarmless_comment, isContained_of_ne hcr]

theorem passes_gap {c : Char} (hend : isLineEnd c = false) (hgap : isGap c = true) :
    Passes .none c .none := by
  obtain ⟨hlf, hcr⟩ := ne_of_not_isLineEnd hend
  have hblank : isBlank c = true := by
    rw [isBlank_eq, hgap, Bool.true_or]
  refine ⟨.inl rfl, fun outer items => ?_, fun rest => ?_⟩
  · rw [marked_singleton hlf, steps_cons, step_blank flush_none hblank]
    rfl
  · rw [isHarmless_none, isHarmless_none, startsHarmless_of_gap hgap, isContained_of_ne hcr]

theorem passes_mark : Passes .none ';' .comment := by
  refine ⟨.inr rfl, fun _ _ => rfl, fun rest => ?_⟩
  rw [isHarmless_none, isHarmless_comment, startsHarmless_of_not_gap rfl,
    isContained_of_ne (by decide)]
  rfl

/-- Any other character behind a line end is read, and no rest makes up for it. -/
theorem isDirty_of_marked {c : Char} (hend : isLineEnd c = false) (hgap : isGap c = false)
    (hmark : c ≠ ';') : (∀ rest, isHarmless .none (c :: rest) = false) ∧
      ∀ outer items next, steps isLineEnd ⟨outer, items, .none⟩ (marked [c]) = some next →
        next.IsDirty := by
  have hblank : isBlank c = false := by
    rw [isBlank_eq, hgap, hend, Bool.or_false]
  refine ⟨fun rest => ?_, fun outer items next hstep => ?_⟩
  · rw [isHarmless_none, startsHarmless_of_not_gap hgap, hend, beq_eq_false_iff_ne.mpr hmark,
      Bool.or_false, Bool.false_and]
  · rw [marked_singleton (ne_of_not_isLineEnd hend).1, steps_cons,
      Option.bind_eq_some_iff] at hstep
    obtain ⟨_, hplain, heq⟩ := hstep
    cases heq
    exact isDirty_of_plain hblank hmark hplain

/-- One character of a comment passes without a trace, or it leaves one. -/
theorem passes_or_isDirty (htoken : token = .none ∨ token = .comment) (c : Char) :
    (∃ after, Passes token c after) ∨
    (∀ rest, isHarmless token (c :: rest) = false) ∧
      ∀ outer items next, steps isLineEnd ⟨outer, items, token⟩ (marked [c]) = some next →
        next.IsDirty := by
  by_cases hlf : c = '\n'
  · subst hlf
    exact .inl ⟨_, passes_newline htoken⟩
  by_cases hcr : c = '\r'
  · subst hcr
    exact .inl ⟨_, passes_return htoken⟩
  have hend : isLineEnd c = false := endsAtLines_isLineEnd.eq_false hlf hcr
  rcases htoken with rfl | rfl
  · by_cases hgap : isGap c = true
    · exact .inl ⟨_, passes_gap hend hgap⟩
    by_cases hmark : c = ';'
    · subst hmark
      exact .inl ⟨_, passes_mark⟩
    · exact .inr (isDirty_of_marked hend (Bool.eq_false_iff.mpr hgap) hmark)
  · exact .inl ⟨_, passes_comment hend⟩

/-- The rest of a comment leaves no trace if it is harmless, and it leaves one if it is not. -/
theorem steps_marked : ∀ (text : Text) {token : Token}, token = .none ∨ token = .comment →
    (isHarmless token text = true → ∃ after, (after = .none ∨ after = .comment) ∧
      ∀ outer items, steps isLineEnd ⟨outer, items, token⟩ (marked text) =
        some ⟨outer, items, after⟩) ∧
    (isHarmless token text = false → ∀ outer items last,
      steps isLineEnd ⟨outer, items, token⟩ (marked text) = some last → last.IsDirty)
  | [], token, htoken => by
      refine ⟨fun _ => ⟨token, htoken, fun _ _ => rfl⟩, fun hharm => ?_⟩
      rcases htoken with rfl | rfl <;> cases hharm
  | c :: rest, token, htoken => by
      rw [marked_cons]
      rcases passes_or_isDirty htoken c with ⟨next, hpasses⟩ | ⟨hharm, hdirty⟩
      · obtain ⟨hkept, htrace⟩ := steps_marked rest hpasses.free
        rw [hpasses.isHarmless]
        constructor
        · intro h
          obtain ⟨after, hafter, hrest⟩ := hkept h
          refine ⟨after, hafter, fun outer items => ?_⟩
          rw [steps_append, hpasses.steps, Option.bind_some, hrest]
        · intro h outer items last hlast
          rw [steps_append, hpasses.steps, Option.bind_some] at hlast
          exact htrace h outer items last hlast
      · refine ⟨fun h => ?_, fun _ outer items last hlast => ?_⟩
        · rw [hharm] at h
          cases h
        · rw [steps_append, Option.bind_eq_some_iff] at hlast
          obtain ⟨next, hnext, hlast⟩ := hlast
          exact (hdirty outer items next hnext).steps hlast

/-! ## Whole comments -/

/-- The first mark begins a comment, and then the rest is read, whatever the kind and the depth. -/
theorem steps_comment (depth : Nat) (c : Comment) :
    steps isLineEnd ⟨outer, items, .none⟩ (Layout.comment depth c) =
      (steps isLineEnd ⟨outer, items, .comment⟩ (marked c.text.toList)).bind fun r =>
        r.steps isLineEnd
          (if c.spaced then '\n' :: Layout.spaces (Layout.commentWidth depth - 1) else []) := by
  have hspace : isLineEnd ' ' = false := by decide
  have hblock (n : Nat) : steps isLineEnd ⟨outer, items, .none⟩
      (Layout.spaces n ++ Layout.commentLines c.text.toList) =
        steps isLineEnd ⟨outer, items, .comment⟩ (marked c.text.toList) := by
    rw [steps_append, steps_spaces, Option.bind_some, Layout.commentLines, steps_cons, step_mark,
      Option.bind_some, steps_cons, step_comment hspace, Option.bind_some]
    rfl
  rw [Layout.comment]
  cases c.spaced with
  | true =>
      simp only [if_true]
      rw [steps_cons, step_blank flush_none (by decide), Option.bind_some, steps_append, hblock]
  | false =>
      simp only [Bool.false_eq_true, if_false]
      rw [hblock]
      cases steps isLineEnd ⟨outer, items, .comment⟩ (marked c.text.toList) <;> rfl

/-- A contained comment of either kind leaves the reader where it was, at any depth, and a spaced
one ends its last line. -/
theorem steps_contained {c : Comment} (h : isContained c.text.toList = true) (depth : Nat) :
    ∃ after, (after = .none ∨ after = .comment) ∧ (c.spaced = true → after = .none) ∧
      ∀ outer items, steps isLineEnd ⟨outer, items, .none⟩ (Layout.comment depth c) =
        some ⟨outer, items, after⟩ := by
  obtain ⟨after, hafter, hsteps⟩ := (steps_marked c.text.toList (.inr rfl)).1 h
  have hflush : ∀ outer items, flush ⟨outer, items, after⟩ = ⟨outer, items, after⟩ := by
    rcases hafter with rfl | rfl <;> exact fun _ _ => rfl
  simp only [steps_comment, hsteps, Option.bind_some]
  cases c.spaced with
  | true =>
      refine ⟨.none, .inl rfl, fun _ => rfl, fun outer items => ?_⟩
      rw [if_pos rfl, steps_cons, step_newline endsAtLines_isLineEnd (hflush outer items) hafter]
      exact steps_spaces _
  | false => exact ⟨after, hafter, Bool.noConfusion, fun _ _ => rfl⟩

theorem isDirty_of_not_contained {c : Comment} (h : isContained c.text.toList = false)
    (depth : Nat)
    (hlast : steps isLineEnd ⟨outer, items, .none⟩ (Layout.comment depth c) = some last) :
    last.IsDirty := by
  rw [steps_comment, Option.bind_eq_some_iff] at hlast
  obtain ⟨next, hnext, hlast⟩ := hlast
  exact ((steps_marked c.text.toList (.inr rfl)).2 h outer items next hnext).steps hlast

end Reading

theorem readStrict_eq (text : Text) :
    readStrict text = (Reading.start.steps isLineEnd text).bind Reading.finish? :=
  rfl

/-- A comment consists of comments and blanks exactly if its text is contained. -/
theorem readStrict_comment_iff (depth : Nat) (c : Comment) :
    readStrict (Layout.comment depth c) = some [] ↔ isContained c.text.toList = true := by
  rw [readStrict_eq]
  constructor
  · intro hread
    obtain ⟨last, hlast, hfinish⟩ := Option.bind_eq_some_iff.mp hread
    by_contra hcontained
    exact (Reading.isDirty_of_not_contained (Bool.eq_false_iff.mpr hcontained) depth hlast).finish?
      hfinish
  · intro hcontained
    obtain ⟨after, hafter, -, hsteps⟩ := Reading.steps_contained hcontained depth
    rw [Reading.start, hsteps, Option.bind_some]
    rcases hafter with rfl | rfl <;> rfl

theorem reads_contained {c : Comment} (hspaced : c.spaced = true)
    (h : isContained c.text.toList = true) (depth : Nat) :
    Reads isLineEnd (Layout.comment depth c) [] := by
  intro outer items
  obtain ⟨after, -, hnone, hsteps⟩ := Reading.steps_contained h depth
  rw [hnone hspaced] at hsteps
  exact ⟨_, hsteps outer items, by rw [Reading.flush_none, List.append_nil]⟩

/-- The text leaves no string open. -/
def ClosesStrings (text : Text) : Prop :=
  ∀ r content, Reading.start.steps isLineEnd text = some r → r.token ≠ .string content

/-- A text that can be read by itself leaves no string open. -/
theorem closesStrings_of_readStrict {text : Text} {es : List SExpr}
    (h : readStrict text = some es) : ClosesStrings text := by
  intro r content hr hcontent
  rw [readStrict_eq, hr, Option.bind_some] at h
  obtain ⟨outer, items, token⟩ := r
  cases hcontent
  cases outer <;> cases h

/-- Behind a line end the reader is between two tokens, unless it is in a string. -/
theorem Reading.token_of_newline {r next : Reading} (h : r.step isLineEnd '\n' = some next)
    (hstring : ∀ content, next.token ≠ .string content) : next.token = .none := by
  obtain ⟨outer, items, token⟩ := r
  cases token with
  | string content =>
      cases h
      exact absurd rfl (hstring _)
  | none | symbol text | comment => cases h; rfl

end SExpr

/-! ## Comments between commands -/

namespace Stack

variable {g : Graph}

theorem renderAll_line : ∀ {ts : List Term} {text : Text}, renderAll g ts = .ok text →
    text = [] ∨ ∃ lines, text = lines ++ ['\n']
  | [], _, h => by cases h; exact .inl rfl
  | t :: ts, _, h => by
      obtain ⟨first, rest, -, hrest, rfl⟩ := renderAll_cons h
      rcases renderAll_line hrest with rfl | ⟨lines, rfl⟩
      · exact .inr ⟨first, rfl⟩
      · refine .inr ⟨first ++ '\n' :: lines, ?_⟩
        rw [List.append_assoc, List.cons_append]

/-- Behind the text of a stack a new line begins. -/
theorem token_of_serialize {stack : Stack} {text : String} (h : stack.serialize g = .ok text)
    (hstrings : SExpr.ClosesStrings text.toList) {r : SExpr.Reading}
    (hr : SExpr.Reading.start.steps SExpr.isLineEnd text.toList = some r) : r.token = .none := by
  obtain ⟨own, hown, rfl⟩ := map_eq_ok_iff.mp h
  have hstring := fun content => hstrings r content hr
  rw [String.toList_ofList] at hr
  rcases renderAll_line hown with rfl | ⟨lines, rfl⟩
  · cases hr
    rfl
  · rw [SExpr.Reading.steps_append, Option.bind_eq_some_iff] at hr
    obtain ⟨before, -, hstep⟩ := hr
    rw [SExpr.Reading.steps_cons, Option.bind_eq_some_iff] at hstep
    obtain ⟨_, hnewline, heq⟩ := hstep
    cases heq
    exact SExpr.Reading.token_of_newline hnewline hstring

/-- With a contained comment between two commands, a script is read as without it. -/
theorem readStrict_noted {front back : List Term} {note : Comment} {plain : String}
    (hcontained : SExpr.isContained note.text.toList = true)
    (hplain : Stack.serialize ⟨front ++ back⟩ g = .ok plain)
    (hstrings : ∀ text, Stack.serialize ⟨front⟩ g = .ok text → SExpr.ClosesStrings text.toList) :
    ∃ noted, Stack.serialize ⟨front ++ .comment note :: back⟩ g = .ok noted ∧
      SExpr.readStrict noted.toList = SExpr.readStrict plain.toList := by
  rw [serialize_append] at hplain
  obtain ⟨a, ha, hplain⟩ := bind_eq_ok_iff.mp hplain
  obtain ⟨b, hb, rfl⟩ := map_eq_ok_iff.mp hplain
  have hnote : g.serialize (.comment note) 0 .auto =
      .ok (String.ofList (Layout.comment 0 note)) := rfl
  refine ⟨a ++ (String.ofList (Layout.comment 0 note) ++ "\n" ++ b), ?_, ?_⟩
  · rw [serialize_append, ha, serialize_cons, hnote, hb]
    rfl
  · have hline : "\n".toList = ['\n'] := rfl
    rw [SExpr.readStrict_eq, SExpr.readStrict_eq, String.toList_append, String.toList_append,
      String.toList_append, String.toList_append, String.toList_ofList, hline,
      SExpr.Reading.steps_append, SExpr.Reading.steps_append]
    cases hr : SExpr.Reading.start.steps SExpr.isLineEnd a.toList with
    | none => rfl
    | some r =>
        obtain ⟨outer, items, token⟩ := r
        obtain rfl : token = .none := token_of_serialize ha (hstrings a ha) hr
        obtain ⟨after, hafter, -, hsteps⟩ := SExpr.Reading.steps_contained hcontained 0
        have hflush : SExpr.Reading.flush ⟨outer, items, after⟩ = ⟨outer, items, after⟩ := by
          rcases hafter with rfl | rfl <;> rfl
        rw [Option.bind_some, Option.bind_some, SExpr.Reading.steps_append,
          SExpr.Reading.steps_append, hsteps, Option.bind_some, SExpr.Reading.steps_cons,
          SExpr.Reading.step_newline SExpr.endsAtLines_isLineEnd hflush hafter]
        rfl

end Stack

/-! ## Comments in forms -/

/-- The second tree is the first with the comment in some places, and it says the same. -/
structure Tree.Noted (c : Comment) (tree noted : Tree) : Prop where
  sexprs : noted.sexprs = tree.sexprs
  pieces : ∀ p ∈ noted.pieces, p ∈ tree.pieces ∨ p = .comment c

structure Tree.NotedAll (c : Comment) (trees noted : List Tree) : Prop where
  sexprs : sexprsAll noted = sexprsAll trees
  pieces : ∀ p ∈ piecesAll noted, p ∈ piecesAll trees ∨ p = .comment c

theorem Tree.NotedAll.cons {c : Comment} {tree noted : Tree} {trees rest : List Tree}
    (h : tree.Noted c noted) (hrest : NotedAll c trees rest) :
    NotedAll c (tree :: trees) (noted :: rest) := by
  refine ⟨by rw [sexprsAll, sexprsAll, h.sexprs, hrest.sexprs], fun p hp => ?_⟩
  rw [piecesAll, List.mem_append] at hp ⊢
  rcases hp with hp | hp
  · exact (h.pieces p hp).imp_left .inl
  · exact (hrest.pieces p hp).imp_left .inr

namespace Graph

variable {g grown : Graph} {id : NodeId} {c : Comment}

theorem UnfoldsAll.append : ∀ {ts us : List Term} {as bs : List Tree},
    g.UnfoldsAll ts as → g.UnfoldsAll us bs → g.UnfoldsAll (ts ++ us) (as ++ bs)
  | _, _, _, _, .nil, h => h
  | _, _, _, _, .cons first rest, h => .cons first (rest.append h)

/-- A form that takes a comment holds it last, and the other forms hold what they did. -/
theorem node_noted_form (hattach : g.attach id (.comment c) = .ok grown) {a : NodeId}
    {name : Option String} {children : List Term} (hnode : g.node a = .form name children) :
    ∃ added, grown.node a = .form name (children ++ added) ∧
      (added = [] ∨ added = [.comment c]) := by
  obtain ⟨n, hn, rfl⟩ := attach_ok hattach
  rw [node_put]
  by_cases ha : a = id ∧ id < g.size
  · rw [← ha.1, hnode] at hn
    cases hn
    exact ⟨[.comment c], if_pos ha, .inr rfl⟩
  · rw [if_neg ha, hnode]
    exact ⟨[], by rw [List.append_nil], .inl rfl⟩

/-- An expression is as it was before. -/
theorem node_noted_expr (hattach : g.attach id (.comment c) = .ok grown)
    (hform : ∃ name children, g.node id = .form name children) {a : NodeId}
    {content : Option Term} (hnode : g.node a = .expr content) :
    grown.node a = .expr content := by
  have hne : a ≠ id := by
    rintro rfl
    obtain ⟨name, children, hown⟩ := hform
    rw [hnode] at hown
    cases hown
  rw [node_attach hattach hne, hnode]

/-- Behind the children, the comment says nothing. -/
theorem UnfoldsAll.noted_form (hattach : g.attach id (.comment c) = .ok grown) {a : NodeId}
    {name : Option String} {children : List Term} {trees noted : List Tree}
    (hnode : g.node a = .form name children) (h : grown.UnfoldsAll children noted)
    (hnoted : Tree.NotedAll c trees noted) :
    ∃ held all, grown.node a = .form name held ∧ grown.UnfoldsAll held all ∧
      Tree.NotedAll c trees all := by
  obtain ⟨added, hgrown, rfl | rfl⟩ := node_noted_form hattach hnode
  · rw [List.append_nil] at hgrown
    exact ⟨children, noted, hgrown, h, hnoted⟩
  · refine ⟨_, noted ++ [.comment c], hgrown, h.append (.cons (.comment c) .nil), ?_, ?_⟩
    · rw [Tree.sexprsAll_append, ← hnoted.sexprs]
      exact List.append_nil _
    · intro p hp
      obtain ⟨tree, htree, hp⟩ := Tree.mem_piecesAll.mp hp
      rcases List.mem_append.mp htree with htree | htree
      · exact hnoted.pieces p (Tree.mem_piecesAll.mpr ⟨tree, htree, hp⟩)
      · rw [List.mem_singleton.mp htree] at hp
        exact .inr (List.mem_singleton.mp hp)

mutual

/-- After a form took the comment, every term says what it said before. -/
theorem Unfolds.noted (hattach : g.attach id (.comment c) = .ok grown)
    (hform : ∃ name children, g.node id = .form name children) {t : Term} {tree : Tree}
    (h : g.Unfolds t tree) : ∃ noted, grown.Unfolds t noted ∧ tree.Noted c noted := by
  cases h with
  | atom text => exact ⟨_, .atom text, rfl, fun p hp => .inl hp⟩
  | str content => exact ⟨_, .str content, rfl, fun p hp => .inl hp⟩
  | comment own => exact ⟨_, .comment own, rfl, fun p hp => .inl hp⟩
  | list h =>
      obtain ⟨noted, hnoted, hsexprs, hpieces⟩ := h.noted hattach hform
      refine ⟨.list noted, .list hnoted, ?_, hpieces⟩
      rw [Tree.sexprs, Tree.sexprs, hsexprs]
  | stub hnode h =>
      obtain ⟨noted, hnoted, hall⟩ := h.noted hattach hform
      obtain ⟨held, all, hgrown, hunfolds, -, hpieces⟩ := hnoted.noted_form hattach hnode hall
      refine ⟨.stub all, .stub hgrown hunfolds, rfl, fun p hp => ?_⟩
      rw [Tree.pieces, List.mem_cons] at hp ⊢
      rcases hp with hp | hp
      · exact .inl (.inl hp)
      · exact (hpieces p hp).imp_left .inr
  | @form a name children trees hnode h =>
      obtain ⟨noted, hnoted, hall⟩ := h.noted hattach hform
      obtain ⟨held, all, hgrown, hunfolds, hsexprs, hpieces⟩ :=
        hnoted.noted_form hattach hnode hall
      refine ⟨.form name all, .form hgrown hunfolds, ?_, fun p hp => ?_⟩
      · rw [Tree.sexprs, Tree.sexprs, hsexprs]
      · rw [Tree.pieces, List.mem_cons] at hp ⊢
        rcases hp with hp | hp
        · exact .inl (.inl hp)
        · exact (hpieces p hp).imp_left .inr
  | emptyExpr hnode =>
      have hgrown := node_noted_expr hattach hform hnode
      exact ⟨.emptyExpr, .emptyExpr hgrown, rfl, fun p hp => .inl hp⟩
  | expr hnode h =>
      obtain ⟨noted, hnoted, hsexprs, hpieces⟩ := h.noted hattach hform
      have hgrown := node_noted_expr hattach hform hnode
      exact ⟨.expr noted, .expr hgrown hnoted, hsexprs, hpieces⟩

theorem UnfoldsAll.noted (hattach : g.attach id (.comment c) = .ok grown)
    (hform : ∃ name children, g.node id = .form name children) {ts : List Term}
    {trees : List Tree} (h : g.UnfoldsAll ts trees) :
    ∃ noted, grown.UnfoldsAll ts noted ∧ Tree.NotedAll c trees noted := by
  cases h with
  | nil => exact ⟨[], .nil, rfl, fun p hp => .inl hp⟩
  | cons first rest =>
      obtain ⟨tree, htree, hfirst⟩ := first.noted hattach hform
      obtain ⟨noted, hnoted, hrest⟩ := rest.noted hattach hform
      exact ⟨tree :: noted, .cons htree hnoted, Tree.NotedAll.cons hfirst hrest⟩

end

end Graph

/-- Every comment of the tree is contained. -/
def Tree.IsContained (t : Tree) : Prop :=
  ∀ c, .comment c ∈ t.pieces → SExpr.isContained c.text.toList = true

/-- A clean term with contained comments is read strictly as what its tree says. -/
theorem Graph.readStrict_serialize {g : Graph} {t : Term} {tree : Tree} (htree : g.Unfolds t tree)
    (hcomplete : tree.Complete) (hclean : tree.IsClean) (hcontained : tree.IsContained)
    (depth : Nat) (mode : Layout.Mode) : ∃ text, g.serialize t depth mode = .ok text ∧
      SExpr.readStrict text.toList = some tree.sexprs := by
  obtain ⟨text, htext⟩ := (tree.exists_render_iff depth mode).mpr hcomplete
  refine ⟨String.ofList text, ?_, ?_⟩
  · rw [htree.serialize, Tree.serialize, htext]
    rfl
  · have hcomments : ∀ c, .comment c ∈ tree.pieces → ∀ depth,
        SExpr.Reads SExpr.isLineEnd (Layout.comment depth c) [] :=
      fun c hc => SExpr.reads_contained (hclean _ hc) (hcontained c hc)
    rw [String.toList_ofList]
    exact SExpr.readWith_of_reads
      (SExpr.reads_render_of_comments tree hclean hcomments depth mode text htext)

/-- **What stays inside of a comment.** A comment of either kind consists of comments and blanks at
every depth exactly if its text is contained, that is if there is nothing to be read behind any of
its carriage returns. Then a script with the comment between two commands is read as the script
without it. And if a form takes it, the term that the form is in is read as before, wherever the
form is and however often. -/
theorem comments_contained (text : String) :
    (∀ depth spaced, SExpr.readStrict (Layout.comment depth ⟨text, spaced⟩) = some [] ↔
      SExpr.isContained text.toList = true) ∧
    (SExpr.isContained text.toList = true →
      (∀ (g : Graph) (stack : Stack) (back : List Term) (plain : String),
        Stack.serialize ⟨stack.commands ++ back⟩ g = .ok plain →
        (∀ front, stack.serialize g = .ok front → SExpr.ClosesStrings front.toList) →
        ∃ noted, Stack.serialize ⟨(stack.comment text).commands ++ back⟩ g = .ok noted ∧
          SExpr.readStrict noted.toList = SExpr.readStrict plain.toList) ∧
      ∀ (g grown : Graph) (id : NodeId) (note : Comment),
        g.annotate id text = .ok (note, grown) →
        (∃ name children, g.node id = .form name children) →
        ∀ (t : Term) (tree : Tree), g.Unfolds t tree → tree.Complete → tree.IsClean →
          tree.IsContained → ∀ depth mode, ∃ plain noted,
            g.serialize t depth mode = .ok plain ∧ grown.serialize t depth mode = .ok noted ∧
            SExpr.readStrict plain.toList = some tree.sexprs ∧
            SExpr.readStrict noted.toList = some tree.sexprs) := by
  refine ⟨fun depth spaced => SExpr.readStrict_comment_iff depth ⟨text, spaced⟩,
    fun hcontained => ⟨?_, ?_⟩⟩
  · intro g stack back plain hplain hstrings
    have hnote : SExpr.isContained (Comment.mk text false).text.toList = true := hcontained
    obtain ⟨noted, hnoted, hread⟩ := Stack.readStrict_noted hnote hplain hstrings
    refine ⟨noted, ?_, hread⟩
    rw [Stack.comment, Stack.push, List.append_assoc]
    exact hnoted
  · intro g grown id note hannotate hform t tree htree hcomplete hclean hown depth mode
    obtain ⟨noted, hnoted, hsexprs, hpieces⟩ :=
      htree.noted (Graph.annotate_ok hannotate) hform
    have hcomplete' : noted.Complete := by
      intro p hp
      rcases hpieces p hp with hp | rfl
      · exact hcomplete p hp
      · trivial
    have hclean' : noted.IsClean := by
      intro p hp
      rcases hpieces p hp with hp | rfl
      · exact hclean p hp
      · rfl
    have hown' : noted.IsContained := by
      intro c hc
      rcases hpieces _ hc with hc | heq
      · exact hown c hc
      · cases heq
        exact hcontained
    obtain ⟨a, ha, hreada⟩ := Graph.readStrict_serialize htree hcomplete hclean hown depth mode
    obtain ⟨b, hb, hreadb⟩ :=
      Graph.readStrict_serialize hnoted hcomplete' hclean' hown' depth mode
    rw [hsexprs] at hreadb
    exact ⟨a, b, ha, hb, hreada, hreadb⟩

/-- An assertion whose form stands in it twice. -/
def repeated : Graph :=
  ⟨#[.form (some "not") [.atom "p"], .form (some "assert") [.node 0, .list [.node 0]]]⟩

def repeatedTree : Tree :=
  .form "assert" [.form "not" [.atom "p"], .list [.form "not" [.atom "p"]]]

/-- Quotes and parentheses stay inside, and behind the carriage returns there are other comments or
line ends. -/
def guarded : String :=
  "one \") (\r  ; two (exit)\r\n\"three)"

theorem guarded_contained :
    (∃ noted, Stack.serialize ⟨((Stack.mk [.node 1]).comment guarded).commands ++ [.node 0]⟩
        repeated = .ok noted ∧
      SExpr.readStrict noted.toList =
        SExpr.readStrict "(assert (not p) ((not p)))\n(not p)\n".toList) ∧
    ∃ grown plain noted, repeated.annotate 0 guarded = .ok (⟨guarded, true⟩, grown) ∧
      repeated.serialize (.node 1) 2 .spread = .ok plain ∧
      grown.serialize (.node 1) 2 .spread = .ok noted ∧
      SExpr.readStrict plain.toList = some repeatedTree.sexprs ∧
      SExpr.readStrict noted.toList = some repeatedTree.sexprs := by
  have hguarded : SExpr.isContained guarded.toList = true := by decide
  obtain ⟨hstack, hform⟩ := (comments_contained guarded).2 hguarded
  have hplain : Stack.serialize ⟨[.node 1] ++ [.node 0]⟩ repeated =
      .ok "(assert (not p) ((not p)))\n(not p)\n" := by decide +kernel
  have hfront : Stack.serialize ⟨[.node 1]⟩ repeated = .ok "(assert (not p) ((not p)))\n" := by
    decide +kernel
  have hread : SExpr.readStrict "(assert (not p) ((not p)))\n".toList =
      some repeatedTree.sexprs := rfl
  have hstrings : ∀ front, Stack.serialize ⟨[.node 1]⟩ repeated = .ok front →
      SExpr.ClosesStrings front.toList := by
    intro front hown
    rw [hfront] at hown
    cases hown
    exact SExpr.closesStrings_of_readStrict hread
  have htree : repeated.Unfolds (.node 1) repeatedTree := Graph.unfolds_of_tree? rfl
  have hcontained : repeatedTree.IsContained := by
    intro c hc
    simp [repeatedTree, Tree.pieces, Tree.piecesAll] at hc
  have hterm := hform repeated _ 0 _ rfl ⟨_, _, rfl⟩ (.node 1) repeatedTree htree (by decide)
    (by decide) hcontained 2 .spread
  obtain ⟨plain, noted, hown, hnoted, hreads⟩ := hterm
  exact ⟨hstack repeated ⟨[.node 1]⟩ [.node 0] _ hplain hstrings, _, plain, noted, rfl, hown,
    hnoted, hreads⟩

/-- A reader ends the comment at the carriage return, and reads what is left of it as a command. -/
theorem not_contained_exit :
    (Stack.empty.comment "a\r(exit)").serialize .empty = .ok "; a\r(exit)\n" ∧
      SExpr.readStrict "; a\r(exit)\n".toList = some [.list [.symbol "exit".toList]] ∧
      Stack.empty.serialize .empty = .ok "" ∧ SExpr.readStrict "".toList = some [] :=
  ⟨by decide, rfl, rfl, rfl⟩

end SmtScript
