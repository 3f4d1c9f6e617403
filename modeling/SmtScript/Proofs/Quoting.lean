import SmtScript.Solver.Call
import Mathlib.Tactic.SplitIfs

/-!
# Quoted text reads back

A reader of quoted text undoes escapes and stops at the first quote that is not escaped. What was
quoted it reads as it was, and stops at the quote that was put there, whatever follows. So a
message about a path names one path only, and it is on one line, since a quoted text shows in all
its characters.
-/

namespace SmtScript

namespace Text

/-! ## The reader -/

/-- The character that a letter behind a backslash stands for. -/
def shortEscaped? : Char → Option Char
  | '"' => some '"'
  | '\\' => some '\\'
  | 'n' => some '\n'
  | 't' => some '\t'
  | 'r' => some '\r'
  | '0' => some '\x00'
  | _ => none

def hexDigit? (c : Char) : Option Nat :=
  "0123456789abcdef".toList.idxOf? c

/-- The character of a code point. -/
def char? (n : Nat) : Option Char :=
  if n.isValidChar then some (Char.ofNat n) else none

/-- What a reader of quoted text is in the middle of. -/
inductive Position where
  | plain
  /-- Behind the backslash of an escape. -/
  | escape
  /-- Before the braces around a code point. -/
  | brace
  /-- In the braces, behind digits of this value, if there were any. -/
  | digits (value? : Option Nat)

/-- Puts a character in front of what is read. -/
def withChar (c : Char) (read? : Option (List Char × List Char)) :
    Option (List Char × List Char) :=
  read?.map fun (text, rest) => (c :: text, rest)

/-- The text up to the quote that ends it, and what is behind. -/
def unquoteFrom? : Position → List Char → Option (List Char × List Char)
  | _, [] => none
  | .plain, c :: rest =>
      if c = '"' then some ([], rest)
      else if c = '\\' then unquoteFrom? .escape rest
      else withChar c (unquoteFrom? .plain rest)
  | .escape, c :: rest =>
      if c = 'u' then unquoteFrom? .brace rest
      else (shortEscaped? c).bind fun x => withChar x (unquoteFrom? .plain rest)
  | .brace, c :: rest =>
      if c = '\x7b' then unquoteFrom? (.digits none) rest else none
  | .digits value?, c :: rest =>
      if c = '\x7d' then
        (value?.bind char?).bind fun x => withChar x (unquoteFrom? .plain rest)
      else
        (hexDigit? c).bind fun d => unquoteFrom? (.digits (some (16 * value?.getD 0 + d))) rest

/-- The text in the quotes at the front, and what is behind them. -/
def unquote? : List Char → Option (List Char × List Char)
  | '"' :: rest => unquoteFrom? .plain rest
  | _ => none

/-! ## Digits -/

variable {c letter : Char} {n : Nat} {text rest : List Char}

theorem exists_digitChar_of_mem_toDigits (n : Nat) :
    ∀ c ∈ Nat.toDigits 16 n, ∃ d < 16, c = Nat.digitChar d := by
  induction n using Nat.strongRecOn with
  | ind n ih =>
      intro c hc
      by_cases hn : n < 16
      · rw [Nat.toDigits_of_lt_base hn, List.mem_singleton] at hc
        exact ⟨n, hn, hc⟩
      · rw [Nat.toDigits_of_base_le (by decide) (by omega), List.mem_append, List.mem_singleton]
          at hc
        rcases hc with hfront | hlast
        · exact ih (n / 16) (by omega) c hfront
        · exact ⟨n % 16, Nat.mod_lt n (by decide), hlast⟩

theorem hexDigit?_digitChar : ∀ d < 16, hexDigit? (Nat.digitChar d) = some d := by
  decide

theorem digitChar_ne_brace : ∀ d < 16, Nat.digitChar d ≠ '\x7d' := by
  decide

theorem unquoteFrom?_digitChar {d : Nat} (hd : d < 16) (value? : Option Nat) :
    unquoteFrom? (.digits value?) (Nat.digitChar d :: rest) =
      unquoteFrom? (.digits (some (16 * value?.getD 0 + d))) rest := by
  rw [unquoteFrom?, if_neg (digitChar_ne_brace d hd), hexDigit?_digitChar d hd, Option.bind_some]

/-- Digits are read as the number that they were written for. -/
theorem unquoteFrom?_toDigits (n : Nat) (rest : List Char) :
    unquoteFrom? (.digits none) (Nat.toDigits 16 n ++ rest) =
      unquoteFrom? (.digits (some n)) rest := by
  induction n using Nat.strongRecOn generalizing rest with
  | ind n ih =>
      by_cases hn : n < 16
      · rw [Nat.toDigits_of_lt_base hn, List.singleton_append, unquoteFrom?_digitChar hn]
        simp
      · have hvalue : 16 * (n / 16) + n % 16 = n := Nat.div_add_mod n 16
        rw [Nat.toDigits_of_base_le (by decide) (by omega), List.append_assoc,
          ih (n / 16) (by omega), List.singleton_append,
          unquoteFrom?_digitChar (Nat.mod_lt n (by decide)), Option.getD_some, hvalue]

theorem char?_toNat (c : Char) : char? c.toNat = some c := by
  have hvalid : c.toNat.isValidChar := c.valid
  rw [char?, if_pos hvalid, Char.ofNat_toNat]

theorem unquoteFrom?_codePoint (c : Char) (rest : List Char) :
    unquoteFrom? .plain (codePoint c ++ rest) = withChar c (unquoteFrom? .plain rest) := by
  have hopen : codePoint c ++ rest =
      '\\' :: 'u' :: '\x7b' :: (Nat.toDigits 16 c.toNat ++ '\x7d' :: rest) := by
    simp [codePoint]
  have hescape : ∀ rest, unquoteFrom? .plain ('\\' :: 'u' :: '\x7b' :: rest) =
      unquoteFrom? (.digits none) rest := fun _ => rfl
  rw [hopen, hescape, unquoteFrom?_toDigits, unquoteFrom?, if_pos rfl, Option.bind_some,
    char?_toNat, Option.bind_some]

/-! ## Escapes -/

/-- What is true of every escape is true of the short ones, of the characters that show by
themselves, and of code points. -/
theorem escape_cases {P : Char → List Char → Prop}
    (short : ∀ c letter, shortEscape? c = some letter → P c ['\\', letter])
    (printable : ∀ c, shortEscape? c = none → isPrintable c = true → P c [c])
    (hidden : ∀ c, P c (codePoint c)) (c : Char) : P c (escape c) := by
  unfold escape
  split
  · exact short c _ ‹_›
  · split
    · exact printable c ‹_› ‹_›
    · exact hidden c

/-- A short escape is undone, and its letter is no other sign of an escape. -/
theorem shortEscape?_spec (h : shortEscape? c = some letter) :
    shortEscaped? letter = some c ∧ letter ∈ ['"', '\\', 'n', 't', 'r', '0'] := by
  unfold shortEscape? at h
  split_ifs at h <;> cases h <;> subst c <;> decide

theorem ne_of_shortEscape?_eq_none (h : shortEscape? c = none) : c ≠ '"' ∧ c ≠ '\\' := by
  constructor <;> rintro rfl <;> cases h

/-- One escape is one character. -/
theorem unquoteFrom?_escape (c : Char) (rest : List Char) :
    unquoteFrom? .plain (escape c ++ rest) = withChar c (unquoteFrom? .plain rest) := by
  refine escape_cases (P := fun c escaped =>
    unquoteFrom? .plain (escaped ++ rest) = withChar c (unquoteFrom? .plain rest)) ?_ ?_ ?_ c
  · intro c letter hshort
    obtain ⟨hletter, hmem⟩ := shortEscape?_spec hshort
    have hne : letter ≠ 'u' := by
      rintro rfl
      exact absurd hmem (by decide)
    have hescape : ∀ rest, unquoteFrom? .plain ('\\' :: rest) = unquoteFrom? .escape rest :=
      fun _ => rfl
    rw [List.cons_append, hescape, List.singleton_append, unquoteFrom?, if_neg hne, hletter,
      Option.bind_some]
  · intro c hnone hprintable
    obtain ⟨hquote, hbackslash⟩ := ne_of_shortEscape?_eq_none hnone
    rw [List.singleton_append, unquoteFrom?, if_neg hquote, if_neg hbackslash]
  · exact fun c => unquoteFrom?_codePoint c rest

/-- **Quoted text reads back**, whatever follows it. -/
theorem unquote?_quote (text rest : List Char) :
    unquote? (quote text ++ rest) = some (text, rest) := by
  rw [quote, List.cons_append, List.append_assoc, List.singleton_append, unquote?]
  induction text with
  | nil => rfl
  | cons c text ih =>
      rw [List.flatMap_cons, List.append_assoc, unquoteFrom?_escape, ih]
      rfl

example : unquote? (quote ['\\', 'u', '\x7b', '\u0301', '"'] ++ ['"']) =
    some (['\\', 'u', '\x7b', '\u0301', '"'], ['"']) := by
  decide +kernel

/-! ## One line -/

/-- The tables begin behind the control characters. -/
theorem isPrintable_of_ascii (h : 0x20 ≤ c.toNat) (h' : c.toNat < 0x7F) : isPrintable c = true := by
  have hranges : ∀ ranges : List (Nat × Nat), (ranges.all fun range => decide (0x7F ≤ range.1)) →
      inRanges ranges c.toNat = false := by
    intro ranges hall
    rw [inRanges, List.any_eq_false]
    intro range hrange
    have hfirst := List.all_eq_true.mp hall range hrange
    simp only [decide_eq_true_eq] at hfirst
    simp only [Bool.and_eq_true, decide_eq_true_eq, not_and]
    omega
  have hcontrol : isControl c = false := by
    simp only [isControl, Bool.or_eq_false_iff, Bool.and_eq_false_iff, decide_eq_false_iff_not]
    omega
  rw [isPrintable, hcontrol, hranges hidden (by decide +kernel),
    hranges extending (by decide +kernel)]
  rfl

theorem isPrintable_of_mem_codePoint (c : Char) : ∀ x ∈ codePoint c, isPrintable x = true := by
  have hdigits : ∀ d < 16, 0x20 ≤ (Nat.digitChar d).toNat ∧ (Nat.digitChar d).toNat < 0x7F := by
    decide
  intro x hx
  simp only [codePoint, List.mem_append, List.mem_cons, List.not_mem_nil, or_false] at hx
  rcases hx with ((rfl | rfl | rfl) | hdigit) | rfl
  case inl.inr =>
    obtain ⟨d, hd, rfl⟩ := exists_digitChar_of_mem_toDigits _ x hdigit
    exact isPrintable_of_ascii (hdigits d hd).1 (hdigits d hd).2
  all_goals exact isPrintable_of_ascii (by decide) (by decide)

theorem isPrintable_of_mem_escape (c : Char) : ∀ x ∈ escape c, isPrintable x = true := by
  refine escape_cases (P := fun _ escaped => ∀ x ∈ escaped, isPrintable x = true) ?_ ?_ ?_ c
  · intro c letter hshort
    have hletters : ∀ x ∈ ['"', '\\', 'n', 't', 'r', '0'], 0x20 ≤ x.toNat ∧ x.toNat < 0x7F := by
      simp
    obtain ⟨-, hmem⟩ := shortEscape?_spec hshort
    intro x hx
    rcases List.mem_cons.mp hx with rfl | hx
    · exact isPrintable_of_ascii (by decide) (by decide)
    · rw [List.mem_singleton.mp hx]
      exact isPrintable_of_ascii (hletters letter hmem).1 (hletters letter hmem).2
  · intro c _ hprintable x hx
    rw [List.mem_singleton.mp hx]
    exact hprintable
  · exact isPrintable_of_mem_codePoint

/-- **Quoted text shows** in all its characters. -/
theorem isPrintable_of_mem_quote (text : List Char) : ∀ x ∈ quote text, isPrintable x = true := by
  have hquote : isPrintable '"' = true := isPrintable_of_ascii (by decide) (by decide)
  intro x hx
  simp only [quote, List.mem_cons, List.mem_append, List.mem_flatMap, List.not_mem_nil,
    or_false] at hx
  rcases hx with rfl | ⟨c, -, hmem⟩ | rfl
  · exact hquote
  · exact isPrintable_of_mem_escape c x hmem
  · exact hquote

theorem isControl_of_isPrintable (h : isPrintable c = true) : isControl c = false := by
  simp only [isPrintable, Bool.and_eq_true, Bool.not_eq_true'] at h
  exact h.1.1

/-! ## Quotes -/

/-- Is the next character escaped? A backslash escapes what is behind it, unless it is escaped
itself. -/
def escapesNext (text : List Char) : Bool :=
  text.foldl (fun escaped c => !escaped && c == '\\') false

theorem escapesNext_append (h : escapesNext text = false) (rest : List Char) :
    escapesNext (text ++ rest) = escapesNext rest := by
  rw [escapesNext, List.foldl_append]
  exact congrArg (fun escaped => rest.foldl _ escaped) h

theorem escapesNext_of_not_mem (h : '\\' ∉ text) : escapesNext text = false := by
  induction text with
  | nil => rfl
  | cons c text ih =>
      rw [List.mem_cons, not_or] at h
      have hstart : escapesNext [c] = false := by
        simpa [escapesNext] using Ne.symm h.1
      rw [← List.singleton_append, escapesNext_append hstart]
      exact ih h.2

/-- An escape is a backslash, a character that it escapes, and no more quotes or backslashes. -/
theorem escape_shape (c : Char) :
    (∃ x tail, escape c = '\\' :: x :: tail ∧ ∀ y ∈ tail, y ≠ '"' ∧ y ≠ '\\') ∨
      escape c = [c] ∧ c ≠ '"' ∧ c ≠ '\\' := by
  refine escape_cases (P := fun c escaped =>
    (∃ x tail, escaped = '\\' :: x :: tail ∧ ∀ y ∈ tail, y ≠ '"' ∧ y ≠ '\\') ∨
      escaped = [c] ∧ c ≠ '"' ∧ c ≠ '\\') ?_ ?_ ?_ c
  · exact fun _ letter _ => .inl ⟨letter, [], rfl, nofun⟩
  · exact fun c hnone _ => .inr ⟨rfl, ne_of_shortEscape?_eq_none hnone⟩
  · intro c
    refine .inl ⟨'u', '\x7b' :: (Nat.toDigits 16 c.toNat ++ ['\x7d']), by simp [codePoint], ?_⟩
    have hdigits : ∀ d < 16, Nat.digitChar d ≠ '"' ∧ Nat.digitChar d ≠ '\\' := by
      decide
    intro y hy
    rcases List.mem_cons.mp hy with rfl | hy
    · decide
    · rcases List.mem_append.mp hy with hdigit | hlast
      · obtain ⟨d, hd, rfl⟩ := exists_digitChar_of_mem_toDigits _ y hdigit
        exact hdigits d hd
      · rw [List.mem_singleton.mp hlast]
        decide

theorem escapesNext_escape (c : Char) : escapesNext (escape c) = false := by
  rcases escape_shape c with ⟨x, tail, hescape, htail⟩ | ⟨hescape, -, hbackslash⟩
  · have hstart : escapesNext ['\\', x] = false := rfl
    have htail' : '\\' ∉ tail := fun hmem => (htail _ hmem).2 rfl
    rw [hescape]
    exact (escapesNext_append hstart tail).trans (escapesNext_of_not_mem htail')
  · rw [hescape]
    exact escapesNext_of_not_mem (by simpa using Ne.symm hbackslash)

/-- A quote in an escape is what it escapes. -/
theorem escapesNext_of_quote_in_escape {front back : List Char}
    (h : escape c = front ++ '"' :: back) : escapesNext front = true := by
  rcases escape_shape c with ⟨x, tail, hescape, htail⟩ | ⟨hescape, hquote, -⟩
  · rw [hescape] at h
    match front, h with
    | [], h => cases h
    | [a], h =>
        obtain rfl := (List.cons.inj h).1
        rfl
    | a :: b :: front, h =>
        have hmem : '"' ∈ tail := by
          rw [(List.cons.inj (List.cons.inj h).2).2]
          exact List.mem_append_right _ List.mem_cons_self
        exact absurd rfl (htail _ hmem).1
  · rw [hescape] at h
    match front, h with
    | [], h => exact absurd (List.cons.inj h).1 hquote
    | a :: front, h => simp at h

/-- **No quote stands bare** between the quotes at the ends. -/
theorem escapesNext_of_quote (text : List Char) {front back : List Char}
    (h : text.flatMap escape = front ++ '"' :: back) : escapesNext front = true := by
  induction text generalizing front with
  | nil => simp at h
  | cons c text ih =>
      rw [List.flatMap_cons] at h
      -- the quote is in the first escape, or behind it
      rcases List.append_eq_append_iff.mp h with ⟨front', rfl, hrest⟩ | ⟨front', hescape, hrest⟩
      · rw [escapesNext_append (escapesNext_escape c)]
        exact ih hrest
      · cases front' with
        | nil =>
            rw [List.append_nil] at hescape
            rw [← List.append_nil front, ← hescape, escapesNext_append (escapesNext_escape c)]
            exact ih hrest.symm
        | cons x front' =>
            obtain rfl := (List.cons.inj hrest).1
            exact escapesNext_of_quote_in_escape hescape

end Text

/-! ## Messages about paths -/

namespace Solver

open Host (FileSystem)

variable {path path' : String}

theorem toList_notFound (path : String) : (RunnerError.notFound path).message.toList =
    "couldn't find the solver ".toList ++ Text.quote path.toList := by
  change ("couldn't find the solver " ++ Text.quoted path).toList = _
  rw [String.toList_append]
  exact congrArg (_ ++ ·) String.toList_ofList

theorem toList_notAFile (path : String) : (RunnerError.notAFile path).message.toList =
    Text.quote path.toList ++ " is not a file".toList := by
  change (Text.quoted path ++ " is not a file").toList = _
  rw [String.toList_append]
  exact congrArg (· ++ _) String.toList_ofList

theorem quote_append_injective {text text' rest rest' : List Char}
    (h : Text.quote text ++ rest = Text.quote text' ++ rest') : text = text' := by
  have hread := congrArg Text.unquote? h
  rw [Text.unquote?_quote, Text.unquote?_quote] at hread
  exact (Prod.mk.inj (Option.some.inj hread)).1

theorem notFound_message_iff :
    (RunnerError.notFound path).message = (RunnerError.notFound path').message ↔ path = path' := by
  constructor
  · intro h
    rw [← String.toList_inj, toList_notFound, toList_notFound] at h
    have hquote := List.append_cancel_left h
    exact String.toList_inj.mp (quote_append_injective (congrArg (· ++ []) hquote))
  · rintro rfl
    rfl

theorem notAFile_message_iff :
    (RunnerError.notAFile path).message = (RunnerError.notAFile path').message ↔ path = path' := by
  constructor
  · intro h
    rw [← String.toList_inj, toList_notAFile, toList_notAFile] at h
    exact String.toList_inj.mp (quote_append_injective h)
  · rintro rfl
    rfl

/-- Only one of the two begins with a quote. -/
theorem notFound_message_ne_notAFile (path path' : String) :
    (RunnerError.notFound path).message ≠ (RunnerError.notAFile path').message := by
  intro h
  rw [← String.toList_inj, toList_notFound, toList_notAFile] at h
  have hfirst := congrArg List.head? h
  simp [Text.quote] at hfirst

theorem isControl_of_mem_quote (text : List Char) :
    ∀ c ∈ Text.quote text, Text.isControl c = false :=
  fun c hc => Text.isControl_of_isPrintable (Text.isPrintable_of_mem_quote text c hc)

/-- What is not found is what was asked for. -/
theorem System.find_eq_error {s : System} {config : Config} {files : FileSystem} {e : RunnerError}
    (h : s.find config files = .error e) : e = .notFound config.executable := by
  unfold System.find at h
  split at h
  · cases h
  · exact (Except.error.inj h).symm

theorem System.run_notAFile (s : System) (e : Executable) {problem : String} {files : FileSystem}
    (h : files.isFile (pathOf problem) = false) :
    s.run e problem files = (.error (.runner (.notAFile problem)), files) := by
  rw [System.run, h]
  rfl

/-- **Messages about paths are unambiguous**, and stay on one line. Between the quotes around a path
no quote stands bare, nothing is a control character, and what is read there is the path. So each
message names one path only. They are the messages about an executable that is not found and about
a script that is not a file. -/
theorem path_messages_unambiguous :
    (∀ path : String, ∃ body : List Char,
      (RunnerError.notFound path).message =
        "couldn't find the solver " ++ String.ofList ('"' :: (body ++ ['"'])) ∧
      (RunnerError.notAFile path).message =
        String.ofList ('"' :: (body ++ ['"'])) ++ " is not a file" ∧
      (∀ c ∈ body, Text.isControl c = false) ∧
      (∀ front back, body = front ++ '"' :: back → Text.escapesNext front = true) ∧
      Text.unquote? ('"' :: (body ++ ['"'])) = some (path.toList, []) ∧
      Text.unquote? (RunnerError.notAFile path).message.toList =
        some (path.toList, " is not a file".toList)) ∧
    (∀ path path', (RunnerError.notFound path).message = (RunnerError.notFound path').message ↔
      path = path') ∧
    (∀ path path', (RunnerError.notAFile path).message = (RunnerError.notAFile path').message ↔
      path = path') ∧
    (∀ path path', (RunnerError.notFound path).message ≠ (RunnerError.notAFile path').message) ∧
    (∀ (s : System) config files e, s.find config files = .error e →
      e = .notFound config.executable) ∧
    ∀ (s : System) e problem files, files.isFile (pathOf problem) = false →
      s.run e problem files = (.error (.runner (.notAFile problem)), files) := by
  refine ⟨fun path => ⟨path.toList.flatMap Text.escape, rfl, rfl, ?_, ?_, ?_, ?_⟩,
    fun _ _ => notFound_message_iff, fun _ _ => notAFile_message_iff,
    notFound_message_ne_notAFile, fun _ _ _ _ => System.find_eq_error,
    fun s e _ _ => s.run_notAFile e⟩
  · intro c hc
    exact isControl_of_mem_quote path.toList c
      (List.mem_cons_of_mem _ (List.mem_append_left _ hc))
  · exact fun front back => Text.escapesNext_of_quote path.toList
  · rw [← List.append_nil ('"' :: _)]
    exact Text.unquote?_quote path.toList []
  · rw [toList_notAFile]
    exact Text.unquote?_quote path.toList _

/-- A host with nothing on it. -/
def bareHost : FileSystem where
  entries := []
  nodes := []
  traits := []
  next := 0
  working := []
  moves := []
  now := 0
  busy := []

/-- Nothing is found, written or started. -/
def idle : System where
  executable? := fun _ _ => none
  temporaries := FileSystem.temporaries
  admits := fun _ _ => false
  takes? := fun _ _ _ => none
  flushes := fun _ _ => false
  start? := fun _ _ _ _ => none

/-- Asks for an executable that is not there. -/
def seeking : Config :=
  ⟨"no/solver", none, [], none⟩

/-- Paths that look like escapes, or like parts of a message. -/
theorem path_messages_lookalikes :
    (RunnerError.notFound "a\nb").message ≠ (RunnerError.notFound "a\\nb").message ∧
    (RunnerError.notAFile "\u0301").message ≠ (RunnerError.notAFile "\\u\x7b301\x7d").message ∧
    (RunnerError.notFound "a").message ≠ (RunnerError.notAFile "couldn't find the solver").message ∧
    (∃ body, String.ofList ('"' :: (body ++ ['"'])) ++ " is not a file" =
        (RunnerError.notAFile "\"\n").message ∧
      body = ['\\', '"', '\\', 'n'] ∧ Text.isControl 'n' = false ∧
      Text.escapesNext ['\\'] = true ∧
      Text.unquote? ('"' :: (body ++ ['"'])) = some (['"', '\n'], [])) ∧
    (∃ e, idle.find seeking bareHost = .error e ∧ e = .notFound "no/solver") ∧
    idle.run ⟨"/bin/cat", seeking⟩ "q.smt2" bareHost =
      (.error (.runner (.notAFile "q.smt2")), bareHost) := by
  obtain ⟨hquoted, hfound, hfile, hkinds, hfind, hrun⟩ := path_messages_unambiguous
  refine ⟨?_, ?_, hkinds _ _, ?_, ⟨_, rfl, hfind idle seeking bareHost _ rfl⟩, hrun idle _ _ _ rfl⟩
  · rw [ne_eq, hfound]
    decide
  · rw [ne_eq, hfile]
    decide
  · obtain ⟨body, -, hmessage, hcontrol, hbare, hread, -⟩ := hquoted "\"\n"
    have hbody : body = ['\\', '"', '\\', 'n'] := by
      have hlist := congrArg String.toList hmessage
      rw [toList_notAFile, String.toList_append] at hlist
      have hquote := (List.append_cancel_right hlist).trans String.toList_ofList
      exact (List.append_cancel_right (List.cons.inj hquote).2).symm
    subst hbody
    exact ⟨_, hmessage.symm, rfl, hcontrol 'n' (by decide), hbare ['\\'] ['\\', 'n'] rfl, hread⟩

end Solver

end SmtScript
