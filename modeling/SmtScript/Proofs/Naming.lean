import SmtScript.Proofs.Handover
import SmtScript.Solver.Call

/-!
# Names of runners

The last part of a path is found behind directories and before what says nothing: slashes and dots
that stand alone. A runner is named for it, up to its last dot, so its name is never empty and
never has a slash in it. A temporary file that is named for the runner lies in the directory
where it was to be, whatever path the runner was made from.
-/

namespace SmtScript

namespace Path

/-! ## The last part of a path -/

/-- A part that stands for a file or a directory by its name. -/
def IsName (part : List Char) : Prop :=
  part ≠ [] ∧ part ≠ ['.'] ∧ part ≠ ['.', '.'] ∧ '/' ∉ part

instance (part : List Char) : Decidable (IsName part) :=
  inferInstanceAs (Decidable (_ ∧ _))

/-- The path leads through directories to the name. Behind it are only slashes and dots that stand
alone. -/
def EndsIn (path name : List Char) : Prop :=
  IsName name ∧ ∃ dirs silent : List (List Char),
    path = dirs.flatMap (· ++ ['/']) ++ (name ++ silent.flatMap ('/' :: ·)) ∧
    ∀ part ∈ silent, part = [] ∨ part = ['.']

variable {path name part : List Char} {dirs silent : List (List Char)}

theorem split_eq_splitOn (path : List Char) : split path = path.splitOn '/' := by
  induction path with
  | nil => rfl
  | cons c rest ih =>
      rw [split, List.splitOn_cons_eq_if_modifyHead, ih]
      obtain ⟨first, others, hsplit⟩ := List.exists_cons_of_ne_nil (List.splitOn_ne_nil '/' rest)
      rw [hsplit]
      by_cases hc : c = '/'
      · rw [if_pos hc, if_pos (beq_iff_eq.mpr hc)]
      · rw [if_neg hc, if_neg (by simpa using hc), List.modifyHead_cons]

theorem intercalate_cons (name : List Char) (silent : List (List Char)) :
    ['/'].intercalate (name :: silent) = name ++ silent.flatMap ('/' :: ·) := by
  induction silent generalizing name with
  | nil => simp
  | cons part silent ih =>
      rw [List.intercalate_cons_cons, ih]
      simp

theorem intercalate_append_cons (dirs : List (List Char)) (name : List Char)
    (silent : List (List Char)) : ['/'].intercalate (dirs ++ name :: silent) =
      dirs.flatMap (· ++ ['/']) ++ (name ++ silent.flatMap ('/' :: ·)) := by
  induction dirs with
  | nil => exact intercalate_cons name silent
  | cons dir dirs ih =>
      have hrest : dirs ++ name :: silent ≠ [] :=
        List.append_ne_nil_of_right_ne_nil dirs (List.cons_ne_nil name silent)
      rw [List.cons_append, List.intercalate_cons_of_ne_nil hrest, ih, List.flatMap_cons,
        List.append_assoc (dir ++ ['/'])]

theorem slash_not_mem_of_mem_split : ∀ part ∈ split path, '/' ∉ part := by
  induction path with
  | nil => simp [split]
  | cons c rest ih =>
      rw [split]
      split_ifs with hc
      · simpa using ih
      · obtain ⟨first, others, hsplit⟩ : ∃ first others, split rest = first :: others := by
          rw [split_eq_splitOn]
          exact List.exists_cons_of_ne_nil (List.splitOn_ne_nil '/' rest)
        rw [hsplit] at ih ⊢
        rw [List.forall_mem_cons] at ih
        simpa [Ne.symm hc] using ih

theorem split_flatMap_slash (dirs : List (List Char)) (rest : List Char) :
    ∃ parts, split (dirs.flatMap (· ++ ['/']) ++ rest) = parts ++ split rest := by
  simp only [split_eq_splitOn]
  induction dirs with
  | nil => exact ⟨[], rfl⟩
  | cons dir dirs ih =>
      obtain ⟨parts, hparts⟩ := ih
      refine ⟨dir.splitOn '/' ++ parts, ?_⟩
      rw [List.flatMap_cons, List.append_assoc, List.append_assoc, List.singleton_append,
        List.splitOn_append_cons_self, hparts, List.append_assoc]

theorem split_silent (hname : '/' ∉ name) (hsilent : ∀ part ∈ silent, '/' ∉ part) :
    split (name ++ silent.flatMap ('/' :: ·)) = name :: silent := by
  rw [← intercalate_cons, split_eq_splitOn]
  refine List.splitOn_intercalate '/' ?_ (List.cons_ne_nil name silent)
  simpa using ⟨hname, hsilent⟩

/-- Behind the last part that says something are parts that say nothing. -/
theorem getLast?_parts_eq_some_iff : (parts path).getLast? = some part ↔
    (part ≠ [] ∧ part ≠ ['.']) ∧ ∃ dirs silent, split path = dirs ++ part :: silent ∧
      ∀ other ∈ silent, other = [] ∨ other = ['.'] := by
  rw [List.getLast?_eq_some_iff, parts]
  constructor
  · rintro ⟨before, hbefore⟩
    obtain ⟨front, back, hsplit, -, hback⟩ := List.filter_eq_append_iff.mp hbefore
    obtain ⟨skipped, silent, rfl, -, hpart, hsilent⟩ := List.filter_eq_cons_iff.mp hback
    refine ⟨by simpa using hpart, front ++ skipped, silent, ?_, fun other hother => ?_⟩
    · rw [hsplit, List.append_assoc]
    · simpa [Classical.or_iff_not_imp_left] using List.filter_eq_nil_iff.mp hsilent other hother
  · rintro ⟨hpart, dirs, silent, hsplit, hsilent⟩
    refine ⟨dirs.filter fun part => part ≠ [] && part ≠ ['.'], ?_⟩
    have hnone : (silent.filter fun part => part ≠ [] && part ≠ ['.']) = [] := by
      rw [List.filter_eq_nil_iff]
      intro other hother
      rcases hsilent other hother with rfl | rfl <;> decide
    rw [hsplit, List.filter_append, List.filter_cons_of_pos (by simpa using hpart), hnone]

theorem fileName?_eq_some_iff_getLast? :
    fileName? path = some name ↔ (parts path).getLast? = some name ∧ name ≠ ['.', '.'] := by
  unfold fileName?
  split
  · rename_i hlast
    rw [hlast]
    simp [eq_comm]
  · rename_i hlast
    constructor
    · intro h
      exact ⟨h, fun hdots => hlast (by rw [h, hdots])⟩
    · exact And.left

/-- **The file name is what a path ends in.** -/
theorem fileName?_eq_some_iff : fileName? path = some name ↔ EndsIn path name := by
  rw [fileName?_eq_some_iff_getLast?, getLast?_parts_eq_some_iff]
  constructor
  · rintro ⟨⟨⟨hnil, hdot⟩, dirs, silent, hsplit, hsilent⟩, hdots⟩
    have hmem : name ∈ split path := by
      rw [hsplit]
      exact List.mem_append_right _ List.mem_cons_self
    refine ⟨⟨hnil, hdot, hdots, slash_not_mem_of_mem_split name hmem⟩, dirs, silent, ?_, hsilent⟩
    rw [← intercalate_append_cons, ← hsplit, split_eq_splitOn, List.intercalate_splitOn]
  · rintro ⟨⟨hnil, hdot, hdots, hslash⟩, dirs, silent, rfl, hsilent⟩
    have hsilent' : ∀ part ∈ silent, '/' ∉ part := by
      intro part hpart
      rcases hsilent part hpart with rfl | rfl <;> decide
    obtain ⟨before, hbefore⟩ := split_flatMap_slash dirs (name ++ silent.flatMap ('/' :: ·))
    refine ⟨⟨⟨hnil, hdot⟩, before, silent, ?_, hsilent⟩, hdots⟩
    rw [hbefore, split_silent hslash hsilent']

example : fileName? "/usr//bin/z3.12/./".toList = some "z3.12".toList ∧
    fileName? "/usr/..".toList = none := by
  decide

/-! ## Stems -/

variable {before after : List Char}

theorem beforeDot?_of_not_mem (h : '.' ∉ name) : beforeDot? name = none := by
  have hdrop : name.reverse.dropWhile (· ≠ '.') = [] := by
    rw [List.dropWhile_eq_nil_iff]
    intro c hc
    simpa using fun hdot : c = '.' => h (hdot ▸ List.mem_reverse.mp hc)
  rw [beforeDot?, hdrop]

theorem beforeDot?_of_last (before : List Char) (h : '.' ∉ after) :
    beforeDot? (before ++ '.' :: after) = some before := by
  have hdrop : (before ++ '.' :: after).reverse.dropWhile (· ≠ '.') = '.' :: before.reverse := by
    rw [List.reverse_append, List.reverse_cons, List.append_assoc, List.singleton_append,
      List.dropWhile_append_of_pos, List.dropWhile_cons_of_neg (by decide)]
    intro c hc
    simpa using fun hdot : c = '.' => h (hdot ▸ List.mem_reverse.mp hc)
  rw [beforeDot?, hdrop]
  exact congrArg some (List.reverse_reverse before)

/-- A dot at the front is no end of a stem. -/
theorem stem_of_not_mem (h : '.' ∉ name.tail) : stem name = name := by
  by_cases hdot : '.' ∈ name
  · cases name with
    | nil => cases hdot
    | cons c rest =>
        have hrest : '.' ∉ rest := h
        obtain rfl : '.' = c := (List.mem_cons.mp hdot).resolve_right hrest
        have hbefore : beforeDot? ('.' :: rest) = some [] := beforeDot?_of_last [] hrest
        rw [stem, hbefore]
  · rw [stem, beforeDot?_of_not_mem hdot]

theorem stem_of_last (hbefore : before ≠ []) (h : '.' ∉ after) :
    stem (before ++ '.' :: after) = before := by
  obtain ⟨c, rest, rfl⟩ := List.exists_cons_of_ne_nil hbefore
  rw [stem, beforeDot?_of_last _ h]

/-- A name has no dot behind its first character, or there is a last one. -/
theorem exists_last_dot (name : List Char) : '.' ∉ name.tail ∨
    ∃ before after, name = before ++ '.' :: after ∧ before ≠ [] ∧ '.' ∉ after := by
  cases name with
  | nil => exact .inl nofun
  | cons c rest =>
      by_cases h : '.' ∈ rest
      · obtain ⟨after, before, hreverse, hafter⟩ :=
          List.eq_append_cons_of_mem (List.mem_reverse.mpr h)
        have hrest : rest = before.reverse ++ '.' :: after.reverse := by
          rw [← List.reverse_reverse rest, hreverse]
          simp
        refine .inr ⟨c :: before.reverse, after.reverse, ?_, List.cons_ne_nil _ _, ?_⟩
        · rw [hrest, List.cons_append]
        · rwa [List.mem_reverse]
      · exact .inl h

/-- The stem of a name is not empty, and it is the front of the name. -/
theorem stem_ne_nil (hname : name ≠ []) : stem name ≠ [] := by
  rcases exists_last_dot name with h | ⟨before, after, rfl, hbefore, hafter⟩
  · rwa [stem_of_not_mem h]
  · rwa [stem_of_last hbefore hafter]

theorem stem_isPrefix (name : List Char) : stem name <+: name := by
  rcases exists_last_dot name with h | ⟨before, after, rfl, hbefore, hafter⟩
  · rw [stem_of_not_mem h]
  · rw [stem_of_last hbefore hafter]
    exact List.prefix_append before _

/-! ## Files in a directory -/

/-- What is named in a directory is the last part of its path. -/
theorem parts_under (dir : List Char) (hname : name ≠ [] ∧ name ≠ ['.']) (hslash : '/' ∉ name) :
    parts (dir ++ '/' :: name) = parts dir ++ [name] := by
  rw [parts, split_eq_splitOn, List.splitOn_append_cons_self, List.splitOn_eq_singleton hslash,
    List.filter_append, ← split_eq_splitOn, List.filter_cons_of_pos (by simpa using hname)]
  rfl

end Path

namespace Solver

open Host (FileSystem IsTag)

/-- The file that a runner without an output file is asked about is a temporary file. -/
theorem System.created_of_problem {s : System} {r : Runner} {script problem : String}
    {files : FileSystem} (houtput : r.outputFile? = none)
    (h : (s.runScript r script files).problem? = some problem) :
    ∃ target opened, s.create? r files = some (problem, target, opened) := by
  rcases hcreate : s.create? r files with _ | ⟨path, target, opened⟩
  · rw [runScript_temporary houtput, runTemporary, hcreate] at h
    cases h
  cases hfill : s.fill target script opened with
  | error left =>
      rw [runScript_unfilled houtput hcreate hfill] at h
      cases h
  | ok written =>
      rw [runScript_filled houtput hcreate hfill] at h
      have hasked : some path = some problem := h
      exact ⟨target, opened, by rw [Option.some.inj hasked]⟩

theorem System.path_of_problem {s : System} (hlaws : s.temporaries.Laws) {r : Runner}
    {script problem : String} {files : FileSystem} (houtput : r.outputFile? = none)
    (h : (s.runScript r script files).problem? = some problem) :
    ∃ tag, IsTag tag ∧ problem.toList =
      s.temporaries.directory ++ '/' :: (r.temporaryStem ++ tag ++ r.suffix.toList) := by
  obtain ⟨target, opened, hcreate⟩ := created_of_problem houtput h
  obtain ⟨path, hpath, rfl, -⟩ := create?_eq_some hcreate
  rw [String.toList_ofList]
  exact hlaws.named hpath

namespace Executable

variable {e : Executable} {name : List Char}

theorem name_of_endsIn (h : Path.EndsIn e.location.toList name) :
    e.name = String.ofList (Path.stem name) := by
  rw [Executable.name, Path.fileName?_eq_some_iff.mpr h]

theorem name_of_not_endsIn (h : ∀ name, ¬ Path.EndsIn e.location.toList name) :
    e.name = "solver" := by
  have hnone : Path.fileName? e.location.toList = none :=
    Option.eq_none_iff_forall_ne_some.mpr fun name hname =>
      h name (Path.fileName?_eq_some_iff.mp hname)
  rw [Executable.name, hnone]

/-- A runner is named for its file, or has the name of any solver. -/
theorem name_cases (e : Executable) : e.name = "solver" ∨
    ∃ name, Path.IsName name ∧ e.name = String.ofList (Path.stem name) := by
  by_cases h : ∃ name, Path.EndsIn e.location.toList name
  · obtain ⟨name, hname⟩ := h
    exact .inr ⟨name, hname.1, name_of_endsIn hname⟩
  · exact .inl (name_of_not_endsIn (not_exists.mp h))

theorem name_ne_empty (e : Executable) : e.name ≠ "" := by
  rcases e.name_cases with h | ⟨name, ⟨hname, -⟩, h⟩
  · rw [h]
    decide
  · rw [h, ne_eq, String.ofList_eq_empty_iff]
    exact Path.stem_ne_nil hname

theorem slash_not_mem_name (e : Executable) : '/' ∉ e.name.toList := by
  rcases e.name_cases with h | ⟨name, ⟨-, -, -, hslash⟩, h⟩
  · rw [h]
    decide
  · rw [h, String.toList_ofList]
    exact fun hmem => hslash ((Path.stem_isPrefix name).subset hmem)

/-- What a temporary file's name is made of is one part of a path. -/
theorem parts_stem (e : Executable) (dir : List Char) {rest : List Char} (hrest : '/' ∉ rest) :
    Path.parts (dir ++ '/' :: ("smtlib-".toList ++ e.name.toList ++ ['-'] ++ rest)) =
      Path.parts dir ++ ["smtlib-".toList ++ e.name.toList ++ ['-'] ++ rest] := by
  have hfront : "smtlib-".toList = 's' :: "mtlib-".toList := by simp
  refine Path.parts_under dir ?_ ?_
  · simp [hfront]
  · have hslash := e.slash_not_mem_name
    simp [hslash, hrest]

/-- The script that a runner without an output file is asked about is in the directory for temporary
files. -/
theorem parts_problem {s : System} (hlaws : s.temporaries.Laws) {e : Executable}
    {script problem : String} {files : FileSystem} (houtput : e.config.outputFile? = none)
    (h : (s.runScript (s.runner e) script files).problem? = some problem) :
    ∃ tag, IsTag tag ∧ Path.parts problem.toList = Path.parts s.temporaries.directory ++
      ["smtlib-".toList ++ e.name.toList ++ ['-'] ++ (tag ++ standardSuffix.toList)] := by
  obtain ⟨tag, htag, hpath⟩ := System.path_of_problem hlaws houtput h
  refine ⟨tag, htag, ?_⟩
  have hrest : '/' ∉ tag ++ standardSuffix.toList := by
    rw [List.mem_append, not_or]
    exact ⟨fun hslash => absurd (htag.2 '/' hslash) (by decide), by decide⟩
  rw [hpath, ← e.parts_stem _ hrest, List.append_assoc _ tag]
  rfl

/-- **A runner's name can be part of a file name.** It is not empty and has no slash in it. It is
the name that the location ends in, up to its last dot, unless that is its first character, and it
is that of any solver if the location ends in no name. So what is named for a runner in a directory
lies in that directory, and so does the temporary file of a script. -/
theorem name_usable (e : Executable) :
    e.name ≠ "" ∧ '/' ∉ e.name.toList ∧
    ((∀ name, ¬ Path.EndsIn e.location.toList name) → e.name = "solver") ∧
    (∀ name, Path.EndsIn e.location.toList name → '.' ∉ name.tail → e.name = String.ofList name) ∧
    (∀ before after, Path.EndsIn e.location.toList (before ++ '.' :: after) → before ≠ [] →
      '.' ∉ after → e.name = String.ofList before) ∧
    (∀ dir rest, '/' ∉ rest →
      Path.parts (dir ++ '/' :: ("smtlib-".toList ++ e.name.toList ++ ['-'] ++ rest)) =
        Path.parts dir ++ ["smtlib-".toList ++ e.name.toList ++ ['-'] ++ rest]) ∧
    ∀ (s : System) script files problem, s.temporaries.Laws → e.config.outputFile? = none →
      (s.runScript (s.runner e) script files).problem? = some problem →
      ∃ tag, IsTag tag ∧ Path.parts problem.toList = Path.parts s.temporaries.directory ++
        ["smtlib-".toList ++ e.name.toList ++ ['-'] ++ (tag ++ standardSuffix.toList)] := by
  refine ⟨e.name_ne_empty, e.slash_not_mem_name, name_of_not_endsIn, fun name hname hdot => ?_,
    fun before after hname hbefore hafter => ?_, fun dir rest => e.parts_stem dir,
    fun _ _ _ _ hlaws => parts_problem hlaws⟩
  · rw [name_of_endsIn hname, Path.stem_of_not_mem hdot]
  · rw [name_of_endsIn hname, Path.stem_of_last hbefore hafter]

/-- An executable at a location, with nothing configured. -/
def located (location : String) : Executable :=
  ⟨location, .standard⟩

theorem name_usable_oddities :
    (located "/usr//z3.12/./").name = "z3" ∧ (located "bin/.solver").name = ".solver" ∧
    (located "...").name = ".." ∧ (located "/usr/..").name = "solver" ∧
    Path.parts "/tmp/smtlib-..-x".toList = ["tmp".toList, "smtlib-..-x".toList] ∧
    ∃ problem tag,
      (Runner.bench.runScript (Runner.bench.runner (located "z3")) "(exit)\n"
        Runner.workshop).problem? = some problem ∧
      IsTag tag ∧
      Path.parts problem.toList =
        ["tmp".toList, "smtlib-z3-".toList ++ (tag ++ ".smt2".toList)] := by
  refine ⟨?_, ?_, ?_, ?_, ?_, ?_⟩
  · obtain ⟨-, -, -, -, hcut, -⟩ := (located "/usr//z3.12/./").name_usable
    refine hcut ['z', '3'] ['1', '2'] ⟨by decide, ["".toList, "usr".toList, []], [['.'], []], ?_⟩
      (by decide) (by decide)
    decide
  · obtain ⟨-, -, -, hwhole, -⟩ := (located "bin/.solver").name_usable
    refine hwhole ".solver".toList ⟨by decide, ["bin".toList], [], ?_⟩ (by decide)
    decide
  · obtain ⟨-, -, -, -, hcut, -⟩ := (located "...").name_usable
    refine hcut ['.', '.'] [] ⟨by decide, [], [], ?_⟩ (by decide) (by decide)
    decide
  · obtain ⟨-, -, hfallback, -⟩ := (located "/usr/..").name_usable
    refine hfallback fun name hname => ?_
    have hnone : Path.fileName? (located "/usr/..").location.toList = none := by decide
    cases hnone.symm.trans (Path.fileName?_eq_some_iff.mpr hname)
  · obtain ⟨-, -, -, -, -, hparts, -⟩ := (located "...").name_usable
    exact hparts "/tmp".toList ['x'] (by decide)
  · obtain ⟨-, -, -, -, -, -, htemporary⟩ := (located "z3").name_usable
    have hasked : (Runner.bench.runScript (Runner.bench.runner (located "z3")) "(exit)\n"
        Runner.workshop).problem? = some "/tmp/smtlib-z3-000000.smt2" := by
      decide +kernel
    obtain ⟨tag, htag, hparts⟩ :=
      htemporary Runner.bench _ _ _ FileSystem.temporaries_laws rfl hasked
    exact ⟨_, tag, hasked, htag, hparts⟩

end Executable

end Solver

end SmtScript
