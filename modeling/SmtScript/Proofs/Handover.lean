import SmtScript.Proofs.Saving

/-!
# A script is handed over whole

Whatever the runner does with its file, it is asked at most once. It is asked only after all of the
script was written, and the file then holds just the script. A temporary file is new, and it is
gone after the answer, and also if something failed.
-/

namespace SmtScript.Solver

open Host (FileSystem IsTag Raw)
open Host.FileSystem (Target)

namespace System

/-- The runner is not asked, and the answer is that a file could not be made or written. -/
def Refuses (s : System) (r : Runner) (script : String) (files left : FileSystem) : Prop :=
  ∀ run, s.runScript { r with run := run } script files = ⟨none, .error .io, left⟩

/-- The runner is asked about one problem, with these files before. What it answers is the answer,
and what it leaves is all that is left, apart from what is done afterwards. -/
def Asks (s : System) (r : Runner) (script : String) (files : FileSystem) (problem : String)
    (before : FileSystem) (after : FileSystem → FileSystem) : Prop :=
  ∀ run, s.runScript { r with run := run } script files =
    ⟨some problem, (run problem before).1, after (run problem before).2⟩

/-- The file that all of the script was written to, and the files then, unless something failed on
the way. -/
def written? (s : System) (r : Runner) (script : String) (files : FileSystem) :
    Option (String × FileSystem) :=
  match r.outputFile? with
  | some path => (s.save path script files).toOption.map (path, ·)
  | none => do
      let (problem, target, opened) ← s.create? r files
      let written ← (s.fill target script opened).toOption
      return (problem, written)

variable {s : System} {r : Runner} {path script problem : String} {target : Target}
  {files opened written left : FileSystem}

/-! ## A file that stays -/

theorem refuses_in_place (houtput : r.outputFile? = some path)
    (h : s.save path script files = .error left) : s.Refuses r script files left := by
  intro run
  simp only [runScript, houtput, runInPlace, h, Runner.refused]

theorem asks_in_place (houtput : r.outputFile? = some path)
    (h : s.save path script files = .ok written) :
    s.Asks r script files path (written.holding (pathOf path)) (·.withBusy written.busy) := by
  intro run
  simp only [runScript, houtput, runInPlace, h]
  rfl

theorem holds_in_place (h : s.save path script files = .ok written)
    (hdevice : ∀ device, written.entry? (pathOf path) ≠ some (.device device)) :
    written.read? (pathOf path) = some (Utf8.ofString script) := by
  obtain ⟨made, target, opened, hopen, hwrote⟩ := wrote_of_save h
  exact hwrote.read? (FileSystem.opens_of_open? (open?_eq_some hopen)) hdevice

/-! ## A temporary file -/

theorem runScript_temporary (houtput : r.outputFile? = none) :
    s.runScript r script files = s.runTemporary r script files := by
  rw [runScript, houtput]

theorem runScript_unfilled (houtput : r.outputFile? = none)
    (hcreate : s.create? r files = some (problem, target, opened))
    (hfill : s.fill target script opened = .error left) :
    s.runScript r script files = Runner.refused (left.erase (pathOf problem)) := by
  rw [runScript_temporary houtput, runTemporary, hcreate]
  simp only [hfill]
  rfl

theorem runScript_filled (houtput : r.outputFile? = none)
    (hcreate : s.create? r files = some (problem, target, opened))
    (hfill : s.fill target script opened = .ok written) :
    s.runScript r script files = { r.askWhileOpen problem written with
      files := (r.askWhileOpen problem written).files.erase (pathOf problem) } := by
  rw [runScript_temporary houtput, runTemporary, hcreate]
  simp only [hfill]

theorem refuses_uncreated (houtput : r.outputFile? = none) (h : s.create? r files = none) :
    s.Refuses r script files files := by
  intro run
  have hother : s.create? { r with run := run } files = none := h
  rw [runScript_temporary (r := { r with run := run }) houtput, runTemporary, hother]
  rfl

theorem refuses_unfilled (houtput : r.outputFile? = none)
    (hcreate : s.create? r files = some (problem, target, opened))
    (hfill : s.fill target script opened = .error left) :
    s.Refuses r script files (left.erase (pathOf problem)) :=
  fun run => runScript_unfilled (r := { r with run := run }) houtput hcreate hfill

theorem asks_temporary (houtput : r.outputFile? = none)
    (hcreate : s.create? r files = some (problem, target, opened))
    (hfill : s.fill target script opened = .ok written) :
    s.Asks r script files problem (written.holding (pathOf problem))
      fun left => (left.withBusy written.busy).erase (pathOf problem) :=
  fun run => runScript_filled (r := { r with run := run }) houtput hcreate hfill

/-- A temporary file is new, and is named for the runner. -/
theorem named_of_create? (hlaws : s.temporaries.Laws)
    (h : s.create? r files = some (problem, target, opened)) :
    (∃ tag, IsTag tag ∧ problem = String.ofList s.temporaries.directory ++ "/smtlib-" ++ r.name ++
      "-" ++ String.ofList tag ++ r.suffix) ∧ files.entryItself? (pathOf problem) = none := by
  obtain ⟨path, hpath, rfl, -⟩ := create?_eq_some h
  obtain ⟨tag, htag, hname⟩ := hlaws.named hpath
  refine ⟨⟨tag, htag, ?_⟩, ?_⟩
  · have hfront : "/smtlib-".toList = '/' :: "smtlib-".toList := by simp
    have hdash : "-".toList = ['-'] := by simp
    have hstem : r.temporaryStem = "smtlib-".toList ++ r.name.toList ++ ['-'] := rfl
    rw [← String.toList_inj, String.toList_ofList, hname]
    simp only [String.toList_append, String.toList_ofList, hfront, hdash, hstem,
      List.append_assoc, List.cons_append]
  · rw [pathOf, String.toList_ofList]
    exact hlaws.missing hpath

/-- Nothing was there, so it is no device that was opened. -/
theorem file_of_create? (hlaws : s.temporaries.Laws)
    (h : s.create? r files = some (problem, target, opened)) : ∃ number, target = .file number := by
  obtain ⟨-, hmissing⟩ := named_of_create? hlaws h
  obtain ⟨-, -, -, hopen⟩ := create?_eq_some h
  obtain ⟨-, -, -, rfl, -⟩ :=
    FileSystem.open?_of_missing (open?_eq_some hopen) (FileSystem.entry_of_itself hmissing)
  exact ⟨files.next, rfl⟩

/-- A temporary file that was filled is a file that holds the script. -/
theorem holds_temporary (hlaws : s.temporaries.Laws)
    (hcreate : s.create? r files = some (problem, target, opened))
    (hfill : s.fill target script opened = .ok written) :
    written.isFile (pathOf problem) = true ∧
      written.read? (pathOf problem) = some (Utf8.ofString script) := by
  obtain ⟨number, rfl⟩ := file_of_create? hlaws hcreate
  obtain ⟨-, -, -, hopen⟩ := create?_eq_some hcreate
  have hopens := FileSystem.opens_of_open? (open?_eq_some hopen)
  have hwrote := wrote_of_fill hfill
  have hentry := hwrote.entry_file hopens
  refine ⟨by rw [FileSystem.isFile, hentry], hwrote.read? hopens fun device hdevice => ?_⟩
  cases hentry.symm.trans hdevice

/-- Nothing is left of a temporary file that could not be filled. -/
theorem gone_unfilled (hlaws : s.temporaries.Laws)
    (hcreate : s.create? r files = some (problem, target, opened))
    (hfill : s.fill target script opened = .error left) :
    (left.erase (pathOf problem)).entryItself? (pathOf problem) = none := by
  obtain ⟨-, hmissing⟩ := named_of_create? hlaws hcreate
  obtain ⟨-, -, -, hopen⟩ := create?_eq_some hcreate
  obtain ⟨done, -, hwrote⟩ := wrote_of_fill_error hfill
  apply FileSystem.entryItself?_erase
  rw [hwrote.sameTree.entryItself]
  exact FileSystem.entryItself?_open? (open?_eq_some hopen) hmissing

/-! ## Either file -/

theorem written?_in_place (houtput : r.outputFile? = some path) :
    s.written? r script files = some (problem, written) ↔
      problem = path ∧ s.save path script files = .ok written := by
  simp only [written?, houtput]
  cases s.save path script files <;> simp [Except.toOption, eq_comm]

theorem written?_temporary (houtput : r.outputFile? = none) :
    s.written? r script files = some (problem, written) ↔ ∃ target opened,
      s.create? r files = some (problem, target, opened) ∧
        s.fill target script opened = .ok written := by
  simp only [written?, houtput]
  rcases s.create? r files with _ | ⟨path, target, opened⟩
  · simp
  · cases hfill : s.fill target script opened <;> simp [Except.toOption, hfill]

theorem refuses_of_written? (hlaws : s.temporaries.Laws)
    (h : s.written? r script files = none) : ∃ left, s.Refuses r script files left ∧
      (r.outputFile? = none → ∀ path,
        s.temporaries.freshPath? files r.temporaryStem r.suffix.toList = some path →
        left.entryItself? (Raw.ofText path) = none) := by
  cases houtput : r.outputFile? with
  | some path =>
      cases hsave : s.save path script files with
      | error left => exact ⟨left, refuses_in_place houtput hsave, nofun⟩
      | ok written => cases h.symm.trans ((written?_in_place houtput).mpr ⟨rfl, hsave⟩)
  | none =>
      rcases hcreate : s.create? r files with _ | ⟨problem, target, opened⟩
      · exact ⟨files, refuses_uncreated houtput hcreate, fun _ path => hlaws.missing⟩
      cases hfill : s.fill target script opened with
      | ok written =>
          cases h.symm.trans ((written?_temporary houtput).mpr ⟨target, opened, hcreate, hfill⟩)
      | error left =>
          refine ⟨_, refuses_unfilled houtput hcreate hfill, fun _ path hpath => ?_⟩
          have hgone := gone_unfilled hlaws hcreate hfill
          obtain ⟨other, hother, rfl, -⟩ := create?_eq_some hcreate
          cases hpath.symm.trans hother
          have hpathOf : pathOf (String.ofList path) = Raw.ofText path := by
            rw [pathOf, String.toList_ofList]
          rwa [hpathOf] at hgone ⊢

end System

namespace Runner

open Solver.System

/-- **A script is handed over whole.** If a directory or the file cannot be made, or not all of the
script be written, the runner is not asked. Otherwise it is asked once, and its answer is the
answer. The file then holds exactly the bytes of the script, unless it is a device. A file that the
runner names is left as it is. Otherwise the file is new, and nothing is left at its path, unless
that is a directory by then. A stack without a text touches no file. -/
theorem handed_over_whole (s : System) (hlaws : s.temporaries.Laws) (r : Runner) (script : String)
    (files : FileSystem) :
    (s.written? r script files = none → ∃ left, s.Refuses r script files left ∧
      (r.outputFile? = none → ∀ path,
        s.temporaries.freshPath? files r.temporaryStem r.suffix.toList = some path →
        left.entryItself? (Raw.ofText path) = none)) ∧
    (∀ problem written, s.written? r script files = some (problem, written) →
      ∃ before after, s.Asks r script files problem before after ∧
        ((∀ device, written.entry? (pathOf problem) ≠ some (.device device)) →
          before.read? (pathOf problem) = some (Utf8.ofString script)) ∧
        (∀ path, r.outputFile? = some path →
          problem = path ∧ ∃ busy, ∀ left, after left = left.withBusy busy) ∧
        (r.outputFile? = none →
          (∃ tag, IsTag tag ∧ problem = String.ofList s.temporaries.directory ++ "/smtlib-" ++
            r.name ++ "-" ++ String.ofList tag ++ r.suffix) ∧
          files.entryItself? (pathOf problem) = none ∧
          before.read? (pathOf problem) = some (Utf8.ofString script) ∧
          ∀ left, left.entryItself? (pathOf problem) ≠ some .directory →
            (after left).entryItself? (pathOf problem) = none)) ∧
    ∀ stack g halt, stack.serialize g = .error halt →
      s.runStack r stack g files = ⟨none, .error (.halt halt), files⟩ := by
  refine ⟨refuses_of_written? hlaws, fun problem written hwritten => ?_,
    fun stack g halt hhalt => ?_⟩
  · -- the file stays open while the runner is asked, which changes nothing that it reads
    cases houtput : r.outputFile? with
    | some path =>
        obtain ⟨rfl, hsave⟩ := (written?_in_place houtput).mp hwritten
        refine ⟨_, _, asks_in_place houtput hsave, fun hdevice => ?_, fun own hown => ?_, nofun⟩
        · rw [FileSystem.read?_holding]
          exact holds_in_place hsave hdevice
        · exact ⟨Option.some.inj hown, written.busy, fun _ => rfl⟩
    | none =>
        obtain ⟨target, opened, hcreate, hfill⟩ := (written?_temporary houtput).mp hwritten
        obtain ⟨hname, hmissing⟩ := named_of_create? hlaws hcreate
        obtain ⟨-, hread⟩ := holds_temporary hlaws hcreate hfill
        rw [← FileSystem.read?_holding] at hread
        refine ⟨_, _, asks_temporary houtput hcreate hfill, fun _ => hread, nofun, fun _ => ?_⟩
        refine ⟨hname, hmissing, hread, fun left hleft => ?_⟩
        apply FileSystem.entryItself?_erase
        rwa [(FileSystem.sameTree_withBusy left written.busy).entryItself]
  · rw [runStack, hhalt]

/-- A host with a directory for temporary files, a device that keeps nothing, and a script of an
earlier run in the working directory. -/
def workshop : FileSystem where
  entries := [(["tmp".toList], .directory), (["dev".toList], .directory),
    (["dev".toList, "null".toList], .device .null), (["work".toList], .directory),
    (["work".toList, "old.smt2".toList], .file 0)]
  nodes := [(0, ⟨⟨(Utf8.ofString "(check-sat)\n(exit)\n").toArray⟩, FileSystem.standardMode, 0⟩)]
  traits := []
  next := 1
  working := ["work".toList]
  moves := []
  now := 0
  busy := []

/-- Files take four bytes at a time, and nothing can be started. -/
def bench : System where
  executable? := fun _ _ => none
  temporaries := FileSystem.temporaries
  admits := fun _ _ => true
  takes? := fun _ _ bytes => some (min 4 bytes.length)
  flushes := fun _ _ => true
  start? := fun _ _ _ _ => none

theorem bench_reliable : bench.Reliable where
  takes := fun _ _ bytes hbytes => ⟨_, by have := List.length_pos_iff.mpr hbytes; omega, rfl⟩
  flushes := fun _ _ => rfl

/-- Writes over the earlier script. -/
def replacing : Runner :=
  .echo "e" (some "old.smt2") standardSuffix

/-- Has no answer, and leaves what there is. -/
def failing : Runner :=
  ⟨"e", none, standardSuffix, fun problem left => (.error (.runner (.notAFile problem)), left)⟩

theorem handed_over_workshop :
    (∃ before after, bench.Asks replacing "(exit)\n" workshop "old.smt2" before after ∧
      before.read? (pathOf "old.smt2") = some (Utf8.ofString "(exit)\n")) ∧
    ∃ before after,
      bench.Asks failing "(exit)\n" workshop "/tmp/smtlib-e-000000.smt2" before after ∧
      before.read? (pathOf "/tmp/smtlib-e-000000.smt2") = some (Utf8.ofString "(exit)\n") ∧
      ∀ left, left.entryItself? (pathOf "/tmp/smtlib-e-000000.smt2") ≠ some .directory →
        (after left).entryItself? (pathOf "/tmp/smtlib-e-000000.smt2") = none := by
  have hlaws : bench.temporaries.Laws := FileSystem.temporaries_laws
  constructor
  · have hmade : workshop.makeParent (pathOf "old.smt2") = (true, workshop) := rfl
    have hopen : bench.open? (pathOf "old.smt2") FileSystem.standardMode workshop =
        some (.file 0, workshop.store 0 ⟨#[]⟩) := rfl
    obtain ⟨written, hsave, hwrote⟩ := save_of_reliable bench_reliable hmade hopen nofun "(exit)\n"
    have hentry := hwrote.entry_file (FileSystem.opens_of_open? (open?_eq_some hopen))
    obtain ⟨-, hasked, -⟩ := handed_over_whole bench hlaws replacing "(exit)\n" workshop
    obtain ⟨before, after, hasks, hholds, -⟩ :=
      hasked "old.smt2" written ((written?_in_place rfl).mpr ⟨rfl, hsave⟩)
    refine ⟨before, after, hasks, hholds fun device hdevice => ?_⟩
    cases hentry.symm.trans hdevice
  · obtain ⟨opened, hcreate⟩ : ∃ opened, bench.create? failing workshop =
        some ("/tmp/smtlib-e-000000.smt2", .file 1, opened) := ⟨_, rfl⟩
    have htarget : Target.file 1 ≠ .device .full := nofun
    obtain ⟨written, hfill⟩ := fill_of_reliable bench_reliable htarget "(exit)\n" opened
    obtain ⟨-, hasked, -⟩ := handed_over_whole bench hlaws failing "(exit)\n" workshop
    obtain ⟨before, after, hasks, -, -, htemporary⟩ :=
      hasked _ written ((written?_temporary rfl).mpr ⟨_, opened, hcreate, hfill⟩)
    obtain ⟨-, -, hholds, hgone⟩ := htemporary rfl
    exact ⟨before, after, hasks, hholds, hgone⟩

/-- Writes to the device. -/
def discarding : Runner :=
  .echo "e" (some "/dev/null") standardSuffix

/-- Puts a directory in the place of its file. -/
def obstructing : Runner where
  name := "e"
  outputFile? := none
  suffix := standardSuffix
  run := fun problem left =>
    (.ok "", (left.erase (pathOf problem)).makeDirectory (pathOf problem))

/-- A device does not hold the script that was written to it, and a directory stays where the
temporary file was. -/
theorem not_handed_over_whole :
    (∃ before after, bench.Asks discarding "(exit)\n" workshop "/dev/null" before after ∧
      before.read? (pathOf "/dev/null") = some [] ∧ Utf8.ofString "(exit)\n" ≠ []) ∧
    (bench.runScript obstructing "(exit)\n" workshop).problem? = some "/tmp/smtlib-e-000000.smt2" ∧
    (bench.runScript obstructing "(exit)\n" workshop).files.entryItself?
      (pathOf "/tmp/smtlib-e-000000.smt2") = some .directory := by
  have hopen : bench.open? (pathOf "/dev/null") FileSystem.standardMode workshop =
      some (.device .null, workshop) := rfl
  have hmade : workshop.makeParent (pathOf "/dev/null") = (true, workshop) := rfl
  obtain ⟨written, hsave, hwrote⟩ := save_of_reliable bench_reliable hmade hopen nofun "(exit)\n"
  have hentry : written.entry? (pathOf "/dev/null") = some (.device .null) :=
    hwrote.sameTree.entry.trans rfl
  refine ⟨⟨_, _, asks_in_place rfl hsave, ?_, ?_⟩, ?_, ?_⟩
  · rw [FileSystem.read?_holding, FileSystem.read?, hentry]
  · decide
  · decide +kernel
  · decide +kernel

end Runner

end SmtScript.Solver
