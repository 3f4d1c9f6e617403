import SmtScript.Proofs.Naming
import SmtScript.Solver.Executable

/-!
# Runners on a host

What is known of a reliable system is known of a host. There a file that could be opened takes any
script, so only a directory or a file that cannot be made keeps a runner from being asked. And the
temporary file of an executable can be told by its path.
-/

namespace SmtScript.Solver

open Host (FileSystem)

namespace System

theorem host_laws : host.temporaries.Laws :=
  FileSystem.temporaries_laws

theorem host_reliable : host.Reliable where
  takes := fun _ _ bytes hbytes => ⟨bytes.length, List.length_pos_iff.mpr hbytes, rfl⟩
  flushes := fun _ _ => rfl

/-- The runner is asked about a file that holds the script. -/
def HandsOver (s : System) (r : Runner) (script : String) (files : FileSystem)
    (problem : String) : Prop :=
  ∃ before after, s.Asks r script files problem before after ∧
    before.read? (pathOf problem) = some (Utf8.ofString script)

variable {r : Runner} {path problem : String} {target : FileSystem.Target}
  {files made opened : FileSystem}

/-- **A host hands over every script** that it can make the file for. -/
theorem host_handsOver_in_place (houtput : r.outputFile? = some path)
    (hmade : files.makeParent (pathOf path) = (true, made)) {number : Nat}
    (hopen : host.open? (pathOf path) FileSystem.standardMode made = some (.file number, opened))
    (script : String) : host.HandsOver r script files path := by
  obtain ⟨written, hsave, hwrote⟩ := save_of_reliable host_reliable hmade hopen nofun script
  have hentry := hwrote.entry_file (FileSystem.opens_of_open? (open?_eq_some hopen))
  refine ⟨_, _, asks_in_place houtput hsave, ?_⟩
  rw [FileSystem.read?_holding]
  refine holds_in_place hsave fun device hdevice => ?_
  cases hentry.symm.trans hdevice

theorem host_handsOver_temporary (houtput : r.outputFile? = none)
    (hcreate : host.create? r files = some (problem, target, opened)) (script : String) :
    host.HandsOver r script files problem := by
  have htarget : target ≠ .device .full := by
    obtain ⟨number, rfl⟩ := file_of_create? host_laws hcreate
    exact nofun
  obtain ⟨written, hfill⟩ := fill_of_reliable host_reliable htarget script opened
  refine ⟨_, _, asks_temporary houtput hcreate hfill, ?_⟩
  rw [FileSystem.read?_holding]
  exact (holds_temporary host_laws hcreate hfill).2

end System

/-- **The temporary file of an executable is taken for one.** -/
theorem Executable.isTemporary_of_problem {e : Executable} {script problem : String}
    {files : FileSystem} (houtput : e.config.outputFile? = none)
    (h : (e.runner.runScript script files).problem? = some problem) :
    e.runner.isTemporary problem = true := by
  obtain ⟨other, -, hpath⟩ := System.path_of_problem System.host_laws houtput h
  obtain ⟨tag, -, hparts⟩ := Executable.parts_problem System.host_laws houtput h
  have habsolute : Path.isAbsolute problem.toList = true := by
    rw [hpath]
    rfl
  have hname : Path.fileName? problem.toList =
      some (e.runner.temporaryStem ++ (tag ++ standardSuffix.toList)) := by
    rw [Path.fileName?_eq_some_iff_getLast?, hparts, List.getLast?_concat]
    exact ⟨rfl, nofun⟩
  have hdirectory : Path.parts System.host.temporaries.directory =
      FileSystem.temporaryDirectory := by
    decide
  simp only [Runner.isTemporary, habsolute, hname, hparts, hdirectory, Bool.and_eq_true,
    Option.any_some, List.isPrefixOf_iff_prefix, List.isSuffixOf_iff_suffix]
  -- the name is the stem, the tag and the suffix, so the stem is before and the suffix behind
  refine ⟨⟨trivial, List.prefix_append _ _⟩, List.prefix_append _ _, ?_⟩
  exact (List.suffix_append tag _).trans (List.suffix_append _ _)

end SmtScript.Solver
