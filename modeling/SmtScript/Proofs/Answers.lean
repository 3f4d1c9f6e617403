import SmtScript.Proofs.Decoding
import SmtScript.Proofs.Delivery
import SmtScript.Proofs.Handover
import SmtScript.Proofs.Watchdog

/-!
# The answer is what was printed

What an executable prints before it exits with 0 is the answer, decoded. Whatever is valid comes
through as it is, so a program that prints the file that it is asked about gives back the script.
-/

namespace SmtScript.Solver

open Host (FileSystem)

namespace System

open Supervision

/-- Asked about the file, the executable prints the bytes and exits with 0. -/
def Prints (s : System) (e : Executable) (problem : String) (files : FileSystem)
    (output : Utf8.Bytes) : Prop :=
  (s.start? files (pathOf e.location) ((e.config.extraArgs ++ [problem]).map pathOf)
    (e.config.timeout?.map Duration.nanoseconds)).map Prod.fst = some ⟨output, some (.exited 0)⟩

/-- Asked about the file, the executable prints what is in it. -/
def Copies (s : System) (e : Executable) (problem : String) (files : FileSystem) : Prop :=
  ∀ content, files.read? (pathOf problem) = some content → s.Prints e problem files content

variable {s : System} {e : Executable} {r : Runner} {problem script : String}
  {files written : FileSystem}

theorem run_of_prints {output : Utf8.Bytes} (hfile : files.isFile (pathOf problem) = true)
    (h : s.Prints e problem files output) :
    (s.run e problem files).1 = .ok (Utf8.toString output) := by
  obtain ⟨⟨life, left⟩, hstart, rfl⟩ := Option.map_eq_some_iff.mp h
  simp only [run, hfile, hstart, verdict?_ended]
  rfl

/-- The runner is asked about a file that holds the script, and its answer is the answer. -/
theorem exists_asked (hlaws : s.temporaries.Laws)
    (h : s.written? r script files = some (problem, written))
    (hfile : r.outputFile? = none ∨ written.isFile (pathOf problem) = true) :
    (∃ after, s.Asks r script files problem (written.holding (pathOf problem)) after) ∧
      written.isFile (pathOf problem) = true ∧
      written.read? (pathOf problem) = some (Utf8.ofString script) := by
  cases houtput : r.outputFile? with
  | none =>
      obtain ⟨target, opened, hcreate, hfill⟩ := (written?_temporary houtput).mp h
      exact ⟨⟨_, asks_temporary houtput hcreate hfill⟩, holds_temporary hlaws hcreate hfill⟩
  | some path =>
      obtain ⟨rfl, hsave⟩ := (written?_in_place houtput).mp h
      have hthere := hfile.resolve_left (by rw [houtput]; simp)
      refine ⟨⟨_, asks_in_place houtput hsave⟩, hthere, ?_⟩
      refine holds_in_place hsave fun device hdevice => ?_
      rw [FileSystem.isFile, hdevice] at hthere
      cases hthere

/-- A program that prints the file gives back the script. -/
theorem answer_of_copies (hlaws : s.temporaries.Laws) {stack : Stack} {g : Graph}
    (hscript : stack.serialize g = .ok script)
    (hwritten : s.written? (s.runner e) script files = some (problem, written))
    (hfile : e.config.outputFile? = none ∨ written.isFile (pathOf problem) = true)
    (hcopies : s.Copies e problem (written.holding (pathOf problem))) :
    (s.runStack (s.runner e) stack g files).answer = .ok script := by
  obtain ⟨⟨after, hasks⟩, hthere, hread⟩ := exists_asked hlaws hwritten hfile
  rw [← FileSystem.read?_holding] at hread
  rw [← (FileSystem.sameTree_holding written (pathOf problem)).isFile] at hthere
  have hrun : (s.run e problem (written.holding (pathOf problem))).1 = .ok script := by
    rw [run_of_prints hthere (hcopies _ hread), Utf8.toString_ofString]
  rw [runStack, hscript, ← hrun]
  exact congrArg Report.answer (hasks (s.run e))

end System

namespace Executable

open Supervision

/-- **The answer is what was printed.** Bytes fall apart into characters and invalid stretches in
one way only, and that is how what an executable prints before it exits with 0 becomes the answer,
in whatever pieces it was written and read. Whatever is valid comes through as it is, what comes
after it does not depend on it, and an answer that is printed again is the same answer. So a program
that prints the file that it is asked about gives back the script of every stack that has one. Where
the runner names a file, it must be one and no device; a temporary file always is. -/
theorem answers_decoded (s : System) (hlaws : s.temporaries.Laws) (e : Executable) :
    (∀ bytes chars, Utf8.Decodes bytes chars ↔ chars = (Utf8.toString bytes).toList) ∧
    (∀ problem files output, files.isFile (pathOf problem) = true →
      s.Prints e problem files output →
      (s.run e problem files).1 = .ok (Utf8.toString output)) ∧
    (∀ moves state v, (State.initial e.config.timeout?.isSome).moves? moves = some state →
      state.phase = .finished v → .readFails ∉ moves → state.child.ending? = some (.exited 0) →
      e.answerTo v = .ok (Utf8.toString state.child.written)) ∧
    (∀ text, Utf8.toString (Utf8.ofString text) = text) ∧
    (∀ front back, Utf8.IsValid front →
      Utf8.toString (front ++ back) = Utf8.toString front ++ Utf8.toString back) ∧
    (∀ bytes, Utf8.toString (Utf8.ofString (Utf8.toString bytes)) = Utf8.toString bytes) ∧
    ∀ stack g script files problem written, stack.serialize g = .ok script →
      s.written? (s.runner e) script files = some (problem, written) →
      (e.config.outputFile? = none ∨ written.isFile (pathOf problem) = true) →
      s.Copies e problem (written.holding (pathOf problem)) →
      (s.runStack (s.runner e) stack g files).answer = .ok script := by
  refine ⟨fun bytes chars => ?_, fun problem files output => System.run_of_prints,
    fun moves state v hmoves hphase hfails hexited => ?_, Utf8.toString_ofString,
    fun front back => Utf8.toString_append, fun bytes => Utf8.toString_ofString _,
    fun stack g script files problem written => System.answer_of_copies hlaws⟩
  · rw [Utf8.toString, String.toList_ofList]
    exact Utf8.decodes_iff
  · have hreports := reports_of_tells (tells_of_moves? hmoves) hphase
    exact (hreports.ok_iff _).mpr ⟨hfails, hexited, rfl⟩

/-- A host with a program that prints files, a file with bytes that are no text, and a directory for
temporary files. -/
def copyShop : FileSystem where
  entries := [(["bin".toList], .directory), (["bin".toList, "cat".toList], .program "cat"),
    (["tmp".toList], .directory), (["work".toList], .directory),
    (["work".toList, "garbled".toList], .file 0)]
  nodes := [(0, ⟨⟨Utf8.garbled.toArray⟩, FileSystem.standardMode, 0⟩)]
  traits := []
  next := 1
  working := ["work".toList]
  moves := []
  now := 0
  busy := []

/-- The program on a file that stays. -/
def catNamed : Executable :=
  { cat with config := { cat.config with outputFile? := some "script" } }

/-- The bytes of a character arrive in two pieces. -/
def piecemeal : List Move :=
  [.write [0xE2, 0x82], .read 1, .read 1, .write [0xAC], .exit 0, .read 1, .readEnd, .wait, .notify,
    .hear, .join]

theorem copying_reliable : copying.Reliable where
  takes := fun _ _ bytes hbytes => ⟨bytes.length, List.length_pos_iff.mpr hbytes, rfl⟩
  flushes := fun _ _ => rfl

/-- Whatever is in the last argument is printed. -/
theorem copies_copying (e : Executable) (problem : String) (files : FileSystem) :
    copying.Copies e problem files := by
  intro content hread
  simp [System.Prints, copying, hread]

theorem answers_decoded_copyShop :
    (copying.run cat "garbled" copyShop).1 = .ok (Utf8.toString Utf8.garbled) ∧
    (∃ s v, (State.initial true).moves? piecemeal = some s ∧ cat.answerTo v = .ok "€") ∧
    Utf8.toString (Utf8.ofString "é" ++ [0xFF]) = "é" ++ Utf8.toString [0xFF] ∧
    (copying.runStack (copying.runner cat) .accented .empty copyShop).answer = .ok "; é\n" ∧
    (copying.runStack (copying.runner catNamed) .accented .empty copyShop).answer =
      .ok "; é\n" := by
  have hlaws : copying.temporaries.Laws := FileSystem.temporaries_laws
  obtain ⟨-, hrun, hmoves, -, happend, -, hcopied⟩ := answers_decoded copying hlaws cat
  obtain ⟨-, -, -, -, -, -, hnamed⟩ := answers_decoded copying hlaws catNamed
  refine ⟨?_, ?_, happend _ _ ⟨['é'], rfl⟩, ?_, ?_⟩
  · exact hrun "garbled" copyShop _ (by decide) (copies_copying _ _ _ _ rfl)
  · have hanswer := hmoves piecemeal _ _ rfl rfl (by decide) rfl
    exact ⟨_, _, rfl, hanswer⟩
  · obtain ⟨opened, hcreate⟩ : ∃ opened, copying.create? (copying.runner cat) copyShop =
        some ("/tmp/smtlib-cat-000000.smt2", .file 1, opened) := ⟨_, rfl⟩
    have htarget : FileSystem.Target.file 1 ≠ .device .full := nofun
    obtain ⟨written, hfill⟩ := System.fill_of_reliable copying_reliable htarget "; é\n" opened
    exact hcopied .accented .empty "; é\n" copyShop _ written rfl
      ((System.written?_temporary rfl).mpr ⟨_, opened, hcreate, hfill⟩) (.inl rfl)
      (copies_copying _ _ _)
  · have hmade : copyShop.makeParent (pathOf "script") = (true, copyShop) := rfl
    have hopen : copying.open? (pathOf "script") FileSystem.standardMode copyShop =
        some (.file 1, copyShop.create ["work".toList, "script".toList] FileSystem.standardMode
          ⟨#[]⟩) := rfl
    obtain ⟨written, hsave, hwrote⟩ :=
      System.save_of_reliable copying_reliable hmade hopen nofun "; é\n"
    have hentry := hwrote.entry_file (FileSystem.opens_of_open? (System.open?_eq_some hopen))
    exact hnamed .accented .empty "; é\n" copyShop "script" written rfl
      ((System.written?_in_place rfl).mpr ⟨rfl, hsave⟩)
      (.inr (by rw [FileSystem.isFile, hentry])) (copies_copying _ _ _)

end Executable

end SmtScript.Solver
