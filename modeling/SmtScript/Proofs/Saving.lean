import SmtScript.Proofs.Files
import SmtScript.Solver.Runner

/-!
# A script is saved whole

Files may take a script in pieces, and a write or a flush may fail. What a file has taken is always
the front of the script. Only if that is all of it is the script saved.
-/

namespace SmtScript.Solver

open Host (FileSystem Raw)
open Host.FileSystem (Target Opens SameTree)
open Utf8 (Bytes)

/-! ## Writing -/

/-- The bytes were put behind what the target holds, and nothing else has happened to the tree. A
device holds nothing. -/
structure Wrote (target : Target) (bytes : Bytes) (files written : FileSystem) : Prop where
  sameTree : SameTree files written
  content : ∀ number content, target = .file number → files.content? number = some content →
    written.content? number = some (content ++ bytes)

variable {target : Target} {bytes left : Bytes} {files written : FileSystem} {path : Raw}

theorem Wrote.refl (target : Target) (files : FileSystem) : Wrote target [] files files :=
  ⟨.refl files, fun number content _ hcontent => by rw [List.append_nil, hcontent]⟩

theorem Wrote.trans {more : Bytes} {later : FileSystem} (h : Wrote target bytes files written)
    (h' : Wrote target more written later) : Wrote target (bytes ++ more) files later := by
  refine ⟨h.sameTree.trans h'.sameTree, fun number content htarget hcontent => ?_⟩
  rw [← List.append_assoc]
  exact h'.content number _ htarget (h.content number content htarget hcontent)

theorem Wrote.entry_file {opened : FileSystem} {number : Nat}
    (h : Wrote (.file number) bytes opened written)
    (hopen : Opens files path (.file number) opened) :
    written.entry? path = some (.file number) := by
  cases hopen with
  | file hentry => exact h.sameTree.entry.trans hentry

/-- What was written to a file with nothing in it is what is read from it. -/
theorem Wrote.read? {opened : FileSystem} (h : Wrote target bytes opened written)
    (hopen : Opens files path target opened)
    (hdevice : ∀ device, written.entry? path ≠ some (.device device)) :
    written.read? path = some bytes := by
  cases target with
  | file number =>
      refine FileSystem.read?_of_content (h.entry_file hopen) ?_
      cases hopen with
      | file _ hcontent => exact h.content number [] rfl hcontent
  | device device =>
      cases hopen with
      | device hentry => exact absurd (h.sameTree.entry.trans hentry) (hdevice device)

namespace System

variable {s : System} {script problem : String} {held : Bytes}

theorem open?_eq_some {mode : Nat} {opened : FileSystem}
    (h : s.open? path mode files = some (target, opened)) :
    files.open? path mode = some (target, opened) := by
  unfold open? at h
  split at h
  · exact h
  · cases h

/-- One write puts those bytes behind the others that it took. -/
theorem wrote_of_write? {count : Nat}
    (h : s.write? target bytes files = some (count, written)) :
    Wrote target (bytes.take count) files written := by
  cases target with
  | device device =>
      refine ⟨?_, nofun⟩
      cases device with
      | full => cases h
      | null | zero | stream => cases h; exact .refl files
  | file number =>
      obtain ⟨taken, -, heq⟩ := Option.map_eq_some_iff.mp h
      cases heq
      have htook : bytes.take (bytes.take taken).length = bytes.take taken := by simp
      rw [htook]
      refine ⟨FileSystem.sameTree_append .., fun other content htarget hcontent => ?_⟩
      cases htarget
      exact FileSystem.content?_append hcontent

/-- However the bytes were taken, what was written and what is left are the bytes. -/
theorem wrote_of_writeAll (s : System) (target : Target) (bytes : Bytes) (files : FileSystem) :
    ∃ done, bytes = done ++ (s.writeAll target bytes files).1 ∧
      Wrote target done files (s.writeAll target bytes files).2 := by
  fun_induction s.writeAll target bytes files with
  | case1 files => exact ⟨[], rfl, .refl target files⟩
  | case2 left files _ hfails => exact ⟨[], rfl, .refl target files⟩
  | case3 left files _ after hnone => exact ⟨[], rfl, .refl target files⟩
  | case4 left files _ count after hwrite ih =>
      -- the rest was written behind what this write took
      obtain ⟨done, hdone, hwrote⟩ := ih
      refine ⟨left.take (count + 1) ++ done, ?_, (wrote_of_write? hwrite).trans hwrote⟩
      rw [List.append_assoc, ← hdone, List.take_append_drop]

theorem wrote_of_writeAll_eq (h : s.writeAll target bytes files = (left, written)) :
    ∃ done, bytes = done ++ left ∧ Wrote target done files written := by
  have hwrote := s.wrote_of_writeAll target bytes files
  rwa [h] at hwrote

/-! ## Through a buffer -/

theorem wrote_of_buffer (h : s.buffer target bytes files = (true, held, written)) :
    ∃ done, bytes = done ++ held ∧ Wrote target done files written := by
  unfold buffer at h
  split at h
  · cases h
    exact ⟨[], rfl, .refl target files⟩
  · cases hwrite : s.writeAll target bytes files with
    | mk left after =>
        simp only [hwrite, Prod.mk.injEq, List.isEmpty_iff] at h
        obtain ⟨rfl, rfl, rfl⟩ := h
        exact wrote_of_writeAll_eq hwrite

theorem wrote_of_flush (h : s.flush target held files = (true, left, written)) :
    Wrote target held files written := by
  unfold flush at h
  cases hwrite : s.writeAll target held files with
  | mk rest after =>
      simp only [hwrite, Prod.mk.injEq, Bool.and_eq_true, List.isEmpty_iff] at h
      obtain ⟨⟨rfl, -⟩, -, rfl⟩ := h
      obtain ⟨done, hdone, hwrote⟩ := wrote_of_writeAll_eq hwrite
      rwa [hdone, List.append_nil]

/-- What was held back is behind what was written at once. -/
theorem wrote_of_buffer_flush {buffered : FileSystem}
    (hbuffer : s.buffer target bytes files = (true, held, buffered))
    (hflush : s.flush target held buffered = (true, left, written)) :
    Wrote target bytes files written := by
  obtain ⟨done, hdone, hwrote⟩ := wrote_of_buffer hbuffer
  rw [hdone]
  exact hwrote.trans (wrote_of_flush hflush)

/-- A script is saved only if nothing fails: the directories are made, the file is opened, the
buffer is filled and flushed. -/
theorem save_eq_ok_iff {path : String} : s.save path script files = .ok written ↔
    ∃ made target opened held buffered left,
      files.makeParent (pathOf path) = (true, made) ∧
      s.open? (pathOf path) FileSystem.standardMode made = some (target, opened) ∧
      s.buffer target (Utf8.ofString script) opened = (true, held, buffered) ∧
      s.flush target held buffered = (true, left, written) := by
  unfold save
  constructor
  · intro h
    rcases hmade : files.makeParent (pathOf path) with ⟨_ | _, made⟩
    · simp [hmade] at h
    rcases hopen : s.open? (pathOf path) FileSystem.standardMode made with _ | ⟨target, opened⟩
    · simp [hmade, hopen] at h
    rcases hbuffer : s.buffer target (Utf8.ofString script) opened with ⟨_ | _, held, buffered⟩
    · simp [hmade, hopen, hbuffer] at h
    rcases hflush : s.flush target held buffered with ⟨_ | _, left, flushed⟩
    · simp [hmade, hopen, hbuffer, hflush] at h
    simp only [hmade, hopen, hbuffer, hflush, Bool.not_true, Bool.false_eq_true, if_false,
      Except.ok.injEq] at h
    subst h
    exact ⟨made, target, opened, held, buffered, left, rfl, hopen, hbuffer, hflush⟩
  · rintro ⟨made, target, opened, held, buffered, left, hmade, hopen, hbuffer, hflush⟩
    simp [hmade, hopen, hbuffer, hflush]

theorem wrote_of_save {path : String} (h : s.save path script files = .ok written) :
    ∃ made target opened,
      s.open? (pathOf path) FileSystem.standardMode made = some (target, opened) ∧
      Wrote target (Utf8.ofString script) opened written := by
  obtain ⟨made, target, opened, held, buffered, left, -, hopen, hbuffer, hflush⟩ :=
    save_eq_ok_iff.mp h
  exact ⟨made, target, opened, hopen, wrote_of_buffer_flush hbuffer hflush⟩

/-! ## A temporary file -/

theorem create?_eq_some {r : Runner} {opened : FileSystem}
    (h : s.create? r files = some (problem, target, opened)) :
    ∃ path, s.temporaries.freshPath? files r.temporaryStem r.suffix.toList = some path ∧
      problem = String.ofList path ∧
      s.open? (pathOf problem) FileSystem.privateMode files = some (target, opened) := by
  unfold create? at h
  rcases hpath : s.temporaries.freshPath? files r.temporaryStem r.suffix.toList with _ | path
  · simp [hpath] at h
  rcases hopen : s.open? (pathOf (String.ofList path)) FileSystem.privateMode files with
    _ | ⟨target', opened'⟩
  · simp [hpath, hopen] at h
  simp only [hpath, hopen, Option.some.injEq, Prod.mk.injEq] at h
  obtain ⟨rfl, rfl, rfl⟩ := h
  exact ⟨path, rfl, rfl, hopen⟩

theorem fill_eq_ok_iff : s.fill target script files = .ok written ↔
    s.writeAll target (Utf8.ofString script) files = ([], written) ∧
      s.flushes written target = true := by
  unfold fill
  constructor
  · intro h
    rcases hwrite : s.writeAll target (Utf8.ofString script) files with ⟨_ | ⟨byte, left⟩, after⟩
    · cases hflush : s.flushes after target with
      | false => simp [hwrite, hflush] at h
      | true =>
          obtain rfl : after = written := by simpa [hwrite, hflush] using h
          exact ⟨rfl, hflush⟩
    · simp [hwrite] at h
  · rintro ⟨hwrite, hflush⟩
    simp [hwrite, hflush]

theorem wrote_of_fill (h : s.fill target script files = .ok written) :
    Wrote target (Utf8.ofString script) files written := by
  obtain ⟨hwrite, -⟩ := fill_eq_ok_iff.mp h
  obtain ⟨done, hdone, hwrote⟩ := wrote_of_writeAll_eq hwrite
  rwa [hdone, List.append_nil]

/-- What was taken before something failed is the front of the script. -/
theorem wrote_of_fill_error {left : FileSystem} (h : s.fill target script files = .error left) :
    ∃ done, done <+: Utf8.ofString script ∧ Wrote target done files left := by
  unfold fill at h
  rcases hwrite : s.writeAll target (Utf8.ofString script) files with ⟨rest, after⟩
  obtain ⟨done, hdone, hwrote⟩ := wrote_of_writeAll_eq hwrite
  have hafter : after = left := by
    simp only [hwrite] at h
    split at h
    · exact Except.error.inj h
    · split at h
      · exact Except.error.inj h
      · cases h
  exact ⟨done, ⟨rest, hdone.symm⟩, hafter ▸ hwrote⟩

/-! ## Nothing fails -/

/-- Every write to a file takes some of the bytes, and every flush succeeds. -/
structure Reliable (s : System) : Prop where
  takes : ∀ files number bytes, bytes ≠ [] →
    ∃ count, 0 < count ∧ s.takes? files number bytes = some count
  flushes : ∀ files target, s.flushes files target = true

theorem write?_of_reliable (h : s.Reliable) (htarget : target ≠ .device .full)
    (hbytes : bytes ≠ []) (files : FileSystem) :
    ∃ count after, s.write? target bytes files = some (count + 1, after) := by
  have hlength : bytes.length ≠ 0 := fun hzero => hbytes (List.length_eq_zero_iff.mp hzero)
  cases target with
  | file number =>
      obtain ⟨count, hpos, htakes⟩ := h.takes files number bytes hbytes
      obtain ⟨taken, htaken⟩ : ∃ taken, (bytes.take count).length = taken + 1 := by
        rw [List.length_take]
        exact ⟨min count bytes.length - 1, by omega⟩
      refine ⟨taken, files.append number (bytes.take count), ?_⟩
      rw [write?, htakes, Option.map_some, htaken]
  | device device =>
      obtain ⟨count, hcount⟩ : ∃ count, bytes.length = count + 1 :=
        Nat.exists_eq_succ_of_ne_zero hlength
      refine ⟨count, files, ?_⟩
      rw [← hcount]
      cases device with
      | full => exact absurd rfl htarget
      | null | zero | stream => rfl

theorem writeAll_of_reliable (h : s.Reliable) (htarget : target ≠ .device .full) (bytes : Bytes)
    (files : FileSystem) : (s.writeAll target bytes files).1 = [] := by
  fun_induction s.writeAll target bytes files with
  | case1 files => rfl
  | case2 left files hleft hfails =>
      obtain ⟨count, after, hwrite⟩ := write?_of_reliable h htarget hleft files
      cases hwrite.symm.trans hfails
  | case3 left files hleft after hnone =>
      obtain ⟨count, later, hwrite⟩ := write?_of_reliable h htarget hleft files
      cases hwrite.symm.trans hnone
  | case4 left files hleft count after _ ih => exact ih

theorem buffer_of_reliable (h : s.Reliable) (htarget : target ≠ .device .full) (bytes : Bytes)
    (files : FileSystem) :
    ∃ held buffered, s.buffer target bytes files = (true, held, buffered) := by
  unfold buffer
  split
  · exact ⟨bytes, files, rfl⟩
  · refine ⟨[], (s.writeAll target bytes files).2, ?_⟩
    simp [writeAll_of_reliable h htarget]

theorem flush_of_reliable (h : s.Reliable) (htarget : target ≠ .device .full) (held : Bytes)
    (files : FileSystem) : ∃ left written, s.flush target held files = (true, left, written) := by
  refine ⟨[], (s.writeAll target held files).2, ?_⟩
  simp [flush, writeAll_of_reliable h htarget, h.flushes]

/-- **If nothing fails, every script is saved**, however few bytes a write takes. -/
theorem save_of_reliable (h : s.Reliable) {path : String} {made opened : FileSystem}
    (hmade : files.makeParent (pathOf path) = (true, made))
    (hopen : s.open? (pathOf path) FileSystem.standardMode made = some (target, opened))
    (htarget : target ≠ .device .full) (script : String) :
    ∃ written, s.save path script files = .ok written ∧
      Wrote target (Utf8.ofString script) opened written := by
  obtain ⟨held, buffered, hbuffer⟩ := buffer_of_reliable h htarget (Utf8.ofString script) opened
  obtain ⟨left, written, hflush⟩ := flush_of_reliable h htarget held buffered
  exact ⟨written, save_eq_ok_iff.mpr
    ⟨made, _, opened, held, buffered, left, hmade, hopen, hbuffer, hflush⟩,
    wrote_of_buffer_flush hbuffer hflush⟩

theorem fill_of_reliable (h : s.Reliable) (htarget : target ≠ .device .full) (script : String)
    (files : FileSystem) : ∃ written, s.fill target script files = .ok written := by
  refine ⟨(s.writeAll target (Utf8.ofString script) files).2, fill_eq_ok_iff.mpr ⟨?_, ?_⟩⟩
  · rw [← writeAll_of_reliable h htarget (Utf8.ofString script) files]
  · exact h.flushes _ _

end System

end SmtScript.Solver
