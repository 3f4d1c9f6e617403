import SmtScript.Proofs.Parties
import SmtScript.Solver.Call

/-!
# The watchdog never misreports

Whatever order the parties act in, the verdict says how the child ended. An exit code counts even if
the watchdog struck. A signal counts as a timeout only if the time was over before main was done and
the watchdog did kill. When main has its verdict, the child has been waited for and the watchdog is
over, so that nobody kills any more. And a verdict always comes once the child has ended.
-/

namespace SmtScript.Solver

namespace Supervision

/-! ## The usual course -/

theorem verdict?_ended (timed : Bool) (output : Utf8.Bytes) (ending : Ending) :
    verdict? timed ⟨output, some ending⟩ = some (match ending with
      | .exited code => .exited code output
      | .killed => .signalled output) := by
  cases timed <;> cases ending <;>
    simp [verdict?, course, State.moves?, State.move?, State.initial, Child.fresh, Child.isSilent,
      Watchdog.isOver, State.verdict]

theorem verdict?_running (output : Utf8.Bytes) :
    verdict? true ⟨output, none⟩ = some .timedOut := by
  simp [verdict?, course, State.moves?, State.move?, State.initial, Child.fresh, Child.isSilent,
    Child.kill, Watchdog.isOver, State.verdict]

/-! ## Verdicts -/

section

variable {timed : Bool} {moves : List Move} {s : State} {v : Verdict}

theorem Watched.struck_iff {watchdog : Watchdog} {acts : List Move}
    (h : Watched timed watchdog acts) : watchdog = .ended true ↔ acts = [.expire, .strike] := by
  cases h <;> simp

theorem Watched.timed_of_struck {acts : List Move} (h : Watched timed (.ended true) acts) :
    timed = true := by
  cases h
  rfl

/-- What holds when main has its verdict. -/
structure Settled (moves : List Move) (s : State) (v : Verdict) : Prop where
  verdict : v = s.verdict
  ended : s.child.ending?.isSome = true
  reaped : s.reaped = true
  watchdogOver : s.watchdog.isOver = true
  read : ∃ turns, HasRead s turns ∧ mainTurns moves = turns ++ [.wait, .notify, .join]

theorem Tells.settled (h : Tells timed moves s) (hphase : s.phase = .finished v) :
    Settled moves s v := by
  have hmain := h.main
  rw [hphase] at hmain
  generalize hturns : mainTurns moves = turns at hmain
  cases hmain with
  | finished hread hended hreaped hover => exact ⟨rfl, hended, hreaped, hover, _, hread, hturns⟩

theorem Settled.readFails_mem_iff (h : Settled moves s v) :
    .readFails ∈ moves ↔ s.readFailed = true := by
  have hmem : .readFails ∈ moves ↔ .readFails ∈ mainTurns moves := by
    rw [mainTurns, List.mem_filter]
    simp [Move.isTurn]
  obtain ⟨turns, hread, hturns⟩ := h.read
  rw [hmem, hturns]
  cases hread with
  | whole hwhole => simp [hwhole]
  | failed hfailed => simp [hfailed]

theorem Settled.of_readFails (h : Settled moves s v) (hfails : .readFails ∈ moves) :
    v = .unreadable ∧ ∃ attempt, (attempt = .kill ∨ attempt = .killFails) ∧
      mainTurns moves = [.readFails, attempt, .wait, .notify, .join] := by
  rw [h.readFails_mem_iff] at hfails
  obtain ⟨turns, hread, hturns⟩ := h.read
  cases hread with
  | whole hwhole => simp [hwhole] at hfails
  | @failed attempt hfailed hattempt =>
      refine ⟨?_, attempt, hattempt, hturns⟩
      rw [h.verdict, State.verdict, hfailed]
      rfl

theorem Settled.of_read (h : Settled moves s v) (hfails : .readFails ∉ moves) :
    s.readFailed = false ∧ s.collected = s.child.written ∧
      mainTurns moves = [.readEnd, .wait, .notify, .join] := by
  rw [h.readFails_mem_iff, Bool.not_eq_true] at hfails
  obtain ⟨turns, hread, hturns⟩ := h.read
  cases hread with
  | whole _ hall => exact ⟨hfails, hall, hturns⟩
  | failed hfailed => simp [hfailed] at hfails

theorem Settled.of_exited (h : Settled moves s v) (hfails : .readFails ∉ moves) {code : Nat}
    (hexited : s.child.ending? = some (.exited code)) : v = .exited code s.child.written := by
  obtain ⟨hread, hall, -⟩ := h.of_read hfails
  simp [h.verdict, State.verdict, hread, hexited, hall]

theorem Settled.of_killed (h : Settled moves s v) (hfails : .readFails ∉ moves)
    (hkilled : s.child.ending? = some .killed) :
    v = if s.watchdog = .ended true then .timedOut else .signalled s.child.written := by
  obtain ⟨hread, hall, -⟩ := h.of_read hfails
  simp [h.verdict, State.verdict, hread, hkilled, hall]

theorem Settled.ending_cases (h : Settled moves s v) :
    (∃ code, s.child.ending? = some (.exited code)) ∨ s.child.ending? = some .killed := by
  obtain ⟨ending, hending⟩ := Option.isSome_iff_exists.mp h.ended
  cases ending with
  | exited code => exact .inl ⟨code, hending⟩
  | killed => exact .inr hending

theorem Settled.exited_iff (h : Settled moves s v) {code : Nat} {output : Utf8.Bytes} :
    v = .exited code output ↔ .readFails ∉ moves ∧ s.child.ending? = some (.exited code) ∧
      output = s.child.written := by
  constructor
  · rintro rfl
    have hfails : .readFails ∉ moves := fun hmem => by
      cases (h.of_readFails hmem).1
    rcases h.ending_cases with ⟨code', hexited⟩ | hkilled
    · cases h.of_exited hfails hexited
      exact ⟨hfails, hexited, rfl⟩
    · have hverdict := h.of_killed hfails hkilled
      split at hverdict <;> cases hverdict
  · rintro ⟨hfails, hexited, rfl⟩
    exact h.of_exited hfails hexited

theorem Settled.timedOut_iff (h : Settled moves s v) (htells : Tells timed moves s) :
    v = .timedOut ↔ .readFails ∉ moves ∧ s.child.ending? = some .killed ∧ timed = true ∧
      watchdogActs moves = [.expire, .strike] := by
  -- the watchdog's state stands for what it did
  rw [← htells.watchdog.struck_iff]
  constructor
  · rintro rfl
    have hfails : .readFails ∉ moves := fun hmem => by
      cases (h.of_readFails hmem).1
    rcases h.ending_cases with ⟨code, hexited⟩ | hkilled
    · cases h.of_exited hfails hexited
    · have hverdict := h.of_killed hfails hkilled
      split at hverdict
      · rename_i hstruck
        have hwatched := htells.watchdog
        rw [hstruck] at hwatched
        exact ⟨hfails, hkilled, hwatched.timed_of_struck, hstruck⟩
      · cases hverdict
  · rintro ⟨hfails, hkilled, -, hstruck⟩
    rw [h.of_killed hfails hkilled, if_pos hstruck]

/-! ## Lives -/

/-- The child wrote the output of the life and ended as the life says, by itself. Without an ending
it ran until the watchdog killed it. -/
def State.Lived (s : State) (life : Life) : Prop :=
  s.child.written = life.output ∧
    match life.ending? with
    | some (.exited code) => s.child.ending? = some (.exited code)
    | some .killed => s.child.ending? = some .killed ∧ s.watchdog ≠ .ended true
    | none => s.child.ending? = some .killed ∧ s.watchdog = .ended true

/-- In every order in which a child can live its life, the verdict is that of the usual course. -/
theorem Settled.verdict?_eq (h : Settled moves s v) (htells : Tells timed moves s)
    (hfails : .readFails ∉ moves) {life : Life} (hlived : s.Lived life) :
    verdict? timed life = some v := by
  obtain ⟨output, ending?⟩ := life
  obtain ⟨hwritten, hending⟩ := hlived
  dsimp only at hwritten hending
  subst hwritten
  match ending? with
  | some (.exited code) => rw [verdict?_ended, h.of_exited hfails hending]
  | some .killed => rw [verdict?_ended, h.of_killed hfails hending.1, if_neg hending.2]
  | none =>
      have hwatched := htells.watchdog
      rw [hending.2] at hwatched
      rw [hwatched.timed_of_struck, verdict?_running, h.of_killed hfails hending.1,
        if_pos hending.2]

end

end Supervision

/-! ## Answers -/

namespace Executable

open Supervision
open Host (FileSystem)

/-- What the caller gets for a verdict. -/
def answerTo (e : Executable) (v : Verdict) : Except Error String :=
  answer e.name e.config.timeout? (some v)

variable {e : Executable} {v : Verdict}

theorem answerTo_exited (e : Executable) (code : Nat) (output : Utf8.Bytes) :
    e.answerTo (.exited code output) = if code = 0 then .ok (Utf8.toString output)
      else .error (.runner (.unexpectedResult e.name code (Utf8.toString output))) := by
  cases code <;> rfl

theorem answerTo_timedOut {limit : Duration} (h : e.config.timeout? = some limit) :
    e.answerTo .timedOut = .error (.runner (.timeout e.name limit)) := by
  simp [answerTo, answer, h]

/-- Without an exit code there is an error, of another kind than that of an unexpected exit code. -/
theorem answerTo_of_not_exited (h : ∀ code output, v ≠ .exited code output) :
    ∃ error, e.answerTo v = .error error ∧
      ∀ tool code text, error ≠ .runner (.unexpectedResult tool code text) := by
  cases v with
  | exited code output => exact absurd rfl (h code output)
  | unreadable => exact ⟨.io, rfl, nofun⟩
  | signalled output => exact ⟨_, rfl, nofun⟩
  | timedOut =>
      cases htimeout : e.config.timeout? with
      | none => exact ⟨.io, by simp [answerTo, answer, htimeout], nofun⟩
      | some limit => exact ⟨_, answerTo_timedOut htimeout, nofun⟩

theorem answerTo_eq_ok_iff {text : String} :
    e.answerTo v = .ok text ↔ ∃ output, v = .exited 0 output ∧ text = Utf8.toString output := by
  constructor
  · intro h
    by_cases hexited : ∃ code output, v = .exited code output
    · obtain ⟨code, output, rfl⟩ := hexited
      rw [answerTo_exited] at h
      split at h
      · rename_i hzero
        exact ⟨output, by rw [hzero], (Except.ok.inj h).symm⟩
      · cases h
    · simp only [not_exists] at hexited
      obtain ⟨error, herror, -⟩ := answerTo_of_not_exited (e := e) hexited
      cases herror.symm.trans h
  · rintro ⟨output, rfl, rfl⟩
    rfl

theorem answerTo_eq_unexpected_iff {tool text : String} {code : Int} :
    e.answerTo v = .error (.runner (.unexpectedResult tool code text)) ↔
      ∃ n output, n ≠ 0 ∧ v = .exited n output ∧ code = n ∧ tool = e.name ∧
        text = Utf8.toString output := by
  constructor
  · intro h
    by_cases hexited : ∃ code output, v = .exited code output
    · obtain ⟨n, output, rfl⟩ := hexited
      rw [answerTo_exited] at h
      split at h
      · cases h
      · rename_i hzero
        cases h
        exact ⟨n, output, hzero, rfl, rfl, rfl, rfl⟩
    · simp only [not_exists] at hexited
      obtain ⟨error, herror, hother⟩ := answerTo_of_not_exited (e := e) hexited
      exact absurd (Except.error.inj (herror.symm.trans h)) (hother tool code text)
  · rintro ⟨n, output, hzero, rfl, rfl, rfl, rfl⟩
    rw [answerTo_exited, if_neg hzero]

/-- What the caller of an executable can rely on when main has a verdict. -/
structure Reports (e : Executable) (moves : List Move) (s : State) (v : Verdict) : Prop where
  ended : s.child.ending?.isSome = true
  reaped : s.reaped = true
  watchdogOver : s.watchdog.isOver = true
  /-- Nobody kills any more, or does anything else. -/
  still : ∀ m, s.move? m = none
  read : .readFails ∉ moves → mainTurns moves = [.readEnd, .wait, .notify, .join]
  /-- The child is killed, unless that fails, and waited for before there is an error. -/
  unreadable : .readFails ∈ moves → v = .unreadable ∧ e.answerTo v = .error .io ∧
    ∃ attempt, (attempt = .kill ∨ attempt = .killFails) ∧
      mainTurns moves = [.readFails, attempt, .wait, .notify, .join]
  exited_iff : ∀ code output, v = .exited code output ↔ .readFails ∉ moves ∧
    s.child.ending? = some (.exited code) ∧ output = s.child.written
  /-- The time was over before the watchdog heard anything, and it did kill. -/
  timedOut_iff : v = .timedOut ↔ .readFails ∉ moves ∧ s.child.ending? = some .killed ∧
    e.config.timeout?.isSome = true ∧ watchdogActs moves = [.expire, .strike]
  timeout : v = .timedOut → ∃ limit, e.config.timeout? = some limit ∧
    e.answerTo v = .error (.runner (.timeout e.name limit))
  signalled : .readFails ∉ moves → s.child.ending? = some .killed → v ≠ .timedOut →
    v = .signalled s.child.written ∧
      e.answerTo v = .error (.runner (.signal e.name (Utf8.toString s.child.written)))
  ok_iff : ∀ text, e.answerTo v = .ok text ↔ .readFails ∉ moves ∧
    s.child.ending? = some (.exited 0) ∧ text = Utf8.toString s.child.written
  unexpected_iff : ∀ tool code text,
    e.answerTo v = .error (.runner (.unexpectedResult tool code text)) ↔ .readFails ∉ moves ∧
      (∃ n : Nat, n ≠ 0 ∧ s.child.ending? = some (.exited n) ∧ code = n) ∧ tool = e.name ∧
        text = Utf8.toString s.child.written
  /-- The answer is that of every order in which the child can live its life. -/
  run : ∀ (system : System) problem files life left, files.isFile (pathOf problem) = true →
    system.start? files (pathOf e.location) ((e.config.extraArgs ++ [problem]).map pathOf)
      (e.config.timeout?.map Duration.nanoseconds) = some (life, left) →
    .readFails ∉ moves → s.Lived life → system.run e problem files = (e.answerTo v, left)

theorem reports_of_tells {moves : List Move} {s : State}
    (htells : Tells e.config.timeout?.isSome moves s) (hphase : s.phase = .finished v) :
    e.Reports moves s v := by
  have h : Settled moves s v := htells.settled hphase
  have htimedOut := h.timedOut_iff htells
  refine
    { ended := h.ended
      reaped := h.reaped
      watchdogOver := h.watchdogOver
      still := htells.still hphase
      read := fun hfails => (h.of_read hfails).2.2
      unreadable := fun hfails => ?_
      exited_iff := fun code output => h.exited_iff
      timedOut_iff := htimedOut
      timeout := fun hv => ?_
      signalled := fun hfails hkilled hv => ?_
      ok_iff := fun text => ?_
      unexpected_iff := fun tool code text => ?_
      run := fun system problem files life left hfile hstart hfails hlived => ?_ }
  · obtain ⟨rfl, hturns⟩ := h.of_readFails hfails
    exact ⟨rfl, rfl, hturns⟩
  · obtain ⟨limit, hlimit⟩ := Option.isSome_iff_exists.mp (htimedOut.mp hv).2.2.1
    exact ⟨limit, hlimit, hv ▸ answerTo_timedOut hlimit⟩
  · have hverdict := h.of_killed hfails hkilled
    split at hverdict
    · exact absurd hverdict hv
    · exact ⟨hverdict, by rw [hverdict]; rfl⟩
  · rw [answerTo_eq_ok_iff]
    constructor
    · rintro ⟨output, hv, rfl⟩
      obtain ⟨hfails, hexited, rfl⟩ := h.exited_iff.mp hv
      exact ⟨hfails, hexited, rfl⟩
    · rintro ⟨hfails, hexited, rfl⟩
      exact ⟨_, h.of_exited hfails hexited, rfl⟩
  · rw [answerTo_eq_unexpected_iff]
    constructor
    · rintro ⟨n, output, hzero, hv, rfl, rfl, rfl⟩
      obtain ⟨hfails, hexited, rfl⟩ := h.exited_iff.mp hv
      exact ⟨hfails, ⟨n, hzero, hexited, rfl⟩, rfl, rfl⟩
    · rintro ⟨hfails, ⟨n, hzero, hexited, rfl⟩, rfl, rfl⟩
      exact ⟨n, _, hzero, h.of_exited hfails hexited, rfl, rfl, rfl⟩
  · have hverdict : verdict? (e.config.timeout?.map Duration.nanoseconds).isSome life = some v := by
      rw [Option.isSome_map]
      exact h.verdict?_eq htells hfails hlived
    simp only [System.run, hfile, hstart, hverdict]
    rfl

/-- **The watchdog never misreports and never outlives the call.** Whatever the order in which the
parties act, a verdict says what became of the child, and when there is one, the child has been
waited for and nothing moves any more. Once the child has ended, as a watchdog can always bring
about, all that is left to do is a bounded number of moves up to the verdict. Reading nothing does
not count. -/
theorem supervised (e : Executable) {moves : List Move} {s : State}
    (h : (State.initial e.config.timeout?.isSome).moves? moves = some s) :
    (∀ v, s.phase = .finished v → e.Reports moves s v) ∧
    (s.child.ending?.isSome = true →
      ((∃ v, s.phase = .finished v) ∨ ∃ m, m ≠ .read 0 ∧ (s.move? m).isSome = true) ∧
      ∀ rest, .read 0 ∉ rest → (s.moves? rest).isSome = true → rest.length ≤ s.rank) ∧
    (s.child.ending?.isSome = true ∨ s.watchdog = .waiting ∨ s.watchdog = .expired →
      ∃ rest s' v, s.moves? rest = some s' ∧ s'.phase = .finished v) := by
  have htells : Tells e.config.timeout?.isSome moves s := tells_of_moves? h
  refine ⟨fun v hphase => reports_of_tells htells hphase, fun hended => ⟨?_, ?_⟩, ?_⟩
  · by_cases hphase : ∃ v, s.phase = .finished v
    · exact .inl hphase
    · obtain ⟨m, next, hm, hstep⟩ := htells.exists_step hended (not_exists.mp hphase)
      exact .inr ⟨m, hm, by rw [move?_eq_some_iff.mpr hstep]; rfl⟩
  · intro rest hrest hsome
    obtain ⟨s', hs'⟩ := Option.isSome_iff_exists.mp hsome
    exact length_le_rank hended hrest hs'
  · rintro (hended | hwatchdog)
    · exact htells.exists_finished hended
    · exact htells.exists_finished_of_watchdog hwatchdog

/-- A host with a program that prints files. -/
def kitchen : FileSystem where
  entries := [(["bin".toList], .directory), (["bin".toList, "cat".toList], .program "cat"),
    (["work".toList], .directory), (["work".toList, "hi.smt2".toList], .file 0)]
  nodes := [(0, ⟨⟨[104, 105].toArray⟩, FileSystem.standardMode, 0⟩)]
  traits := []
  next := 1
  working := ["work".toList]
  moves := []
  now := 0
  busy := []

/-- Whatever is started prints the file that is its last argument. -/
def copying : System where
  executable? := fun _ called => some called
  temporaries := FileSystem.temporaries
  admits := fun _ _ => true
  takes? := fun _ _ bytes => some bytes.length
  flushes := fun _ _ => true
  start? := fun files _ args _ =>
    (args.getLast?.bind files.read?).map fun content => (⟨content, some (.exited 0)⟩, files)

/-- The program, which has a second. -/
def cat : Executable :=
  ⟨"/bin/cat", { Config.standard with timeout? := some ⟨1000000000, by decide⟩ }⟩

/-- The time is over, but the child exits by itself before it is killed. -/
def closeRace (code : Nat) : List Move :=
  [.write [104, 105], .read 1, .expire, .exit code, .strike, .read 1, .readEnd, .wait, .notify,
    .join]

theorem supervised_closeRace :
    copying.run cat "hi.smt2" kitchen = (.ok "hi", kitchen) ∧
    ∃ s v, (State.initial true).moves? (closeRace 3) = some s ∧ s.watchdog = .ended true ∧
      v = .exited 3 [104, 105] ∧
      cat.answerTo v = .error (.runner (.unexpectedResult cat.name 3 "hi")) ∧
      ∀ m, s.move? m = none := by
  have hraced : ∀ code, ∃ s,
      (State.initial cat.config.timeout?.isSome).moves? (closeRace code) = some s :=
    fun code => ⟨_, rfl⟩
  constructor
  · obtain ⟨s, hs⟩ := hraced 0
    obtain ⟨hreports, -⟩ := cat.supervised hs
    cases hs
    have hend := hreports _ rfl
    have hstart : copying.start? kitchen (pathOf cat.location) [pathOf "hi.smt2"]
        (some 1000000000) = some (⟨[104, 105], some (.exited 0)⟩, kitchen) := rfl
    have hanswer := (hend.ok_iff "hi").mpr ⟨by decide, rfl, rfl⟩
    rw [← hanswer]
    exact hend.run copying "hi.smt2" kitchen _ _ (by decide) hstart (by decide) ⟨rfl, rfl⟩
  · obtain ⟨s, hs⟩ := hraced 3
    obtain ⟨hreports, -⟩ := cat.supervised hs
    cases hs
    have hend := hreports _ rfl
    have hexited := (hend.exited_iff 3 [104, 105]).mpr ⟨by decide, rfl, rfl⟩
    have hunexpected := (hend.unexpected_iff cat.name 3 "hi").mpr
      ⟨by decide, ⟨3, by decide, rfl, rfl⟩, rfl, rfl⟩
    exact ⟨_, _, rfl, rfl, hexited, hunexpected, hend.still⟩

end Executable

end SmtScript.Solver
