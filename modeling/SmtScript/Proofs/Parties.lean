import SmtScript.Solver.Supervision
import Mathlib.Data.List.Induction

/-!
# What the three parties have done

The child, the main party and the watchdog act in any order, but each of them follows its own
course. So at any moment the state tells what main and the watchdog have done so far. A child that
has ended does not change any more, and one that is silent has written all that it will. Both are
what the verdict rests on.
-/

namespace SmtScript.Solver.Supervision

/-! ## Steps -/

/-- What each move needs, and what it does. -/
inductive Steps (s : State) : Move → State → Prop
  | write (bytes : Utf8.Bytes) (hruns : s.child.ending? = none)
      (hopen : s.child.outputOpen = true) :
      Steps s (.write bytes) { s with child.written := s.child.written ++ bytes }
  | closeOutput (hruns : s.child.ending? = none) :
      Steps s .closeOutput { s with child.outputOpen := false }
  | exit (code : Nat) (hruns : s.child.ending? = none) :
      Steps s (.exit code) { s with child.ending? := some (.exited code) }
  | die (hruns : s.child.ending? = none) : Steps s .die { s with child.ending? := some .killed }
  | read (count : Nat) (hphase : s.phase = .reading)
      (hcount : s.collected.length + count ≤ s.child.written.length) :
      Steps s (.read count)
        { s with collected := s.child.written.take (s.collected.length + count) }
  | readEnd (hphase : s.phase = .reading) (hall : s.collected.length = s.child.written.length)
      (hsilent : s.child.isSilent = true) : Steps s .readEnd { s with phase := .waiting }
  | readFails (hphase : s.phase = .reading) :
      Steps s .readFails { s with phase := .killing, readFailed := true }
  | kill (hphase : s.phase = .killing) :
      Steps s .kill { s with phase := .waiting, child := s.child.kill }
  | killFails (hphase : s.phase = .killing) : Steps s .killFails { s with phase := .waiting }
  | wait (hphase : s.phase = .waiting) (hended : s.child.ending?.isSome = true) :
      Steps s .wait { s with phase := .notifying, reaped := true }
  | notify (hphase : s.phase = .notifying) :
      Steps s .notify { s with phase := .joining, notified := true }
  | join (hphase : s.phase = .joining) (hover : s.watchdog.isOver = true) :
      Steps s .join { s with phase := .finished s.verdict }
  | hear (hwaits : s.watchdog = .waiting) (hnotified : s.notified = true) :
      Steps s .hear { s with watchdog := .ended false }
  | expire (hwaits : s.watchdog = .waiting) : Steps s .expire { s with watchdog := .expired }
  | strike (hexpired : s.watchdog = .expired) :
      Steps s .strike { s with watchdog := .ended true, child := s.child.kill }
  | strikeFails (hexpired : s.watchdog = .expired) :
      Steps s .strikeFails { s with watchdog := .ended false }

theorem move?_eq_some_iff {s s' : State} {m : Move} : s.move? m = some s' ↔ Steps s m s' := by
  constructor
  · intro h
    cases m with
    | write bytes =>
        obtain ⟨⟨hruns, hopen⟩, hs⟩ := Option.ite_none_right_eq_some.mp h
        cases hs
        exact .write bytes hruns hopen
    | read count =>
        obtain ⟨⟨hphase, hcount⟩, hs⟩ := Option.ite_none_right_eq_some.mp h
        cases hs
        exact .read count hphase hcount
    | readEnd =>
        obtain ⟨⟨hphase, hall, hsilent⟩, hs⟩ := Option.ite_none_right_eq_some.mp h
        cases hs
        exact .readEnd hphase hall hsilent
    | wait | join | hear =>
        obtain ⟨⟨hfirst, hsecond⟩, hs⟩ := Option.ite_none_right_eq_some.mp h
        cases hs
        constructor <;> assumption
    | _ =>
        obtain ⟨hguard, hs⟩ := Option.ite_none_right_eq_some.mp h
        cases hs
        constructor
        exact hguard
  · intro h
    cases h <;> simp [State.move?, *]

/-! ## The child -/

/-- What a child can become. -/
structure Child.Becomes (c c' : Child) : Prop where
  written : c.written <+: c'.written
  silent : c.isSilent = true → c'.isSilent = true ∧ c'.written = c.written
  ended : c.ending?.isSome = true → c' = c

theorem Child.Becomes.refl (c : Child) : c.Becomes c where
  written := List.prefix_refl c.written
  silent := fun h => ⟨h, rfl⟩
  ended := fun _ => rfl

theorem Child.isSilent_of_ended {c : Child} (h : c.ending?.isSome = true) : c.isSilent = true := by
  simp [Child.isSilent, h]

/-- A child that still runs and has not written more can fall silent in any way. -/
theorem Child.becomes_of_runs {c c' : Child} (hruns : c.ending? = none)
    (hwritten : c'.written = c.written) (hsilent : c'.isSilent = true) : c.Becomes c' where
  written := hwritten ▸ List.prefix_refl c.written
  silent := fun _ => ⟨hsilent, hwritten⟩
  ended := fun h => by simp [hruns] at h

theorem Child.becomes_kill (c : Child) : c.Becomes c.kill := by
  cases hending : c.ending? with
  | none =>
      have hkill : c.kill = { c with ending? := some .killed } := by
        rw [Child.kill, hending]
      rw [hkill]
      exact Child.becomes_of_runs hending rfl (Child.isSilent_of_ended rfl)
  | some ending =>
      have hkill : c.kill = c := by rw [Child.kill, hending]
      rw [hkill]
      exact .refl c

theorem Steps.child {s s' : State} {m : Move} (h : Steps s m s') : s.child.Becomes s'.child := by
  cases h with
  | write bytes hruns hopen =>
      have hloud : s.child.isSilent = false := by simp [Child.isSilent, hruns, hopen]
      exact ⟨List.prefix_append .., fun h => by simp [hloud] at h, fun h => by simp [hruns] at h⟩
  | closeOutput hruns => exact Child.becomes_of_runs hruns rfl rfl
  | exit code hruns => exact Child.becomes_of_runs hruns rfl (Child.isSilent_of_ended rfl)
  | die hruns => exact Child.becomes_of_runs hruns rfl (Child.isSilent_of_ended rfl)
  | kill | strike => exact s.child.becomes_kill
  | _ => exact .refl s.child

/-! ## The watchdog -/

def Move.isWatchdogs : Move → Bool
  | .hear | .expire | .strike | .strikeFails => true
  | _ => false

/-- What the watchdog has done so far, with a timeout or without. -/
inductive Watched : Bool → Watchdog → List Move → Prop
  | absent : Watched false .absent []
  | waiting : Watched true .waiting []
  | expired : Watched true .expired [.expire]
  | heard : Watched true (.ended false) [.hear]
  | struck : Watched true (.ended true) [.expire, .strike]
  | missed : Watched true (.ended false) [.expire, .strikeFails]

theorem Steps.watched {s s' : State} {m : Move} (h : Steps s m s') {timed : Bool}
    {moves : List Move} (hw : Watched timed s.watchdog moves) :
    Watched timed s'.watchdog (moves ++ [m].filter Move.isWatchdogs) := by
  cases h with
  | hear hwaits =>
      rw [hwaits] at hw
      cases hw
      exact .heard
  | expire hwaits =>
      rw [hwaits] at hw
      cases hw
      exact .expired
  | strike hexpired =>
      rw [hexpired] at hw
      cases hw
      exact .struck
  | strikeFails hexpired =>
      rw [hexpired] at hw
      cases hw
      exact .missed
  | _ => simpa [Move.isWatchdogs] using hw

/-! ## The main party -/

/-- Is it a move by which main goes on to its next phase? -/
def Move.isTurn : Move → Bool
  | .readEnd | .readFails | .kill | .killFails | .wait | .notify | .join => true
  | _ => false

/-- How main got through with reading. -/
inductive HasRead (s : State) : List Move → Prop
  | whole (hread : s.readFailed = false) (hall : s.collected = s.child.written)
      (hsilent : s.child.isSilent = true) : HasRead s [.readEnd]
  | failed {attempt : Move} (hread : s.readFailed = true)
      (hattempt : attempt = .kill ∨ attempt = .killFails) : HasRead s [.readFails, attempt]

/-- What main has done so far, and what it found, by the phase that it is in. -/
inductive Came (s : State) : Phase → List Move → Prop
  | reading (hread : s.readFailed = false) (hfront : s.collected <+: s.child.written) :
      Came s .reading []
  | killing (hread : s.readFailed = true) : Came s .killing [.readFails]
  | waiting {turns : List Move} (hread : HasRead s turns) : Came s .waiting turns
  | notifying {turns : List Move} (hread : HasRead s turns)
      (hended : s.child.ending?.isSome = true) (hreaped : s.reaped = true) :
      Came s .notifying (turns ++ [.wait])
  | joining {turns : List Move} (hread : HasRead s turns)
      (hended : s.child.ending?.isSome = true) (hreaped : s.reaped = true)
      (hnotified : s.notified = true) : Came s .joining (turns ++ [.wait, .notify])
  | finished {turns : List Move} (hread : HasRead s turns)
      (hended : s.child.ending?.isSome = true) (hreaped : s.reaped = true)
      (hover : s.watchdog.isOver = true) :
      Came s (.finished s.verdict) (turns ++ [.wait, .notify, .join])

/-- The other parties do not touch what main knows. -/
structure Apart (s s' : State) : Prop where
  child : s.child.Becomes s'.child
  watchdog : s.watchdog.isOver = true → s'.watchdog = s.watchdog
  phase : s'.phase = s.phase
  collected : s'.collected = s.collected
  readFailed : s'.readFailed = s.readFailed
  reaped : s'.reaped = s.reaped
  notified : s'.notified = s.notified

variable {s s' : State} {m : Move} {turns : List Move}

theorem HasRead.apart (h : HasRead s turns) (hchild : s.child.Becomes s'.child)
    (hcollected : s'.collected = s.collected) (hread : s'.readFailed = s.readFailed) :
    HasRead s' turns := by
  cases h with
  | whole hwhole hall hsilent =>
      obtain ⟨hsilent', hwritten⟩ := hchild.silent hsilent
      exact .whole (by rw [hread, hwhole]) (by rw [hcollected, hall, hwritten]) hsilent'
  | failed hfailed hattempt => exact .failed (by rw [hread, hfailed]) hattempt

theorem Came.apart {phase : Phase} (h : Came s phase turns) (hapart : Apart s s') :
    Came s' phase turns := by
  have hend : s.child.ending?.isSome = true → s'.child.ending?.isSome = true := fun hended => by
    rw [hapart.child.ended hended, hended]
  have hhas : ∀ {turns}, HasRead s turns → HasRead s' turns := fun hread =>
    hread.apart hapart.child hapart.collected hapart.readFailed
  cases h with
  | reading hread hfront =>
      refine .reading (by rw [hapart.readFailed, hread]) ?_
      rw [hapart.collected]
      exact hfront.trans hapart.child.written
  | killing hread => exact .killing (by rw [hapart.readFailed, hread])
  | waiting hread => exact .waiting (hhas hread)
  | notifying hread hended hreaped =>
      exact .notifying (hhas hread) (hend hended) (by rw [hapart.reaped, hreaped])
  | joining hread hended hreaped hnotified =>
      exact .joining (hhas hread) (hend hended) (by rw [hapart.reaped, hreaped])
        (by rw [hapart.notified, hnotified])
  | finished hread hended hreaped hover =>
      have hverdict : s.verdict = s'.verdict := by
        simp only [State.verdict, hapart.readFailed, hapart.collected, hapart.watchdog hover,
          hapart.child.ended hended]
      rw [hverdict]
      refine .finished (hhas hread) (hend hended) (by rw [hapart.reaped, hreaped]) ?_
      rw [hapart.watchdog hover, hover]

theorem Steps.apart (h : Steps s m s') (hm : m.isTurn = false) (hread : ∀ count, m ≠ .read count) :
    Apart s s' := by
  have hchild := h.child
  cases h with
  | readEnd | readFails | kill | killFails | wait | notify | join => cases hm
  | read count => exact absurd rfl (hread count)
  | write | closeOutput | exit | die => exact ⟨hchild, fun _ => rfl, rfl, rfl, rfl, rfl, rfl⟩
  | hear hpending | expire hpending | strike hpending | strikeFails hpending =>
      -- a watchdog that is over does not move
      exact ⟨hchild, fun hover => by simp [hpending, Watchdog.isOver] at hover, rfl, rfl, rfl, rfl,
        rfl⟩

theorem Steps.came (h : Steps s m s') (hcame : Came s s.phase turns) :
    Came s' s'.phase (turns ++ [m].filter Move.isTurn) := by
  by_cases hm : m.isTurn = false ∧ ∀ count, m ≠ .read count
  · -- the child or the watchdog moves, and main's past is as it was
    have hapart : Apart s s' := h.apart hm.1 hm.2
    rw [hapart.phase, List.filter_cons_of_neg (by simp [hm.1]), List.filter_nil, List.append_nil]
    exact hcame.apart hapart
  · -- main moves, from the one phase that the move starts in
    have hkeeps : ∀ {s' : State} {turns}, HasRead s turns → s'.child = s.child →
        s'.collected = s.collected → s'.readFailed = s.readFailed → HasRead s' turns :=
      fun hread hchild => hread.apart (hchild ▸ .refl _)
    cases h with
    | read count hphase hcount =>
        rw [hphase] at hcame
        cases hcame with
        | reading hread =>
            show Came _ s.phase _
            rw [hphase]
            exact .reading hread (List.take_prefix ..)
    | readEnd hphase hall hsilent =>
        rw [hphase] at hcame
        cases hcame with
        | reading hread hfront =>
            exact .waiting (.whole hread (hfront.eq_of_length hall) hsilent)
    | readFails hphase =>
        rw [hphase] at hcame
        cases hcame with
        | reading => exact .killing rfl
    | kill hphase =>
        rw [hphase] at hcame
        cases hcame with
        | killing hread => exact .waiting (.failed hread (.inl rfl))
    | killFails hphase =>
        rw [hphase] at hcame
        cases hcame with
        | killing hread => exact .waiting (.failed hread (.inr rfl))
    | wait hphase hended =>
        rw [hphase] at hcame
        cases hcame with
        | waiting hread => exact .notifying (hkeeps hread rfl rfl rfl) hended rfl
    | notify hphase =>
        rw [hphase] at hcame
        cases hcame with
        | notifying hread hended hreaped =>
            rw [List.append_assoc]
            exact .joining (hkeeps hread rfl rfl rfl) hended hreaped rfl
    | join hphase hover =>
        rw [hphase] at hcame
        cases hcame with
        | joining hread hended hreaped =>
            rw [List.append_assoc]
            exact .finished (hkeeps hread rfl rfl rfl) hended hreaped hover
    | _ => simp [Move.isTurn] at hm

/-! ## Histories -/

theorem moves?_append (s : State) (first rest : List Move) :
    s.moves? (first ++ rest) = (s.moves? first).bind fun next => next.moves? rest := by
  induction first generalizing s with
  | nil => rfl
  | cons m first ih =>
      simp only [List.cons_append, State.moves?, Option.bind_assoc, ih]

/-- What main did in a history, apart from reading piece by piece. -/
def mainTurns (moves : List Move) : List Move :=
  moves.filter Move.isTurn

/-- What the watchdog did in a history. -/
def watchdogActs (moves : List Move) : List Move :=
  moves.filter Move.isWatchdogs

/-- What the state tells about the moves that led to it. -/
structure Tells (timed : Bool) (moves : List Move) (s : State) : Prop where
  main : Came s s.phase (mainTurns moves)
  watchdog : Watched timed s.watchdog (watchdogActs moves)

theorem tells_initial (timed : Bool) : Tells timed [] (State.initial timed) where
  main := .reading rfl (List.prefix_refl [])
  watchdog := by
    cases timed with
    | false => exact .absent
    | true => exact .waiting

theorem Tells.step {timed : Bool} {moves : List Move} (h : Tells timed moves s)
    (hstep : Steps s m s') : Tells timed (moves ++ [m]) s' where
  main := by
    rw [mainTurns, List.filter_append]
    exact hstep.came h.main
  watchdog := by
    rw [watchdogActs, List.filter_append]
    exact hstep.watched h.watchdog

theorem tells_of_moves? {timed : Bool} {moves : List Move}
    (h : (State.initial timed).moves? moves = some s) : Tells timed moves s := by
  -- on the history from its end, since the state is what the last move left
  induction moves using List.reverseRecOn generalizing s with
  | nil =>
      cases h
      exact tells_initial timed
  | append_singleton moves m ih =>
      rw [moves?_append, Option.bind_eq_some_iff] at h
      obtain ⟨before, hbefore, hlast⟩ := h
      have hstep : Steps before m s := by
        rw [← move?_eq_some_iff]
        simpa [State.moves?] using hlast
      exact (ih hbefore).step hstep

/-! ## Progress -/

def Phase.rank : Phase → Nat
  | .reading => 5
  | .killing => 4
  | .waiting => 3
  | .notifying => 2
  | .joining => 1
  | .finished _ => 0

def Watchdog.rank : Watchdog → Nat
  | .waiting => 2
  | .expired => 1
  | .absent | .ended _ => 0

/-- More than main and the watchdog can still do, once the child has ended. -/
def State.rank (s : State) : Nat :=
  s.child.written.length - s.collected.length + s.phase.rank + s.watchdog.rank

theorem Steps.rank_lt (h : Steps s m s') (hended : s.child.ending?.isSome = true)
    (hm : m ≠ .read 0) : s'.rank < s.rank := by
  have hchild : s'.child = s.child := h.child.ended hended
  unfold State.rank
  rw [hchild]
  cases h with
  | write _ hruns | closeOutput hruns | exit _ hruns | die hruns => simp [hruns] at hended
  | read count hphase hcount =>
      have hpos : count ≠ 0 := fun hzero => hm (by rw [hzero])
      dsimp only
      rw [List.length_take, Nat.min_eq_left hcount]
      omega
  | readEnd hphase | readFails hphase | kill hphase | killFails hphase | wait hphase
  | notify hphase | join hphase =>
      rw [hphase]
      simp only [Phase.rank]
      omega
  | hear hwatchdog | expire hwatchdog | strike hwatchdog | strikeFails hwatchdog =>
      rw [hwatchdog]
      simp only [Watchdog.rank]
      omega

/-- Unless all is over, some party can go on. -/
theorem Tells.exists_step {timed : Bool} {moves : List Move} (h : Tells timed moves s)
    (hended : s.child.ending?.isSome = true) (hphase : ∀ v, s.phase ≠ .finished v) :
    ∃ m s', m ≠ .read 0 ∧ Steps s m s' := by
  have hmain := h.main
  generalize hnow : s.phase = phase at hmain
  generalize mainTurns moves = turns at hmain
  cases hmain with
  | reading hread hfront =>
      by_cases hall : s.collected.length = s.child.written.length
      · exact ⟨.readEnd, _, nofun, .readEnd hnow hall (Child.isSilent_of_ended hended)⟩
      · have hle : s.collected.length ≤ s.child.written.length := hfront.length_le
        refine ⟨.read (s.child.written.length - s.collected.length), _, ?_,
          .read _ hnow (by omega)⟩
        intro hzero
        have : s.child.written.length - s.collected.length = 0 := Move.read.inj hzero
        omega
  | killing => exact ⟨.kill, _, nofun, .kill hnow⟩
  | waiting => exact ⟨.wait, _, nofun, .wait hnow hended⟩
  | notifying => exact ⟨.notify, _, nofun, .notify hnow⟩
  | joining _ _ _ hnotified =>
      -- main waits for a watchdog that can hear it or still has to kill
      have hwatchdog := h.watchdog
      generalize hguard : s.watchdog = watchdog at hwatchdog
      generalize watchdogActs moves = acts at hwatchdog
      cases hwatchdog with
      | waiting => exact ⟨.hear, _, nofun, .hear hguard hnotified⟩
      | expired => exact ⟨.strike, _, nofun, .strike hguard⟩
      | absent | heard | struck | missed =>
          exact ⟨.join, _, nofun, .join hnow (by rw [hguard]; rfl)⟩
  | finished => exact absurd hnow (hphase _)

/-- Once the child has ended, there is an end to what the others do. -/
theorem length_le_rank {rest : List Move} (hended : s.child.ending?.isSome = true)
    (hrest : .read 0 ∉ rest) (h : s.moves? rest = some s') : rest.length ≤ s.rank := by
  induction rest generalizing s with
  | nil => exact Nat.zero_le _
  | cons m rest ih =>
      rw [List.mem_cons, not_or] at hrest
      obtain ⟨next, hnext, hlast⟩ := Option.bind_eq_some_iff.mp h
      have hstep : Steps s m next := move?_eq_some_iff.mp hnext
      have hlength : rest.length ≤ next.rank :=
        ih (by rw [hstep.child.ended hended, hended]) hrest.2 hlast
      have hrank : next.rank < s.rank := hstep.rank_lt hended (Ne.symm hrest.1)
      rw [List.length_cons]
      omega

theorem Tells.exists_finished {timed : Bool} {moves : List Move} (h : Tells timed moves s)
    (hended : s.child.ending?.isSome = true) :
    ∃ rest s' v, s.moves? rest = some s' ∧ s'.phase = .finished v := by
  -- as long as there is no verdict, some move is possible, and it lowers the rank
  induction hrank : s.rank using Nat.strongRecOn generalizing s moves with
  | _ rank ih =>
      by_cases hphase : ∃ v, s.phase = .finished v
      · obtain ⟨v, hv⟩ := hphase
        exact ⟨[], s, v, rfl, hv⟩
      · rw [not_exists] at hphase
        obtain ⟨m, next, hm, hstep⟩ := h.exists_step hended hphase
        have hlt : next.rank < rank := hrank ▸ hstep.rank_lt hended hm
        obtain ⟨rest, s', v, hrest, hv⟩ :=
          ih next.rank hlt (h.step hstep) (by rw [hstep.child.ended hended, hended]) rfl
        refine ⟨m :: rest, s', v, ?_, hv⟩
        rw [State.moves?, move?_eq_some_iff.mpr hstep]
        exact hrest

theorem Child.ended_kill (c : Child) : c.kill.ending?.isSome = true := by
  cases hending : c.ending? with
  | none => simp [Child.kill, hending]
  | some ending => simp [Child.kill, hending]

/-- A watchdog that has not acted yet can still end the child. -/
theorem Tells.exists_finished_of_watchdog {timed : Bool} {moves : List Move}
    (h : Tells timed moves s) (hwatchdog : s.watchdog = .waiting ∨ s.watchdog = .expired) :
    ∃ rest s' v, s.moves? rest = some s' ∧ s'.phase = .finished v := by
  have hexpired : ∀ {moves s}, Tells timed moves s → s.watchdog = .expired →
      ∃ rest s' v, s.moves? rest = some s' ∧ s'.phase = .finished v := by
    intro moves s h hwatchdog
    have hstrike : Steps s .strike _ := .strike hwatchdog
    obtain ⟨rest, s', v, hrest, hv⟩ := (h.step hstrike).exists_finished s.child.ended_kill
    exact ⟨.strike :: rest, s', v, by rw [State.moves?, move?_eq_some_iff.mpr hstrike]; exact hrest,
      hv⟩
  rcases hwatchdog with hwaiting | hwatchdog
  · have hexpire : Steps s .expire _ := .expire hwaiting
    obtain ⟨rest, s', v, hrest, hv⟩ := hexpired (h.step hexpire) rfl
    exact ⟨.expire :: rest, s', v, by rw [State.moves?, move?_eq_some_iff.mpr hexpire]; exact hrest,
      hv⟩
  · exact hexpired h hwatchdog

/-- When main has its verdict, nothing moves any more. -/
theorem Tells.still {timed : Bool} {moves : List Move} (h : Tells timed moves s) {v : Verdict}
    (hphase : s.phase = .finished v) (m : Move) : s.move? m = none := by
  have hmain := h.main
  rw [hphase] at hmain
  generalize mainTurns moves = turns at hmain
  refine Option.eq_none_iff_forall_ne_some.mpr fun s' hmove => ?_
  cases hmain with
  | finished _ hended _ hover =>
      cases move?_eq_some_iff.mp hmove with
      | write _ hruns | closeOutput hruns | exit _ hruns | die hruns => simp [hruns] at hended
      | read _ hother | readEnd hother | readFails hother | kill hother | killFails hother
      | wait hother | notify hother | join hother =>
          rw [hphase] at hother
          cases hother
      | hear hwatchdog | expire hwatchdog | strike hwatchdog | strikeFails hwatchdog =>
          simp [hwatchdog, Watchdog.isOver] at hover

end SmtScript.Solver.Supervision
