import SmtScript.Stack

/-!
# A script is delivered whole, or up to where the sink is full

A sink takes a script in pieces, and a piece can end anywhere, also within a character. What the
sink has taken in the end does not depend on the pieces: it is as much of the script as there is
room for. The sink is flushed if that is the whole script, and in no other case.
-/

namespace SmtScript

open Utf8 (Bytes)

namespace Sink

variable {s : Sink} {taken left : Bytes} {result : Bytes × Option WriteError}

/-! ## Room -/

/-- How many of `offered` bytes all writes together take, after `taken` bytes. -/
def room (s : Sink) (taken offered : Nat) : Nat :=
  if s.chunk = some 0 then 0
  else
    match s.limit with
    | none => offered
    | some most => min offered (most - taken)

theorem room_le (s : Sink) (taken offered : Nat) : s.room taken offered ≤ offered := by
  unfold room
  split
  · exact Nat.zero_le offered
  · split
    · exact Nat.le_refl offered
    · exact Nat.min_le_left ..

theorem accepts_le (s : Sink) (taken offered : Nat) :
    s.accepts taken offered ≤ s.room taken offered := by
  unfold accepts room
  cases s.chunk <;> cases s.limit <;> grind

/-- A write is refused only if there is no room at all. -/
theorem accepts_eq_zero_iff (s : Sink) (taken offered : Nat) :
    s.accepts taken offered = 0 ↔ s.room taken offered = 0 := by
  unfold accepts room
  cases s.chunk <;> cases s.limit <;> grind

/-- A write that takes something leaves room for as much less. -/
theorem room_eq_add {taken offered count : Nat} (hpos : 0 < count)
    (hle : count ≤ s.accepts taken offered) :
    s.room taken offered = count + s.room (taken + count) (offered - count) := by
  have hroom : count ≤ s.room taken offered := Nat.le_trans hle (s.accepts_le taken offered)
  unfold room at hroom ⊢
  by_cases hchunk : s.chunk = some 0
  · rw [if_pos hchunk] at hroom
    omega
  · rw [if_neg hchunk] at hroom
    rw [if_neg hchunk, if_neg hchunk]
    cases hlimit : s.limit with
    | none =>
        simp only [hlimit] at hroom
        simp only
        omega
    | some most =>
        simp only [hlimit] at hroom
        simp only
        omega

/-! ## The pieces do not matter -/

/-- What can come of offering what is left again and again, if each write takes any positive number
of the bytes that it could. -/
inductive Writes (s : Sink) : Bytes → Bytes → Bytes × Option WriteError → Prop
  | done (taken : Bytes) : Writes s taken [] (taken, none)
  | refused {taken left : Bytes} : left ≠ [] → s.accepts taken.length left.length = 0 →
      Writes s taken left (taken, some s.refusal)
  | took {taken left : Bytes} {result : Bytes × Option WriteError} (count : Nat) : 0 < count →
      count ≤ s.accepts taken.length left.length →
      Writes s (taken ++ left.take count) (left.drop count) result → Writes s taken left result

/-- The loop takes at each write what it can. -/
theorem writes_writeAll (s : Sink) (taken left : Bytes) :
    s.Writes taken left (s.writeAll taken left) := by
  fun_induction writeAll s taken left with
  | case1 taken left hempty =>
      rw [List.isEmpty_iff.mp hempty]
      exact .done taken
  | case2 taken left hempty count hzero =>
      exact .refused (fun hnil => hempty (List.isEmpty_iff.mpr hnil)) hzero
  | case3 taken left hempty count hcount ih =>
      exact .took count (Nat.pos_of_ne_zero hcount) (Nat.le_refl count) ih

/-- All that there is room for is taken, and the error is for what is left over. -/
theorem Writes.eq (h : s.Writes taken left result) :
    result = (taken ++ left.take (s.room taken.length left.length),
      if s.room taken.length left.length = left.length then none else some s.refusal) := by
  induction h with
  | done taken => simp [Nat.le_zero.mp (s.room_le taken.length 0)]
  | @refused taken left hleft hzero =>
      have hroom : s.room taken.length left.length = 0 := (s.accepts_eq_zero_iff ..).mp hzero
      have hlength : left.length ≠ 0 := fun hzero => hleft (List.length_eq_zero_iff.mp hzero)
      rw [hroom, if_neg (Ne.symm hlength), List.take_zero, List.append_nil]
  | @took taken left result count hpos hle _ ih =>
      have hcount : count ≤ left.length :=
        Nat.le_trans (Nat.le_trans hle (s.accepts_le ..)) (s.room_le ..)
      have hroom := room_eq_add hpos hle
      rw [List.length_append, List.length_take, Nat.min_eq_left hcount, List.length_drop] at ih
      rw [ih, hroom, List.take_add, List.append_assoc]
      congr 1
      have hiff : s.room (taken.length + count) (left.length - count) = left.length - count ↔
          count + s.room (taken.length + count) (left.length - count) = left.length := by
        omega
      simp only [hiff]

theorem writeAll_eq (s : Sink) (bytes : Bytes) :
    s.writeAll [] bytes = (bytes.take (s.room 0 bytes.length),
      if s.room 0 bytes.length = bytes.length then none else some s.refusal) :=
  (s.writes_writeAll [] bytes).eq

/-! ## What was accepted -/

variable {bytes : Bytes}

theorem deliver_of_fits (h : s.room 0 bytes.length = bytes.length) :
    s.deliver bytes = ⟨bytes, some !s.failsToFlush,
      if s.failsToFlush then some .flushFailed else none⟩ := by
  rw [deliver, writeAll_eq, if_pos h, h, List.take_length]
  cases s.failsToFlush <;> rfl

theorem deliver_of_overflows (h : s.room 0 bytes.length ≠ bytes.length) :
    s.deliver bytes = ⟨bytes.take (s.room 0 bytes.length), none, some s.refusal⟩ := by
  rw [deliver, writeAll_eq, if_neg h]

theorem accepted_deliver (s : Sink) (bytes : Bytes) :
    (s.deliver bytes).accepted = bytes.take (s.room 0 bytes.length) := by
  by_cases h : s.room 0 bytes.length = bytes.length
  · rw [deliver_of_fits h, h, List.take_length]
  · rw [deliver_of_overflows h]

theorem length_take_room (s : Sink) (bytes : Bytes) :
    (bytes.take (s.room 0 bytes.length)).length = s.room 0 bytes.length := by
  rw [List.length_take, Nat.min_eq_left (s.room_le 0 bytes.length)]

theorem accepted_deliver_eq_iff :
    (s.deliver bytes).accepted = bytes ↔ s.room 0 bytes.length = bytes.length := by
  rw [accepted_deliver]
  constructor
  · intro h
    rw [← s.length_take_room bytes, h]
  · intro h
    rw [h, List.take_length]

theorem flush?_deliver_isSome_iff :
    (s.deliver bytes).flush?.isSome ↔ (s.deliver bytes).accepted = bytes := by
  rw [accepted_deliver_eq_iff]
  by_cases h : s.room 0 bytes.length = bytes.length
  · simp [deliver_of_fits h, h]
  · simp [deliver_of_overflows h, h]

theorem flush?_deliver {success : Bool} (h : (s.deliver bytes).flush? = some success) :
    success = !s.failsToFlush := by
  by_cases hfits : s.room 0 bytes.length = bytes.length
  · rw [deliver_of_fits hfits] at h
    exact (Option.some.inj h).symm
  · rw [deliver_of_overflows hfits] at h
    cases h

theorem error?_deliver_eq_none_iff : (s.deliver bytes).error? = none ↔
    (s.deliver bytes).accepted = bytes ∧ (s.deliver bytes).flush? = some true := by
  rw [accepted_deliver_eq_iff]
  by_cases h : s.room 0 bytes.length = bytes.length
  · simp [deliver_of_fits h, h]
  · simp [deliver_of_overflows h, h]

theorem error?_deliver {error : WriteError} (h : (s.deliver bytes).error? = some error) :
    error = if (s.deliver bytes).accepted = bytes then .flushFailed else s.refusal := by
  simp only [accepted_deliver_eq_iff]
  by_cases hfits : s.room 0 bytes.length = bytes.length
  · rw [deliver_of_fits hfits] at h
    rw [if_pos hfits]
    cases hflush : s.failsToFlush with
    | false => simp [hflush] at h
    | true => simpa [hflush] using h.symm
  · rw [deliver_of_overflows hfits] at h
    rw [if_neg hfits]
    exact (Option.some.inj h).symm

end Sink

namespace Stack

/-- **A script is delivered whole, or an honest part of it.** A stack without a text leaves the sink
alone. Otherwise the sink gets the first bytes of the script, as many as its limit lets through, in
pieces of whatever size. It is flushed exactly after all of them, and all is well exactly if that
succeeds too. An empty script is not written, but the sink is flushed. -/
theorem writeTo_delivers (stack : Stack) (g : Graph) (sink : Sink) :
    (∀ halt, stack.serialize g = .error halt → stack.writeTo g sink = .error halt) ∧
    ∀ script, stack.serialize g = .ok script → ∃ d, stack.writeTo g sink = .ok d ∧
      d.accepted <+: Utf8.ofString script ∧
      (sink.chunk ≠ some 0 → sink.limit = none → d.accepted = Utf8.ofString script) ∧
      (sink.chunk ≠ some 0 → ∀ most, sink.limit = some most →
        d.accepted.length = min most (Utf8.ofString script).length) ∧
      (sink.chunk = some 0 → d.accepted = []) ∧
      (∀ result, sink.Writes [] (Utf8.ofString script) result → result.1 = d.accepted ∧
        (result.2 = none ↔ d.accepted = Utf8.ofString script)) ∧
      (d.flush?.isSome ↔ d.accepted = Utf8.ofString script) ∧
      (∀ success, d.flush? = some success → success = !sink.failsToFlush) ∧
      (d.error? = none ↔ d.accepted = Utf8.ofString script ∧ d.flush? = some true) ∧
      (∀ error, d.error? = some error →
        error = if d.accepted = Utf8.ofString script then .flushFailed else sink.refusal) ∧
      (script = "" → d.accepted = [] ∧ d.flush?.isSome) := by
  refine ⟨fun halt hhalt => ?_, fun script hscript => ⟨sink.deliver (Utf8.ofString script), ?_, ?_⟩⟩
  · rw [writeTo, hhalt]
    rfl
  · rw [writeTo, hscript]
    rfl
  · generalize hbytes : Utf8.ofString script = bytes
    have haccepted : (sink.deliver bytes).accepted = bytes.take (sink.room 0 bytes.length) :=
      sink.accepted_deliver bytes
    have hlength := sink.length_take_room bytes
    refine ⟨?_, fun hchunk hlimit => ?_, fun hchunk most hlimit => ?_, fun hchunk => ?_,
      fun result hresult => ?_, Sink.flush?_deliver_isSome_iff, fun _ => Sink.flush?_deliver,
      Sink.error?_deliver_eq_none_iff, fun _ => Sink.error?_deliver, fun hscript => ?_⟩
    · rw [haccepted]
      exact List.take_prefix ..
    · rw [Sink.accepted_deliver_eq_iff, Sink.room, if_neg hchunk, hlimit]
    · rw [haccepted, hlength, Sink.room, if_neg hchunk, hlimit]
      exact Nat.min_comm ..
    · rw [haccepted, Sink.room, if_pos hchunk, List.take_zero]
    · rw [hresult.eq, Sink.accepted_deliver_eq_iff, haccepted]
      simp
    · have hempty : bytes = [] := by rw [← hbytes, hscript]; rfl
      have hnothing : (sink.deliver bytes).accepted = [] := by rw [haccepted, hempty, List.take_nil]
      rw [Sink.flush?_deliver_isSome_iff, hnothing]
      exact ⟨rfl, hempty.symm⟩

/-- A comment with a character of two bytes. -/
def accented : Stack :=
  ⟨[.comment ⟨"é", false⟩]⟩

/-- The sink is full after the first byte of the character. -/
theorem writeTo_accented : accented.serialize .empty = .ok "; é\n" ∧
    ∃ d, accented.writeTo .empty ⟨some 2, some 3, true, false⟩ = .ok d ∧
      d.accepted = [0x3B, 0x20, 0xC3] ∧ d.flush? = none ∧ d.error? = some .full := by
  have hscript : accented.serialize .empty = .ok "; é\n" := rfl
  obtain ⟨-, hdelivers⟩ := writeTo_delivers accented .empty ⟨some 2, some 3, true, false⟩
  obtain ⟨d, hd, hfront, -, hlimit, -, -, hflush, -, hok, herror, -⟩ := hdelivers _ hscript
  have haccepted : d.accepted = [0x3B, 0x20, 0xC3] := by
    rw [List.prefix_iff_eq_take.mp hfront, hlimit (by decide) 3 rfl]
    decide
  have hpart : d.accepted ≠ Utf8.ofString "; é\n" := by
    rw [haccepted]
    decide
  refine ⟨hscript, d, hd, haccepted, ?_, ?_⟩
  · exact Option.not_isSome_iff_eq_none.mp (mt hflush.mp hpart)
  · cases he : d.error? with
    | none => exact absurd (hok.mp he).1 hpart
    | some error => rw [herror error he, if_neg hpart]; rfl

end Stack

end SmtScript
