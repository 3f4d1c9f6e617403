import SmtScript.Number.Shortest
import Mathlib.Algebra.Order.Field.Power
import Mathlib.Tactic.Linarith
import Mathlib.Tactic.NormNum

/-!
# The shortest number of a range is the shortest

A range around a value has a multiple of some step if and only if it has one of the two next to the
value. So the number that is picked is a multiple of the highest power of ten that has one in the
range. No decimal in the range has fewer digits: behind it and before the number that was picked
there would be a power of ten, which would have been higher.
-/

namespace SmtScript.Decimal.Range

variable {r : Range} {value n x y : Nat}

/-- Is the number in the range, be it whole or not? -/
def Holds (r : Range) (x : ℚ) : Prop :=
  if r.closed then r.low ≤ x ∧ x ≤ r.high else r.low < x ∧ x < r.high

theorem contains_iff : r.contains n = true ↔ r.Holds n := by
  unfold contains Holds
  cases r.closed <;> simp

theorem Holds.of_between {a b c : ℚ} (ha : r.Holds a) (hc : r.Holds c) (hab : a ≤ b)
    (hbc : b ≤ c) : r.Holds b := by
  unfold Holds at *
  split_ifs at * with hclosed
  · exact ⟨ha.1.trans hab, hbc.trans hc.2⟩
  · exact ⟨ha.1.trans_le hab, hbc.trans_lt hc.2⟩

theorem Holds.pos {a : ℚ} (ha : r.Holds a) (hlow : 0 < r.low) : 0 < a := by
  have hlow' : (0 : ℚ) < r.low := by exact_mod_cast hlow
  unfold Holds at ha
  split_ifs at ha
  · exact hlow'.trans_le ha.1
  · exact hlow'.trans ha.1

theorem contains_of_between (hx : r.contains x = true) (hy : r.contains y = true) (hxn : x ≤ n)
    (hny : n ≤ y) : r.contains n = true := by
  rw [contains_iff] at *
  exact hx.of_between hy (by exact_mod_cast hxn) (by exact_mod_cast hny)

/-! ## Multiples -/

section Multiple

variable {step m : Nat}

theorem contains_of_multiple? (h : r.multiple? value step = some n) : r.contains n = true := by
  unfold multiple? at h
  dsimp only at h
  split_ifs at h with hdown hnear hup
  all_goals cases h
  · exact (Bool.and_eq_true _ _ ▸ hnear).1
  · exact hdown
  · exact hup

theorem dvd_of_multiple? (h : r.multiple? value step = some n) : step ∣ n := by
  have hdown : step ∣ value / step * step := Nat.dvd_mul_left step _
  unfold multiple? at h
  dsimp only at h
  split_ifs at h
  all_goals cases h
  · exact Nat.dvd_add hdown (Nat.dvd_refl step)
  · exact hdown
  · exact Nat.dvd_add hdown (Nat.dvd_refl step)

/-- Where there is a multiple in the range there is one next to the value. -/
theorem not_contains_of_multiple? (hvalue : r.contains value = true) (hstep : 0 < step)
    (h : r.multiple? value step = none) (m : Nat) : r.contains (m * step) = false := by
  have hle : value / step * step ≤ value := Nat.div_mul_le_self value step
  have hlt : value < value / step * step + step := by
    have hmod := Nat.mod_lt value hstep
    have hdiv := Nat.div_add_mod' value step
    omega
  unfold multiple? at h
  dsimp only at h
  split_ifs at h with hdown hnear hup
  rw [Bool.eq_false_iff]
  intro hm
  rcases Nat.lt_or_ge value (m * step) with habove | hbelow
  · refine hup (contains_of_between hvalue hm hlt.le ?_)
    have hquot : value / step < m := (Nat.div_lt_iff_lt_mul hstep).mpr habove
    calc value / step * step + step = (value / step + 1) * step := (Nat.succ_mul _ _).symm
      _ ≤ m * step := Nat.mul_le_mul_right step hquot
  · refine hdown (contains_of_between hm hvalue ?_ hle)
    exact Nat.mul_le_mul_right step ((Nat.le_div_iff_mul_le hstep).mpr hbelow)

end Multiple

/-! ## The highest power of ten -/

theorem shortestFrom_spec (hvalue : r.contains value = true) (zeros : Nat) :
    r.contains (r.shortestFrom value zeros) = true ∧ ∃ z, 10 ^ z ∣ r.shortestFrom value zeros ∧
      ∀ z', z < z' → z' ≤ zeros → ∀ m, r.contains (m * 10 ^ z') = false := by
  induction zeros with
  | zero => exact ⟨hvalue, 0, ⟨value, by rw [pow_zero, Nat.one_mul]; rfl⟩, by omega⟩
  | succ zeros ih =>
      cases hmultiple : r.multiple? value (Nat.pow 10 (zeros + 1)) with
      | some n =>
          have hfound : r.shortestFrom value (zeros + 1) = n := by
            rw [shortestFrom, hmultiple]
          rw [hfound]
          exact ⟨contains_of_multiple? hmultiple, zeros + 1, dvd_of_multiple? hmultiple, by omega⟩
      | none =>
          have hrest : r.shortestFrom value (zeros + 1) = r.shortestFrom value zeros := by
            rw [shortestFrom, hmultiple]
          obtain ⟨hcontains, z, hdvd, hnone⟩ := ih
          rw [hrest]
          refine ⟨hcontains, z, hdvd, fun z' hz hle m => ?_⟩
          rcases Nat.lt_or_ge zeros z' with hlast | hless
          · obtain rfl : z' = zeros + 1 := by omega
            exact not_contains_of_multiple? hvalue (Nat.pow_pos (by decide)) hmultiple m
          · exact hnone z' hz hless m

theorem low_le_of_contains (h : r.contains n = true) : r.low ≤ n := by
  unfold contains at h
  split_ifs at h
  all_goals simp only [Bool.and_eq_true, decide_eq_true_eq] at h; omega

theorem le_high_of_contains (h : r.contains n = true) : n ≤ r.high := by
  unfold contains at h
  split_ifs at h
  all_goals simp only [Bool.and_eq_true, decide_eq_true_eq] at h; omega

/-- No higher power of ten has a multiple in the range than that of the number picked. -/
theorem shortest_spec (hvalue : r.contains value = true) (hlow : 0 < r.low) :
    r.contains (r.shortest value) = true ∧ ∃ z, 10 ^ z ∣ r.shortest value ∧
      ∀ z', z < z' → ∀ m, r.contains (m * 10 ^ z') = false := by
  obtain ⟨hcontains, z, hdvd, hnone⟩ := shortestFrom_spec hvalue (Nat.toDigits 10 r.high).length
  refine ⟨hcontains, z, hdvd, fun z' hz m => ?_⟩
  rcases Nat.lt_or_ge (Nat.toDigits 10 r.high).length z' with hlong | hshort
  · -- a multiple of so high a power is too great, unless it is zero
    rw [Bool.eq_false_iff]
    intro hm
    have hhigh : r.high < 10 ^ z' :=
      (Nat.length_toDigits_le_iff (by decide) (by omega)).mp hlong.le
    have hle := le_high_of_contains hm
    have hpos := hlow.trans_le (low_le_of_contains hm)
    exact absurd (Nat.le_mul_of_pos_left (10 ^ z') (Nat.pos_of_mul_pos_right hpos)) (by omega)
  · exact hnone z' hz hshort m

/-- **The shortest number of a range.** It is in the range, and it is a number of digits and zeros
behind them. Any decimal in the range has as many digits. -/
theorem exists_shortest (hvalue : r.contains value = true) (hlow : 0 < r.low) :
    r.contains (r.shortest value) = true ∧ ∃ m z : Nat, r.shortest value = m * 10 ^ z ∧
      ∀ (d k : Nat) (e : ℤ), r.Holds (d * 10 ^ e) → d < 10 ^ k → m < 10 ^ k := by
  obtain ⟨hcontains, z, ⟨m, hm⟩, hnone⟩ := shortest_spec hvalue hlow
  rw [Nat.mul_comm] at hm
  refine ⟨hcontains, m, z, hm, fun d k e hd hdigits => ?_⟩
  by_contra hmore
  -- the other decimal does not end in more zeros
  have hzeros : e ≤ z := by
    by_contra hgreater
    obtain ⟨z', rfl⟩ : ∃ z' : Nat, e = z' := ⟨e.toNat, by omega⟩
    have hfalse := hnone z' (by omega) d
    rw [Bool.eq_false_iff, ne_eq, contains_iff] at hfalse
    push_cast at hfalse
    exact hfalse (by simpa using hd)
  -- so the power of ten that it is too short for is between the two
  have hbelow : (d : ℚ) * 10 ^ e ≤ (10 ^ (k + z) : Nat) := by
    have hd' : (d : ℚ) ≤ 10 ^ k := by exact_mod_cast hdigits.le
    have hpow : (10 : ℚ) ^ e ≤ 10 ^ z := by
      rw [← zpow_natCast]
      exact zpow_le_zpow_right₀ (by norm_num) hzeros
    push_cast
    rw [pow_add]
    exact mul_le_mul hd' hpow (by positivity) (by positivity)
  have habove : 10 ^ (k + z) ≤ r.shortest value := by
    rw [hm, pow_add]
    exact Nat.mul_le_mul_right _ (by omega)
  have hpower : r.contains (10 ^ (k + z)) = true :=
    contains_iff.mpr (hd.of_between (contains_iff.mp hcontains) hbelow (by exact_mod_cast habove))
  cases k with
  | zero =>
      obtain rfl : d = 0 := by simpa using hdigits
      simpa using hd.pos hlow
  | succ k =>
      have hfalse := hnone (k + 1 + z) (by omega) 1
      rw [Nat.one_mul, hpower] at hfalse
      cases hfalse

end SmtScript.Decimal.Range
