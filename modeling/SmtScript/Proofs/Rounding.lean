import SmtScript.Number.Binary
import SmtScript.Proofs.Shortest
import Mathlib.Tactic.FieldSimp
import Mathlib.Tactic.Ring

/-!
# Rounding to a binary format

The bits of a number without the sign bit count the values of a format upwards from zero: the next
number has the next value. So a number is rounded to a value if it is not behind the middle between
that and its neighbours, and on the middle only if the last bit is zero. The numbers that are rounded
to a value are just those from which its text is picked, also at a power of two, where the neighbour
below is nearer, among the subnormal values, and next to the infinity.
-/

namespace SmtScript.Binary.Format

variable {f : Format} {n m bits : Nat} {x : ℚ}

/-! ## Values -/

/-- What the exponent bits exceed the exponent by. -/
def bias (f : Format) : ℤ :=
  2 ^ (f.exponentBits - 1) - 1

/-- The value of the bits without the sign. Subnormal values have the least exponent and no leading
one. The bits of the infinity stand for the value that would come next. -/
def value (f : Format) (n : Nat) : ℚ :=
  let fraction : ℚ := (n % 2 ^ f.fractionBits : Nat) / 2 ^ f.fractionBits
  let exponent := n / 2 ^ f.fractionBits
  if exponent = 0 then fraction * 2 ^ (1 - f.bias) else (1 + fraction) * 2 ^ (exponent - f.bias)

/-- The bits of the infinity without the sign. -/
def infinity (f : Format) : Nat :=
  (2 ^ f.exponentBits - 1) * 2 ^ f.fractionBits

/-- Rounding to nearest, ties to even: no other value is nearer to the number, and if one is as near,
the last bit is zero. What is nearest to the value after the greatest is rounded to the infinity. -/
structure Rounds (f : Format) (x : ℚ) (n : Nat) : Prop where
  le_infinity : n ≤ f.infinity
  nearest : ∀ m ≤ f.infinity, |x - f.value n| ≤ |x - f.value m|
  even_of_tie : ∀ m ≤ f.infinity, m ≠ n → |x - f.value n| = |x - f.value m| → n % 2 = 0

/-! ## Units -/

/-- The significand with its leading one, if there is one. -/
def significand (f : Format) (n : Nat) : Nat :=
  if n / 2 ^ f.fractionBits = 0 then n % 2 ^ f.fractionBits
  else 2 ^ f.fractionBits + n % 2 ^ f.fractionBits

/-- How far the significand is shifted. The two least exponents are the same. -/
def shift (f : Format) (n : Nat) : Nat :=
  n / 2 ^ f.fractionBits - 1

/-- The value in units of the least positive one. -/
def units (f : Format) (n : Nat) : Nat :=
  f.significand n * 2 ^ f.shift n

theorem value_eq (hexponent : 2 ≤ f.exponentBits) (n : Nat) :
    f.value n = f.units n / 2 ^ f.places := by
  have htwo : (2 : ℚ) ≠ 0 := by norm_num
  obtain ⟨b, hb⟩ : ∃ b, 2 ^ (f.exponentBits - 1) = b + 2 := by
    obtain ⟨e, he⟩ : ∃ e, f.exponentBits - 1 = e + 1 := ⟨f.exponentBits - 2, by omega⟩
    have hpos : 0 < 2 ^ e := Nat.two_pow_pos e
    exact ⟨2 ^ (e + 1) - 2, by rw [he, pow_succ]; omega⟩
  have hplaces : f.places = b + f.fractionBits := by
    change 2 ^ (f.exponentBits - 1) - 2 + f.fractionBits = _
    omega
  have hbias : f.bias = b + 1 := by
    have hcast : (2 : ℤ) ^ (f.exponentBits - 1) = b + 2 := by exact_mod_cast hb
    rw [bias, hcast]
    ring
  -- the exponent of the leading one, in terms of the shift
  have hpower : ∀ s : Nat, (2 : ℚ) ^ ((s : ℤ) + 1 - f.bias) = 2 ^ s / 2 ^ b := by
    intro s
    rw [hbias, add_sub_add_right_eq_sub, zpow_sub₀ htwo, zpow_natCast, zpow_natCast]
  rw [value, units, significand, shift, hplaces, pow_add]
  split_ifs with hexponent
  · have hfirst := hpower 0
    rw [Nat.cast_zero, zero_add] at hfirst
    rw [hfirst, hexponent, Nat.zero_sub, Nat.pow_zero, Nat.mul_one]
    field_simp
  · obtain ⟨s, hs⟩ : ∃ s, n / 2 ^ f.fractionBits = s + 1 := Nat.exists_eq_succ_of_ne_zero hexponent
    rw [hs, Nat.cast_add_one, hpower s, Nat.add_sub_cancel]
    push_cast
    field_simp

section Fields

variable {fraction : Nat}

theorem exists_fields (f : Format) (n : Nat) : ∃ exponent fraction,
    n = 2 ^ f.fractionBits * exponent + fraction ∧ fraction < 2 ^ f.fractionBits :=
  ⟨n / 2 ^ f.fractionBits, n % 2 ^ f.fractionBits, (Nat.div_add_mod n _).symm,
    Nat.mod_lt n (Nat.two_pow_pos _)⟩

theorem significand_of_fields (exponent : Nat) (h : fraction < 2 ^ f.fractionBits) :
    f.significand (2 ^ f.fractionBits * exponent + fraction) =
      if exponent = 0 then fraction else 2 ^ f.fractionBits + fraction := by
  rw [significand, Nat.mul_add_mod, Nat.mod_eq_of_lt h, Nat.mul_add_div (Nat.two_pow_pos _),
    Nat.div_eq_of_lt h, Nat.add_zero]

theorem shift_of_fields (exponent : Nat) (h : fraction < 2 ^ f.fractionBits) :
    f.shift (2 ^ f.fractionBits * exponent + fraction) = exponent - 1 := by
  rw [shift, Nat.mul_add_div (Nat.two_pow_pos _), Nat.div_eq_of_lt h, Nat.add_zero]

/-- The significand is counted upwards. Where it would grow too long, the shift is. -/
theorem fields_succ (f : Format) (n : Nat) :
    f.significand (n + 1) = f.significand n + 1 ∧ f.shift (n + 1) = f.shift n ∨
      f.significand (n + 1) = 2 ^ f.fractionBits ∧
        f.significand n + 1 = 2 * 2 ^ f.fractionBits ∧ f.shift (n + 1) = f.shift n + 1 := by
  obtain ⟨exponent, fraction, rfl, hfraction⟩ := f.exists_fields n
  rw [significand_of_fields exponent hfraction, shift_of_fields exponent hfraction]
  rcases Nat.lt_or_ge (fraction + 1) (2 ^ f.fractionBits) with hmore | hfull
  · rw [Nat.add_assoc, significand_of_fields exponent hmore, shift_of_fields exponent hmore]
    left
    split_ifs <;> omega
  · have hnext : 2 ^ f.fractionBits * exponent + fraction + 1 =
        2 ^ f.fractionBits * (exponent + 1) + 0 := by
      rw [Nat.mul_succ]
      omega
    rw [hnext, significand_of_fields _ (Nat.two_pow_pos _), shift_of_fields _ (Nat.two_pow_pos _),
      if_neg (Nat.succ_ne_zero exponent)]
    split_ifs with hzero
    · left
      omega
    · right
      omega

end Fields

/-- The neighbour above is one unit of the last place away. -/
theorem units_succ (f : Format) (n : Nat) : f.units (n + 1) = f.units n + 2 ^ f.shift n := by
  rw [units, units]
  rcases f.fields_succ n with ⟨hsignificand, hshift⟩ | ⟨hsignificand, hfull, hshift⟩
  · rw [hsignificand, hshift, Nat.succ_mul]
  · calc f.significand (n + 1) * 2 ^ f.shift (n + 1)
        = (2 * 2 ^ f.fractionBits) * 2 ^ f.shift n := by rw [hsignificand, hshift, pow_succ]; ring
      _ = f.significand n * 2 ^ f.shift n + 2 ^ f.shift n := by rw [← hfull, Nat.succ_mul]

theorem strictMono_units (f : Format) : StrictMono f.units :=
  strictMono_nat_of_lt_succ fun n => by
    rw [units_succ]
    exact Nat.lt_add_of_pos_right (Nat.two_pow_pos _)

theorem strictMono_value (hexponent : 2 ≤ f.exponentBits) : StrictMono f.value := by
  intro m n h
  rw [value_eq hexponent, value_eq hexponent]
  exact div_lt_div_of_pos_right (by exact_mod_cast f.strictMono_units h) (by positivity)

/-! ## The numbers that are rounded to a value -/

section Nearer

variable {a b : ℚ}

theorem abs_sub_le_iff_of_lt (h : a < b) : |x - b| ≤ |x - a| ↔ a + b ≤ 2 * x := by
  rcases abs_cases (x - a) with ⟨ha, ha'⟩ | ⟨ha, ha'⟩ <;>
    rcases abs_cases (x - b) with ⟨hb, hb'⟩ | ⟨hb, hb'⟩ <;>
    rw [ha, hb] <;> constructor <;> intro _ <;> linarith

theorem abs_sub_le_iff_of_gt (h : a < b) : |x - a| ≤ |x - b| ↔ 2 * x ≤ a + b := by
  rcases abs_cases (x - a) with ⟨ha, ha'⟩ | ⟨ha, ha'⟩ <;>
    rcases abs_cases (x - b) with ⟨hb, hb'⟩ | ⟨hb, hb'⟩ <;>
    rw [ha, hb] <;> constructor <;> intro _ <;> linarith

end Nearer

theorem rounds_zero (hexponent : 2 ≤ f.exponentBits) : f.Rounds 0 0 := by
  have hzero : f.value 0 = 0 := by
    rw [value_eq hexponent, units, significand]
    simp
  refine ⟨Nat.zero_le _, fun m _ => ?_, fun _ _ _ _ => rfl⟩
  rw [hzero, sub_zero, abs_zero]
  exact abs_nonneg _

/-- What is rounded to a value lies between the middles to its neighbours, and is a middle only if
the last bit is zero. -/
theorem rounds_iff (hexponent : 2 ≤ f.exponentBits) (hpos : 0 < n) (hn : n < f.infinity) :
    f.Rounds x n ↔ if n % 2 = 0 then
        f.value (n - 1) + f.value n ≤ 2 * x ∧ 2 * x ≤ f.value n + f.value (n + 1)
      else f.value (n - 1) + f.value n < 2 * x ∧ 2 * x < f.value n + f.value (n + 1) := by
  have hmono := strictMono_value hexponent
  have hbelow : f.value (n - 1) < f.value n := hmono (by omega)
  have habove : f.value n < f.value (n + 1) := hmono (by omega)
  constructor
  · intro h
    have hlow := (abs_sub_le_iff_of_lt hbelow).mp (h.nearest (n - 1) (by omega))
    have hhigh := (abs_sub_le_iff_of_gt habove).mp (h.nearest (n + 1) hn)
    split_ifs with heven
    · exact ⟨hlow, hhigh⟩
    · refine ⟨lt_of_le_of_ne hlow fun htie => heven ?_, lt_of_le_of_ne hhigh fun htie => heven ?_⟩
      · refine h.even_of_tie (n - 1) (by omega) (by omega) (le_antisymm ?_ ?_)
        · exact (abs_sub_le_iff_of_lt hbelow).mpr htie.le
        · exact (abs_sub_le_iff_of_gt hbelow).mpr htie.ge
      · refine h.even_of_tie (n + 1) hn (by omega) (le_antisymm ?_ ?_)
        · exact (abs_sub_le_iff_of_gt habove).mpr htie.le
        · exact (abs_sub_le_iff_of_lt habove).mpr htie.ge
  · intro h
    have hlow : f.value (n - 1) + f.value n ≤ 2 * x := by
      split_ifs at h
      exacts [h.1, h.1.le]
    have hhigh : 2 * x ≤ f.value n + f.value (n + 1) := by
      split_ifs at h
      exacts [h.2, h.2.le]
    refine ⟨hn.le, fun m hm => ?_, fun m hm hne htie => ?_⟩
    · rcases Nat.lt_trichotomy m n with hless | rfl | hmore
      · refine (abs_sub_le_iff_of_lt (hmono hless)).mpr ?_
        linarith [hmono.monotone (show m ≤ n - 1 by omega)]
      · exact le_rfl
      · refine (abs_sub_le_iff_of_gt (hmono hmore)).mpr ?_
        linarith [hmono.monotone (show n + 1 ≤ m by omega)]
    · by_contra hodd
      rw [if_neg hodd] at h
      rcases Nat.lt_or_gt_of_ne hne with hless | hmore
      · have hmiddle := (abs_sub_le_iff_of_gt (hmono hless)).mp htie.ge
        linarith [h.1, hmono.monotone (show m ≤ n - 1 by omega)]
      · have hmiddle := (abs_sub_le_iff_of_lt (hmono hmore)).mp htie.ge
        linarith [h.2, hmono.monotone (show n + 1 ≤ m by omega)]

/-- **Rounding has one result.** -/
theorem Rounds.unique (hexponent : 2 ≤ f.exponentBits) (hm : f.Rounds x m) (hn : f.Rounds x n) :
    m = n := by
  have hmono := strictMono_value hexponent
  -- if there were two, both were even, and an odd one between them nearer
  have hless : ∀ {m n : Nat}, f.Rounds x m → f.Rounds x n → ¬ m < n := by
    intro m n hm hn hlt
    have htie : |x - f.value m| = |x - f.value n| :=
      le_antisymm (hm.nearest n hn.le_infinity) (hn.nearest m hm.le_infinity)
    have hevenm := hm.even_of_tie n hn.le_infinity hlt.ne' htie
    have hevenn := hn.even_of_tie m hm.le_infinity hlt.ne htie.symm
    have hbetween := hm.nearest (m + 1) (by have := hn.le_infinity; omega)
    rw [abs_sub_le_iff_of_gt (hmono (Nat.lt_succ_self m))] at hbetween
    have hmiddle := (abs_sub_le_iff_of_lt (hmono hlt)).mp htie.ge
    linarith [hmono (show m + 1 < n by omega)]
  exact le_antisymm (Nat.not_lt.mp (hless hn hm)) (Nat.not_lt.mp (hless hm hn))

/-! ## The range of a value -/

theorem le_significand_of_shift (h : 0 < f.shift n) : 2 ^ f.fractionBits ≤ f.significand n := by
  rw [shift] at h
  rw [significand, if_neg (by omega)]
  exact Nat.le_add_right _ _

theorem significand_mod_two (hfraction : 1 ≤ f.fractionBits) (n : Nat) :
    f.significand n % 2 = n % 2 := by
  have hdvd : 2 ∣ 2 ^ f.fractionBits := dvd_pow_self 2 (by omega)
  have hmod : n % 2 ^ f.fractionBits % 2 = n % 2 := Nat.mod_mod_of_dvd n hdvd
  rw [significand]
  split_ifs
  · exact hmod
  · rw [Nat.add_mod, Nat.mod_eq_zero_of_dvd hdvd, Nat.zero_add, Nat.mod_mod, hmod]

theorem gap_eq (f : Format) (s : Nat) : f.gap s = 2 * (50 * 5 ^ f.places * 2 ^ s) := by
  change 100 * (2 ^ s * 5 ^ f.places) = _
  ring

/-- The gap below a value is the gap above its neighbour below. -/
theorem gapBelow_succ (f : Format) (n : Nat) :
    f.gapBelow (f.significand (n + 1)) (f.shift (n + 1)) = f.gap (f.shift n) := by
  have hpow : Nat.pow 2 f.fractionBits = 2 ^ f.fractionBits := rfl
  rw [gapBelow, hpow]
  rcases f.fields_succ n with ⟨hsignificand, hshift⟩ | ⟨hsignificand, -, hshift⟩
  · rw [if_neg, hshift]
    rintro ⟨hleast, hlong⟩
    have hfull := le_significand_of_shift (hshift ▸ hlong)
    omega
  · have hdouble : f.gap (f.shift n + 1) = f.gap (f.shift n) * 2 := by
      rw [gap_eq, gap_eq, pow_succ]
      ring
    rw [if_pos ⟨hsignificand, by omega⟩, hshift, hdouble, Nat.mul_div_cancel _ (by decide)]

theorem scaled_eq (f : Format) (n : Nat) :
    f.scaled (f.significand n) (f.shift n) = 2 * (50 * 5 ^ f.places * f.units n) := by
  rw [scaled, gap_eq, units]
  ring

/-- The range of a value ends at the middles to its neighbours. -/
theorem rounding_succ (hfraction : 1 ≤ f.fractionBits) (n : Nat) :
    f.rounding (f.significand (n + 1)) (f.shift (n + 1)) =
      ⟨50 * 5 ^ f.places * (f.units n + f.units (n + 1)),
        50 * 5 ^ f.places * (f.units (n + 1) + f.units (n + 2)), (n + 1) % 2 == 0⟩ := by
  have hlow : f.scaled (f.significand (n + 1)) (f.shift (n + 1)) -
      f.gapBelow (f.significand (n + 1)) (f.shift (n + 1)) / 2 =
        50 * 5 ^ f.places * (f.units n + f.units (n + 1)) := by
    rw [scaled_eq, gapBelow_succ, gap_eq, Nat.mul_div_cancel_left _ (by decide), units_succ]
    refine Nat.sub_eq_of_eq_add ?_
    ring
  have hhigh : f.scaled (f.significand (n + 1)) (f.shift (n + 1)) + f.gap (f.shift (n + 1)) / 2 =
        50 * 5 ^ f.places * (f.units (n + 1) + f.units (n + 2)) := by
    rw [scaled_eq, gap_eq, Nat.mul_div_cancel_left _ (by decide), units_succ f (n + 1)]
    ring
  rw [rounding, hlow, hhigh, significand_mod_two hfraction]

/-- A number in units of `10 ^ -(places + 2)`. -/
theorem middle_eq (f : Format) (a b : Nat) : ((50 * 5 ^ f.places * (a + b) : Nat) : ℚ) =
    (a / 2 ^ f.places + b / 2 ^ f.places) / 2 * 10 ^ (f.places + 2) := by
  have hten : (10 : ℚ) ^ (f.places + 2) = 100 * (2 ^ f.places * 5 ^ f.places) := by
    rw [← mul_pow, pow_add]
    norm_num
    ring
  rw [hten]
  push_cast
  field_simp
  ring

/-- **The range of a value holds the numbers that are rounded to it.** -/
theorem rounds_iff_holds (hexponent : 2 ≤ f.exponentBits) (hfraction : 1 ≤ f.fractionBits)
    (hpos : 0 < n) (hn : n < f.infinity) : f.Rounds x n ↔
      (f.rounding (f.significand n) (f.shift n)).Holds (x * 10 ^ (f.places + 2)) := by
  obtain ⟨n, rfl⟩ : ∃ k, n = k + 1 := ⟨n - 1, by omega⟩
  have hten : (0 : ℚ) < 10 ^ (f.places + 2) := by positivity
  rw [rounds_iff hexponent hpos hn, rounding_succ hfraction, Decimal.Range.Holds,
    Nat.add_sub_cancel]
  simp only [middle_eq, ← value_eq hexponent, beq_iff_eq, mul_le_mul_iff_left₀ hten,
    mul_lt_mul_iff_left₀ hten]
  split_ifs
  · constructor <;> rintro ⟨hlow, hhigh⟩ <;> constructor <;> linarith
  · constructor <;> rintro ⟨hlow, hhigh⟩ <;> constructor <;> linarith

end SmtScript.Binary.Format
