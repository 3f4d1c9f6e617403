import SmtScript.Draft
import SmtScript.Serialize
import SmtScript.Proofs.Rounding
import SmtScript.Proofs.Significance

/-!
# Floats read back

The text of a finite number is a decimal, perhaps with a minus sign. A reader that takes it exactly
and rounds it to the format has the bits again, the sign of a zero included. No decimal with fewer
significant digits would do.
-/

namespace SmtScript

namespace Decimal

/-! ## Signs -/

/-- The sign of a decimal and its value without the sign. -/
def signedValue? : List Char → Option (Bool × ℚ)
  | '-' :: digits => (value? digits).map (true, ·)
  | digits => (value? digits).map (false, ·)

variable {text digits : List Char} {negative : Bool} {x : ℚ}

theorem minus_not_mem_of_isPlain (h : IsPlain text) : '-' ∉ text := by
  rcases h with hdigits | ⟨whole, fraction, rfl, hwhole, hfraction, -⟩
  · exact not_mem_of_isDigit hdigits.2 rfl
  · rw [List.mem_append, List.mem_cons, not_or, not_or]
    exact ⟨not_mem_of_isDigit hwhole.2 rfl, by decide, not_mem_of_isDigit hfraction.2 rfl⟩

theorem signedValue?_sign (negative : Bool) (h : '-' ∉ digits) :
    signedValue? ((if negative then ['-'] else []) ++ digits) =
      (value? digits).map (negative, ·) := by
  cases negative with
  | true => rfl
  | false =>
      change signedValue? digits = _
      unfold signedValue?
      split
      · exact absurd List.mem_cons_self h
      · rfl

theorem significant_sign (negative : Bool) (digits : List Char) :
    significant ((if negative then ['-'] else []) ++ digits) = significant digits := by
  cases negative <;> rfl

/-- A sign is no digit. -/
theorem exists_of_signedValue? (h : signedValue? text = some (negative, x)) :
    ∃ digits, value? digits = some x ∧ significant digits = significant text := by
  unfold signedValue? at h
  split at h
  · rename_i digits
    obtain ⟨y, hy, heq⟩ := Option.map_eq_some_iff.mp h
    cases heq
    exact ⟨digits, hy, (significant_sign true digits).symm⟩
  · obtain ⟨y, hy, heq⟩ := Option.map_eq_some_iff.mp h
    cases heq
    exact ⟨text, hy, rfl⟩

end Decimal

namespace Binary.Format

open Decimal (IsPlain significant signedValue? value?)

variable {f : Format} {n m k bits other : Nat} {x : ℚ} {z : ℤ} {text : List Char}

/-! ## Bits -/

def isNegative (f : Format) (bits : Nat) : Bool :=
  bits / 2 ^ (f.fractionBits + f.exponentBits) % 2 == 1

/-- The bits without the sign bit. -/
def pattern (f : Format) (bits : Nat) : Nat :=
  bits % 2 ^ (f.fractionBits + f.exponentBits)

def signBit (f : Format) (negative : Bool) : Nat :=
  if negative then 2 ^ (f.fractionBits + f.exponentBits) else 0

/-- As many bits as the format has, and not all of the exponent bits set. -/
structure IsFinite (f : Format) (bits : Nat) : Prop where
  fits : bits < 2 ^ (f.fractionBits + f.exponentBits + 1)
  exponent_ne : bits / 2 ^ f.fractionBits % 2 ^ f.exponentBits ≠ 2 ^ f.exponentBits - 1

theorem pattern_div (f : Format) (bits : Nat) : f.pattern bits / 2 ^ f.fractionBits =
    bits / 2 ^ f.fractionBits % 2 ^ f.exponentBits := by
  rw [pattern, pow_add, Nat.mod_mul_right_div_self]

theorem pattern_mod (f : Format) (bits : Nat) :
    f.pattern bits % 2 ^ f.fractionBits = bits % 2 ^ f.fractionBits := by
  rw [pattern, pow_add, Nat.mod_mul_right_mod]

theorem decode_of_isFinite (h : f.IsFinite bits) : f.decode bits =
    .finite (f.isNegative bits) (f.significand (f.pattern bits)) (f.shift (f.pattern bits)) := by
  have hpow : ∀ k, Nat.pow 2 k = 2 ^ k := fun _ => rfl
  rw [decode]
  simp only [hpow, if_neg h.exponent_ne, significand, shift, isNegative, pattern_div, pattern_mod]
  split_ifs with hzero
  · rw [hzero]
  · rfl

theorem text_of_isFinite (h : f.IsFinite bits) :
    f.text bits = (if f.isNegative bits then ['-'] else []) ++
      f.magnitude (f.significand (f.pattern bits)) (f.shift (f.pattern bits)) := by
  rw [Format.text, decode_of_isFinite h]

theorem pattern_lt_infinity (h : f.IsFinite bits) : f.pattern bits < f.infinity := by
  have hlt : f.pattern bits / 2 ^ f.fractionBits < 2 ^ f.exponentBits := by
    rw [pattern_div]
    exact Nat.mod_lt _ (Nat.two_pow_pos _)
  have hne : f.pattern bits / 2 ^ f.fractionBits ≠ 2 ^ f.exponentBits - 1 := by
    rw [pattern_div]
    exact h.exponent_ne
  exact (Nat.div_lt_iff_lt_mul (Nat.two_pow_pos _)).mp (by omega)

theorem infinity_lt (f : Format) : f.infinity < 2 ^ (f.fractionBits + f.exponentBits) := by
  rw [infinity, pow_add, Nat.mul_comm]
  exact Nat.mul_lt_mul_of_pos_left (Nat.sub_lt (Nat.two_pow_pos _) Nat.one_pos)
    (Nat.two_pow_pos _)

theorem signBit_add_pattern (h : f.IsFinite bits) :
    f.signBit (f.isNegative bits) + f.pattern bits = bits := by
  have hdiv : bits / 2 ^ (f.fractionBits + f.exponentBits) < 2 := by
    refine (Nat.div_lt_iff_lt_mul (Nat.two_pow_pos _)).mpr ?_
    rw [Nat.mul_comm, ← pow_succ]
    exact h.fits
  have hmod := Nat.div_add_mod bits (2 ^ (f.fractionBits + f.exponentBits))
  rw [signBit, isNegative, Nat.mod_eq_of_lt hdiv, pattern]
  rcases Nat.lt_or_ge (bits / 2 ^ (f.fractionBits + f.exponentBits)) 1 with hzero | hone
  · rw [Nat.lt_one_iff.mp hzero] at hmod ⊢
    simpa using hmod
  · rw [show bits / 2 ^ (f.fractionBits + f.exponentBits) = 1 by omega] at hmod ⊢
    simpa using hmod

theorem pattern_signBit_add (negative : Bool) (hn : n ≤ f.infinity) :
    f.pattern (f.signBit negative + n) = n := by
  have hlt := hn.trans_lt f.infinity_lt
  rw [pattern, signBit]
  split_ifs
  · rw [Nat.add_mod_left, Nat.mod_eq_of_lt hlt]
  · rw [Nat.zero_add, Nat.mod_eq_of_lt hlt]

/-! ## Magnitudes -/

/-- A value is rounded to itself. -/
theorem rounds_value (hexponent : 2 ≤ f.exponentBits) (hn : n ≤ f.infinity) :
    f.Rounds (f.value n) n := by
  refine ⟨hn, fun m _ => ?_, fun m _ hne htie => ?_⟩
  · rw [sub_self, abs_zero]
    exact abs_nonneg _
  · rw [sub_self, abs_zero, eq_comm, abs_eq_zero, sub_eq_zero] at htie
    exact absurd ((strictMono_value hexponent).injective htie).symm hne

theorem scaled_value (hexponent : 2 ≤ f.exponentBits) (n : Nat) :
    (f.scaled (f.significand n) (f.shift n) : ℚ) = f.value n * 10 ^ (f.places + 2) := by
  have hmiddle := f.middle_eq (f.units n) (f.units n)
  rw [← value_eq hexponent, add_self_div_two] at hmiddle
  rw [← hmiddle, scaled_eq, ← Nat.two_mul, Nat.mul_left_comm]

theorem units_pos (hpos : 0 < n) : 0 < f.units n :=
  (Nat.zero_le (f.units 0)).trans_lt (f.strictMono_units hpos)

theorem significand_pos (hpos : 0 < n) : 0 < f.significand n :=
  Nat.pos_of_mul_pos_right (units_pos hpos)

/-- The number that the text of a positive value is picked to stand for. -/
def shortest (f : Format) (n : Nat) : Nat :=
  (f.rounding (f.significand n) (f.shift n)).shortest (f.scaled (f.significand n) (f.shift n))

theorem magnitude_zero (f : Format) : f.magnitude (f.significand 0) (f.shift 0) = ['0'] := by
  rw [magnitude, significand, Nat.zero_div, Nat.zero_mod, if_pos rfl, if_pos rfl]

theorem magnitude_of_pos (hpos : 0 < n) : f.magnitude (f.significand n) (f.shift n) =
    Decimal.text (f.places + 2) (f.shortest n) := by
  rw [magnitude, if_neg (significand_pos hpos).ne', shortest]

theorem value?_zero : value? ['0'] = some 0 :=
  Decimal.value?_whole (Decimal.digits?_toDigits 0)

theorem isPlain_magnitude (f : Format) (n : Nat) :
    IsPlain (f.magnitude (f.significand n) (f.shift n)) := by
  rcases Nat.eq_zero_or_pos n with rfl | hpos
  · rw [magnitude_zero]
    exact .inl ⟨List.cons_ne_nil _ _, List.forall_mem_singleton.mpr rfl⟩
  · rw [magnitude_of_pos hpos]
    exact Decimal.isPlain_text _ _

section Wide

variable (hexponent : 2 ≤ f.exponentBits) (hfraction : 1 ≤ f.fractionBits)
include hexponent hfraction

/-- **The number picked is rounded to the value**, and any other decimal that is so has as many
digits. -/
theorem shortest_spec (hpos : 0 < n) (hn : n < f.infinity) :
    f.Rounds (f.shortest n / 10 ^ (f.places + 2)) n ∧ ∃ m z : Nat, f.shortest n = m * 10 ^ z ∧
      ∀ (d k : Nat) (e : ℤ), f.Rounds (d * 10 ^ e) n → d < 10 ^ k → m < 10 ^ k := by
  -- the range is in units of the last place, so all numbers are scaled up to it
  have hten : (10 : ℚ) ^ (f.places + 2) ≠ 0 := by positivity
  have hholds := fun x => rounds_iff_holds (x := x) hexponent hfraction hpos hn
  have hvalue : (f.rounding (f.significand n) (f.shift n)).contains
      (f.scaled (f.significand n) (f.shift n)) = true := by
    rw [Decimal.Range.contains_iff, scaled_value hexponent, ← hholds]
    exact rounds_value hexponent hn.le
  have hlow : 0 < (f.rounding (f.significand n) (f.shift n)).low := by
    obtain ⟨k, rfl⟩ : ∃ k, n = k + 1 := ⟨n - 1, by omega⟩
    have hunits : 0 < f.units (k + 1) := units_pos hpos
    rw [rounding_succ hfraction]
    positivity
  obtain ⟨hcontains, m, z, hm, hleast⟩ := Decimal.Range.exists_shortest hvalue hlow
  refine ⟨?_, m, z, hm, fun d k e hd hk => hleast d k (e + (f.places + 2 : Nat)) ?_ hk⟩
  · rw [hholds, div_mul_cancel₀ _ hten, ← Decimal.Range.contains_iff]
    exact hcontains
  · rw [zpow_add₀ (by norm_num), zpow_natCast, ← mul_assoc, ← hholds]
    exact hd

theorem exists_value?_magnitude (hn : n < f.infinity) :
    ∃ x, value? (f.magnitude (f.significand n) (f.shift n)) = some x ∧ f.Rounds x n := by
  rcases Nat.eq_zero_or_pos n with rfl | hpos
  · rw [magnitude_zero]
    exact ⟨0, value?_zero, rounds_zero hexponent⟩
  · rw [magnitude_of_pos hpos]
    exact ⟨_, Decimal.value?_text _ _, (shortest_spec hexponent hfraction hpos hn).1⟩

theorem significant_magnitude_le (hn : n < f.infinity) (hm : m < 10 ^ k)
    (hround : f.Rounds (m * 10 ^ z) n) :
    significant (f.magnitude (f.significand n) (f.shift n)) ≤ k := by
  rcases Nat.eq_zero_or_pos n with rfl | hpos
  · rw [magnitude_zero]
    exact Nat.zero_le k
  · obtain ⟨-, d, e, hd, hleast⟩ := shortest_spec hexponent hfraction hpos hn
    rw [magnitude_of_pos hpos, Decimal.significant_le_iff (Decimal.value?_text _ _)]
    -- the zeros behind the digits only move the point
    refine ⟨d, e - (f.places + 2 : Nat), ?_, hleast m k z hround hm⟩
    rw [hd, Nat.cast_mul, Nat.cast_pow, Nat.cast_ofNat, mul_div_assoc, zpow_sub₀ (by norm_num),
      zpow_natCast, zpow_natCast]

end Wide

/-! ## Texts -/

/-- The bits that a text is read as: it is taken exactly and then rounded to the format. -/
def Reads (f : Format) (text : List Char) (bits : Nat) : Prop :=
  ∃ negative x n, signedValue? text = some (negative, x) ∧ f.Rounds x n ∧
    bits = f.signBit negative + n

theorem Reads.unique (hexponent : 2 ≤ f.exponentBits) (h : f.Reads text bits)
    (hother : f.Reads text other) : other = bits := by
  obtain ⟨negative, x, n, hvalue, hround, rfl⟩ := h
  obtain ⟨negative', x', n', hvalue', hround', rfl⟩ := hother
  rw [hvalue, Option.some.injEq, Prod.mk.injEq] at hvalue'
  obtain ⟨rfl, rfl⟩ := hvalue'
  rw [hround.unique hexponent hround']

section Wide

variable (hexponent : 2 ≤ f.exponentBits) (hfraction : 1 ≤ f.fractionBits)
include hexponent hfraction

theorem reads_text (h : f.IsFinite bits) : f.Reads (f.text bits) bits := by
  obtain ⟨x, hvalue, hround⟩ :=
    exists_value?_magnitude hexponent hfraction (pattern_lt_infinity h)
  refine ⟨f.isNegative bits, x, f.pattern bits, ?_, hround, (signBit_add_pattern h).symm⟩
  rw [text_of_isFinite h, Decimal.signedValue?_sign _
    (Decimal.minus_not_mem_of_isPlain (f.isPlain_magnitude _)), hvalue, Option.map_some]

theorem text_injective (h : f.IsFinite bits) (hother : f.IsFinite other)
    (htext : f.text other = f.text bits) : other = bits :=
  (reads_text hexponent hfraction h).unique hexponent
    (htext ▸ reads_text hexponent hfraction hother)

theorem significant_text_le (h : f.IsFinite bits) (hm : m < 10 ^ k)
    (hround : f.Rounds (m * 10 ^ z) (f.pattern bits)) : significant (f.text bits) ≤ k := by
  rw [text_of_isFinite h, Decimal.significant_sign]
  exact significant_magnitude_le hexponent hfraction (pattern_lt_infinity h) hm hround

theorem significant_le_of_reads (h : f.IsFinite bits) (hreads : f.Reads text bits) :
    significant (f.text bits) ≤ significant text := by
  obtain ⟨negative, x, n, hvalue, hround, rfl⟩ := hreads
  obtain ⟨digits, hdigits, hsignificant⟩ := Decimal.exists_of_signedValue? hvalue
  obtain ⟨m, z, rfl, hm⟩ := (Decimal.significant_le_iff hdigits).mp le_rfl
  rw [← hsignificant]
  refine significant_text_le (z := z) hexponent hfraction h hm ?_
  rw [pattern_signBit_add negative hround.le_infinity]
  exact hround

end Wide

/-- **Floats read back.** A finite number enters a script as one atom. Its text is a plain decimal
behind the sign, is read as these bits and as no others, and has the fewest significant digits of
all decimals that are. So no two numbers have the same text. -/
theorem floats_read_back (hf : f ∈ [binary32, binary64]) (h : f.IsFinite bits) :
    (∃ digits, IsPlain digits ∧
      f.text bits = (if f.isNegative bits then ['-'] else []) ++ digits) ∧
    (∀ other, f.Reads (f.text bits) other ↔ other = bits) ∧
    (∀ text, f.Reads text bits → significant (f.text bits) ≤ significant text) ∧
    (∀ (m k : Nat) (z : ℤ), m < 10 ^ k → f.Rounds (m * 10 ^ z) (f.pattern bits) →
      significant (f.text bits) ≤ k) ∧
    (∀ other, f.IsFinite other → f.text other = f.text bits → other = bits) ∧
    (∀ lookup g, Draft.build lookup g (.num (.float f bits)) =
      some (.atom (String.ofList (f.text bits)), g)) ∧
    ∀ (g : Graph) (depth : Nat) (mode : Layout.Mode),
      g.serialize (Numeral.float f bits).term depth mode = .ok (String.ofList (f.text bits)) := by
  obtain ⟨hexponent, hfraction⟩ : 2 ≤ f.exponentBits ∧ 1 ≤ f.fractionBits := by
    rcases List.mem_pair.mp hf with rfl | rfl
    · decide
    · decide
  refine ⟨⟨_, f.isPlain_magnitude _, text_of_isFinite h⟩, fun other => ⟨fun hother => ?_, ?_⟩,
    fun text => significant_le_of_reads hexponent hfraction h,
    fun m k z => significant_text_le hexponent hfraction h,
    fun other => text_injective hexponent hfraction h, fun lookup g => rfl, fun g depth mode => ?_⟩
  · exact (reads_text hexponent hfraction h).unique hexponent hother
  · rintro rfl
    exact reads_text hexponent hfraction h
  · -- an atom is written as it is, at any depth and in any mode
    change Except.ok (String.ofList (String.ofList (f.text bits)).toList) = _
    rw [String.toList_ofList]

theorem floats_read_back_tenth :
    binary32.IsFinite 0x3DCCCCCD ∧ binary32.text 0x3DCCCCCD = ['0', '.', '1'] ∧
      (∀ other, binary32.Reads ['0', '.', '1'] other ↔ other = 0x3DCCCCCD) ∧
      (∀ text, binary32.Reads text 0x3DCCCCCD → 1 ≤ significant text) ∧
      binary64.IsFinite 0x8000000000000000 ∧ binary64.text 0x8000000000000000 = ['-', '0'] ∧
      ∀ other, binary64.Reads ['-', '0'] other ↔ other = 0x8000000000000000 := by
  have htenth : binary32.IsFinite 0x3DCCCCCD := ⟨by decide, by decide⟩
  have hzero : binary64.IsFinite 0x8000000000000000 := ⟨by decide, by decide⟩
  have htext : binary32.text 0x3DCCCCCD = ['0', '.', '1'] := by decide +kernel
  have htext' : binary64.text 0x8000000000000000 = ['-', '0'] := by decide +kernel
  obtain ⟨-, hreads, hfewest, -⟩ := floats_read_back (by decide) htenth
  obtain ⟨-, hreads', -⟩ := floats_read_back (by decide) hzero
  rw [htext] at hreads hfewest
  rw [htext'] at hreads'
  exact ⟨htenth, htext, hreads, hfewest, hzero, htext', hreads'⟩

/-- The number nearest to a tenth in the shorter format is longer in the other. -/
example : binary64.text 0x3FB99999A0000000 = ['0', '.', '1', '0', '0', '0', '0', '0', '0', '0', '1',
    '4', '9', '0', '1', '1', '6', '1', '2'] := by
  decide +kernel

end Binary.Format

end SmtScript
