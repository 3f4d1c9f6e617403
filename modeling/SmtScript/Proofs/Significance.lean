import SmtScript.Proofs.Decimals
import Mathlib.Algebra.Order.Field.Power
import Mathlib.Data.List.DropRight
import Mathlib.Tactic.Ring

/-!
# Significant digits

The zeros in front of a decimal and at its end only show where the point is. The digits between them
are significant, and there are as few of them as the number that the decimal stands for allows: it
is a whole number with so many digits times a power of ten, and no whole number with fewer digits
will do.
-/

namespace SmtScript.Decimal

/-- The digits without the zeros in front and at the end. -/
def core (digits : List Char) : List Char :=
  dropZeros (digits.dropWhile (· == '0'))

/-- The number of significant digits of a decimal. -/
def significant (text : List Char) : Nat :=
  (core (text.filter Char.isDigit)).length

/-! ## The core -/

variable {c : Char} {text digits : List Char} {v : ℚ} {k : Nat}

theorem exists_core (digits : List Char) :
    ∃ i j, digits = List.replicate i '0' ++ (core digits ++ List.replicate j '0') := by
  have hzeros : digits.takeWhile (· == '0') =
      List.replicate (digits.takeWhile (· == '0')).length '0' :=
    List.eq_replicate_of_mem fun c hc => by simpa using List.mem_takeWhile_imp hc
  obtain ⟨j, hj⟩ := exists_dropZeros (digits.dropWhile (· == '0'))
  refine ⟨(digits.takeWhile (· == '0')).length, j, ?_⟩
  rw [← hzeros, core, ← hj, List.takeWhile_append_dropWhile]

theorem mem_of_mem_core (h : c ∈ core digits) : c ∈ digits := by
  obtain ⟨i, j, hcore⟩ := exists_core digits
  rw [hcore]
  exact List.mem_append_right _ (List.mem_append_left _ h)

theorem ne_zero_of_dropZeros (h : dropZeros digits = text ++ [c]) : c ≠ '0' := by
  have hne : digits.rdropWhile (· == '0') ≠ [] := by
    change dropZeros digits ≠ []
    rw [h]
    exact List.append_ne_nil_of_right_ne_nil text (List.cons_ne_nil c [])
  have hlast := List.rdropWhile_last_not _ _ hne
  change ¬ ((dropZeros digits).getLast hne == '0') = true at hlast
  simpa [h] using hlast

theorem ne_zero_of_core (h : core digits = c :: text) : c ≠ '0' := by
  obtain ⟨j, hj⟩ := exists_dropZeros (digits.dropWhile (· == '0'))
  have hdrop : digits.dropWhile (· == '0') = c :: (text ++ List.replicate j '0') := by
    rw [hj, ← core, h, List.cons_append]
  have hne : digits.dropWhile (· == '0') ≠ [] := by
    rw [hdrop]
    exact List.cons_ne_nil _ _
  have hfirst := List.head_dropWhile_not (· == '0') hne
  simpa [hdrop] using hfirst

/-! ## Numbers of digits -/

theorem digit_lt (h : c.isDigit = true) : c.toNat - '0'.toNat < 10 := by
  have hrange := Char.isDigit_iff_toNat.mp h
  have hzero : '0'.toNat = 48 := rfl
  have hnine : '9'.toNat = 57 := rfl
  omega

theorem digit_pos (h : c.isDigit = true) (hc : c ≠ '0') : 0 < c.toNat - '0'.toNat := by
  have hrange := Char.isDigit_iff_toNat.mp h
  have hne : c.toNat ≠ '0'.toNat := fun heq => hc (Char.toNat_inj.mp heq)
  omega

theorem ofDigitChars_cons_eq (c : Char) (digits : List Char) :
    Nat.ofDigitChars 10 (c :: digits) 0 =
      10 ^ digits.length * (c.toNat - '0'.toNat) + Nat.ofDigitChars 10 digits 0 := by
  rw [Nat.ofDigitChars_cons, Nat.ofDigitChars_eq_ofDigitChars_zero, Nat.mul_zero, Nat.zero_add]

theorem ofDigitChars_lt (h : ∀ c ∈ digits, c.isDigit = true) :
    Nat.ofDigitChars 10 digits 0 < 10 ^ digits.length := by
  induction digits with
  | nil => exact Nat.one_pos
  | cons c digits ih =>
      rw [List.forall_mem_cons] at h
      have hc := digit_lt h.1
      have hrest := ih h.2
      calc Nat.ofDigitChars 10 (c :: digits) 0
          = 10 ^ digits.length * (c.toNat - '0'.toNat) + Nat.ofDigitChars 10 digits 0 :=
            ofDigitChars_cons_eq c digits
        _ < 10 ^ digits.length * (c.toNat - '0'.toNat) + 10 ^ digits.length * 1 := by omega
        _ = 10 ^ digits.length * (c.toNat - '0'.toNat + 1) := (Nat.mul_add _ _ _).symm
        _ ≤ 10 ^ digits.length * 10 := Nat.mul_le_mul_left _ (by omega)
        _ = 10 ^ (c :: digits).length := (Nat.pow_succ 10 digits.length).symm

theorem le_ofDigitChars (hc : c.isDigit = true) (hzero : c ≠ '0') :
    10 ^ digits.length ≤ Nat.ofDigitChars 10 (c :: digits) 0 := by
  rw [ofDigitChars_cons_eq]
  exact Nat.le_add_right_of_le (Nat.le_mul_of_pos_right _ (digit_pos hc hzero))

theorem not_dvd_ofDigitChars (hc : c.isDigit = true) (hzero : c ≠ '0') :
    ¬ 10 ∣ Nat.ofDigitChars 10 (digits ++ [c]) 0 := by
  have hpos := digit_pos hc hzero
  have hlt := digit_lt hc
  rw [Nat.ofDigitChars_append, Nat.ofDigitChars_cons, Nat.ofDigitChars_nil]
  omega

/-- A core is the number of its digits, and neither too small for them nor a multiple of ten. -/
theorem core_spec (h : ∀ c ∈ digits, c.isDigit = true) (hcore : core digits ≠ []) :
    10 ^ (core digits).length ≤ 10 * Nat.ofDigitChars 10 (core digits) 0 ∧
      ¬ 10 ∣ Nat.ofDigitChars 10 (core digits) 0 := by
  have hdigits : ∀ c ∈ core digits, c.isDigit = true := fun c hc => h c (mem_of_mem_core hc)
  constructor
  · obtain ⟨c, rest, hcons⟩ := List.exists_cons_of_ne_nil hcore
    have hc : c.isDigit = true := hdigits c (by rw [hcons]; exact List.mem_cons_self)
    rw [hcons, List.length_cons, Nat.pow_succ, Nat.mul_comm]
    exact Nat.mul_le_mul_left 10 (le_ofDigitChars hc (ne_zero_of_core hcons))
  · obtain ⟨rest, c, hlast⟩ := List.eq_nil_or_concat'  (core digits) |>.resolve_left hcore
    have hc : c.isDigit = true := hdigits c (by rw [hlast]; simp)
    rw [hlast]
    exact not_dvd_ofDigitChars hc (ne_zero_of_dropZeros hlast)

/-! ## Values -/

/-- A decimal is all its digits, with the point some places from the end. -/
theorem exists_places (h : value? text = some v) : ∃ places : Nat,
    v = Nat.ofDigitChars 10 (text.filter Char.isDigit) 0 / 10 ^ places := by
  have htext : ['.'].intercalate (text.splitOn '.') = text := List.intercalate_splitOn '.'
  unfold value? at h
  split at h
  · rename_i whole hsplit
    obtain ⟨w, hw, rfl⟩ := Option.map_eq_some_iff.mp h
    obtain ⟨⟨-, hdigits⟩, rfl⟩ := digits?_eq_some_iff.mp hw
    rw [hsplit, List.intercalate_singleton] at htext
    refine ⟨0, ?_⟩
    rw [← htext, List.filter_eq_self.mpr hdigits, pow_zero, div_one]
  · rename_i whole fraction hsplit
    simp only [Option.bind_eq_bind, Option.bind_eq_some_iff, Option.pure_def,
      Option.some.injEq] at h
    obtain ⟨w, hw, f, hf, rfl⟩ := h
    obtain ⟨⟨-, hwhole⟩, rfl⟩ := digits?_eq_some_iff.mp hw
    obtain ⟨⟨-, hfraction⟩, rfl⟩ := digits?_eq_some_iff.mp hf
    rw [hsplit, List.intercalate_cons_cons, List.intercalate_singleton] at htext
    have hdigits : text.filter Char.isDigit = whole ++ fraction := by
      rw [← htext, List.filter_append, List.filter_append, List.filter_eq_self.mpr hwhole,
        List.filter_eq_self.mpr hfraction]
      simp
    have hvalue : Nat.ofDigitChars 10 (whole ++ fraction) 0 =
        10 ^ fraction.length * Nat.ofDigitChars 10 whole 0 + Nat.ofDigitChars 10 fraction 0 := by
      rw [Nat.ofDigitChars_append]
      exact Nat.ofDigitChars_eq_ofDigitChars_zero
    refine ⟨fraction.length, ?_⟩
    rw [hdigits, hvalue]
    push_cast
    rw [add_div, mul_div_cancel_left₀ _ (by positivity)]
  · cases h

theorem exists_core_value (h : value? text = some v) :
    ∃ e : ℤ, v = Nat.ofDigitChars 10 (core (text.filter Char.isDigit)) 0 * 10 ^ e := by
  obtain ⟨places, hv⟩ := exists_places h
  obtain ⟨i, j, hcore⟩ := exists_core (text.filter Char.isDigit)
  refine ⟨j - places, ?_⟩
  generalize core (text.filter Char.isDigit) = digits at hcore ⊢
  rw [hv, hcore, Nat.ofDigitChars_append, Nat.ofDigitChars_append, Nat.ofDigitChars_replicate_zero,
    Nat.ofDigitChars_replicate_zero, Nat.mul_zero, zpow_sub₀ (by norm_num), zpow_natCast,
    zpow_natCast]
  push_cast
  ring

/-- A number that is no multiple of ten is not greater than any other that the point is moved to. -/
theorem le_of_shift {d m : Nat} {e z : ℤ} (hd : ¬ 10 ∣ d) (h : (d : ℚ) * 10 ^ e = m * 10 ^ z) :
    d ≤ m := by
  have hten : (10 : ℚ) ≠ 0 := by norm_num
  rcases lt_or_ge e z with hlt | hge
  · -- the other one would have to be moved to the left, and this be a multiple of ten
    refine absurd ?_ hd
    obtain ⟨n, rfl⟩ : ∃ n : Nat, z = e + (n + 1 : Nat) := ⟨(z - e - 1).toNat, by omega⟩
    rw [zpow_add₀ hten, zpow_natCast, ← mul_assoc, mul_right_comm,
      mul_left_inj' (zpow_ne_zero e hten)] at h
    have hnat : d = m * 10 ^ (n + 1) := by exact_mod_cast h
    rw [hnat, pow_succ, ← mul_assoc]
    exact Nat.dvd_mul_left 10 _
  · obtain ⟨n, rfl⟩ : ∃ n : Nat, e = z + n := ⟨(e - z).toNat, by omega⟩
    rw [zpow_add₀ hten, zpow_natCast, ← mul_assoc, mul_right_comm,
      mul_left_inj' (zpow_ne_zero z hten)] at h
    have hnat : d * 10 ^ n = m := by exact_mod_cast h
    rw [← hnat]
    exact Nat.le_mul_of_pos_right d (Nat.pow_pos (by decide))

/-- **The significant digits are the fewest** of the number that a decimal stands for. -/
theorem significant_le_iff (h : value? text = some v) :
    significant text ≤ k ↔ ∃ (m : Nat) (z : ℤ), v = m * 10 ^ z ∧ m < 10 ^ k := by
  have hdigits : ∀ c ∈ text.filter Char.isDigit, c.isDigit = true := fun c hc =>
    (List.mem_filter.mp hc).2
  obtain ⟨e, hv⟩ := exists_core_value h
  rw [significant]
  constructor
  · intro hk
    refine ⟨_, e, hv, ?_⟩
    exact (ofDigitChars_lt fun c hc => hdigits c (mem_of_mem_core hc)).trans_le
      (Nat.pow_le_pow_right (by decide) hk)
  · rintro ⟨m, z, hm, hlt⟩
    by_cases hcore : core (text.filter Char.isDigit) = []
    · rw [hcore]
      exact Nat.zero_le k
    · obtain ⟨hlength, hten⟩ := core_spec hdigits hcore
      have hle := le_of_shift hten (hv.symm.trans hm)
      have hpow : 10 ^ (core (text.filter Char.isDigit)).length < 10 ^ (k + 1) := by
        rw [pow_succ]
        omega
      exact Nat.lt_succ_iff.mp ((Nat.pow_lt_pow_iff_right (by decide)).mp hpow)

/-! ## Form -/

def IsDigits (digits : List Char) : Prop :=
  digits ≠ [] ∧ ∀ c ∈ digits, c.isDigit = true

/-- Digits, and optionally a point with digits that do not end in zero. There is no exponent. -/
def IsPlain (text : List Char) : Prop :=
  IsDigits text ∨ ∃ whole fraction, text = whole ++ '.' :: fraction ∧ IsDigits whole ∧
    IsDigits fraction ∧ fraction.getLast? ≠ some '0'

theorem isPlain_text (places n : Nat) : IsPlain (Decimal.text places n) := by
  have hwhole : ∀ n, IsDigits (Nat.toDigits 10 n) := fun n =>
    ⟨Nat.toDigits_ne_nil, isDigit_toDigits n⟩
  rw [text_eq]
  split
  · exact .inl (hwhole _)
  · rename_i hrest
    obtain ⟨f, hfraction, -⟩ :=
      exists_digits?_fraction (Nat.mod_lt n (Nat.pow_pos (by decide))) hrest
    refine .inr ⟨_, _, rfl, hwhole _, (digits?_eq_some_iff.mp hfraction).1, fun hlast => ?_⟩
    obtain ⟨before, hbefore⟩ := List.getLast?_eq_some_iff.mp hlast
    exact ne_zero_of_dropZeros hbefore rfl

end SmtScript.Decimal
