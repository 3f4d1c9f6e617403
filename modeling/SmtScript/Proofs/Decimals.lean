import SmtScript.Duration
import Mathlib.Data.List.TakeWhile
import Mathlib.Tactic.FieldSimp
import Mathlib.Tactic.NormNum
import Mathlib.Tactic.Positivity
import Mathlib.Data.Rat.Cast.Defs

/-!
# Decimals are exact

A decimal is read as digits, or as digits, a point and more digits. What is written in some number
of places reads as the same number, however many zeros there are in front of the fraction and
however many were dropped behind it. So a duration reads as its nanoseconds, in whichever unit it is
written.
-/

namespace SmtScript

namespace Decimal

/-- The number that digits stand for. -/
def digits? (text : List Char) : Option Nat :=
  if !text.isEmpty && text.all Char.isDigit then some (Nat.ofDigitChars 10 text 0) else none

/-- The number that a decimal stands for. -/
def value? (text : List Char) : Option ℚ :=
  match text.splitOn '.' with
  | [whole] => (digits? whole).map Nat.cast
  | [whole, fraction] => do
      let w ← digits? whole
      let f ← digits? fraction
      return w + f / 10 ^ fraction.length
  | _ => none

/-! ## Digits -/

variable {whole fraction digits : List Char} {places n w f : Nat}

theorem digits?_eq_some_iff : digits? digits = some n ↔
    (digits ≠ [] ∧ ∀ c ∈ digits, c.isDigit = true) ∧ Nat.ofDigitChars 10 digits 0 = n := by
  rw [digits?, Option.ite_none_right_eq_some, Option.some.injEq]
  simp

theorem isDigit_toDigits (n : Nat) : ∀ c ∈ Nat.toDigits 10 n, c.isDigit = true :=
  fun _ => Nat.isDigit_of_mem_toDigits (by decide) (by decide)

theorem digits?_toDigits (n : Nat) : digits? (Nat.toDigits 10 n) = some n :=
  digits?_eq_some_iff.mpr ⟨⟨Nat.toDigits_ne_nil, isDigit_toDigits n⟩, Nat.ofDigitChars_ten_toDigits⟩

theorem toDigits_injective {m n : Nat} (h : Nat.toDigits 10 m = Nat.toDigits 10 n) : m = n := by
  have hdigits := congrArg digits? h
  rwa [digits?_toDigits, digits?_toDigits, Option.some.injEq] at hdigits

theorem not_mem_of_isDigit {c : Char} (h : ∀ c ∈ digits, c.isDigit = true)
    (hc : c.isDigit = false) : c ∉ digits := by
  intro hmem
  rw [h c hmem] at hc
  cases hc

/-! ## Places -/

theorem length_padded (hn : n < 10 ^ places) (hplaces : places ≠ 0) :
    (padded places n).length = places := by
  have hlength : (Nat.toDigits 10 n).length ≤ places :=
    (Nat.length_toDigits_le_iff (by decide) (Nat.pos_of_ne_zero hplaces)).mpr hn
  simp only [padded, List.length_append, List.length_replicate]
  omega

theorem isDigit_padded : ∀ c ∈ padded places n, c.isDigit = true := by
  intro c hc
  rcases List.mem_append.mp hc with hzero | hdigit
  · rw [List.eq_of_mem_replicate hzero]
    rfl
  · exact isDigit_toDigits n c hdigit

theorem ofDigitChars_padded : Nat.ofDigitChars 10 (padded places n) 0 = n := by
  rw [padded, Nat.ofDigitChars_append, Nat.ofDigitChars_replicate_zero, Nat.mul_zero,
    Nat.ofDigitChars_ten_toDigits]

/-- Only zeros are dropped. -/
theorem exists_dropZeros (digits : List Char) :
    ∃ k, digits = dropZeros digits ++ List.replicate k '0' := by
  refine ⟨(digits.reverse.takeWhile (· == '0')).length, ?_⟩
  have hzeros : digits.reverse.takeWhile (· == '0') =
      List.replicate (digits.reverse.takeWhile (· == '0')).length '0' :=
    List.eq_replicate_of_mem fun c hc => by simpa using List.mem_takeWhile_imp hc
  calc digits = (digits.reverse.takeWhile (· == '0') ++
        digits.reverse.dropWhile (· == '0')).reverse := by
        rw [List.takeWhile_append_dropWhile, List.reverse_reverse]
    _ = dropZeros digits ++ (digits.reverse.takeWhile (· == '0')).reverse := by
        rw [List.reverse_append]
        rfl
    _ = _ := by
        rw [hzeros, List.reverse_replicate, List.length_replicate]

/-! ## Values -/

theorem value?_whole (hwhole : digits? whole = some w) : value? whole = some (w : ℚ) := by
  obtain ⟨⟨-, hdigits⟩, -⟩ := digits?_eq_some_iff.mp hwhole
  have hpoint : '.' ∉ whole := not_mem_of_isDigit hdigits rfl
  rw [value?, List.splitOn_eq_singleton hpoint]
  simp only [hwhole, Option.map_some]

theorem value?_point (hwhole : digits? whole = some w) (hfraction : digits? fraction = some f) :
    value? (whole ++ '.' :: fraction) = some (w + f / 10 ^ fraction.length : ℚ) := by
  obtain ⟨⟨-, hdigits⟩, -⟩ := digits?_eq_some_iff.mp hwhole
  obtain ⟨⟨-, hdigits'⟩, -⟩ := digits?_eq_some_iff.mp hfraction
  rw [value?, List.splitOn_append_cons_self_of_not_mem (not_mem_of_isDigit hdigits rfl),
    List.splitOn_eq_singleton (not_mem_of_isDigit hdigits' rfl)]
  simp only [hwhole, hfraction, Option.bind_eq_bind, Option.bind_some, Option.pure_def]

/-- What is left of a fraction stands for the same part of one. -/
theorem exists_digits?_fraction (hn : n < 10 ^ places) (hrest : n ≠ 0) :
    ∃ f, digits? (dropZeros (padded places n)) = some f ∧
      (f / 10 ^ (dropZeros (padded places n)).length : ℚ) = n / 10 ^ places := by
  have hplaces : places ≠ 0 := by
    rintro rfl
    omega
  obtain ⟨k, hk⟩ := exists_dropZeros (padded places n)
  generalize dropZeros (padded places n) = fraction at hk ⊢
  have hlength := length_padded hn hplaces
  have hvalue : Nat.ofDigitChars 10 (padded places n) 0 = n := ofDigitChars_padded
  rw [hk, Nat.ofDigitChars_append, Nat.ofDigitChars_replicate_zero] at hvalue
  rw [hk, List.length_append, List.length_replicate] at hlength
  refine ⟨_, digits?_eq_some_iff.mpr ⟨⟨?_, fun c hc => ?_⟩, rfl⟩, ?_⟩
  · rintro rfl
    rw [Nat.ofDigitChars_nil, Nat.mul_zero] at hvalue
    exact hrest hvalue.symm
  · exact isDigit_padded c (by rw [hk]; exact List.mem_append_left _ hc)
  · rw [← hvalue, ← hlength, pow_add]
    push_cast
    field_simp

theorem text_eq (places n : Nat) : text places n =
    if n % 10 ^ places = 0 then Nat.toDigits 10 (n / 10 ^ places)
    else Nat.toDigits 10 (n / 10 ^ places) ++
      '.' :: dropZeros (padded places (n % 10 ^ places)) :=
  rfl

/-- **A decimal is exact.** -/
theorem value?_text (places n : Nat) : value? (text places n) = some (n / 10 ^ places : ℚ) := by
  have hpos : (0 : ℚ) < 10 ^ places := by positivity
  have hsum : ((n / 10 ^ places : Nat) : ℚ) * 10 ^ places + (n % 10 ^ places : Nat) = n := by
    exact_mod_cast Nat.div_add_mod' n (10 ^ places)
  have hwhole := digits?_toDigits (n / 10 ^ places)
  rw [text_eq]
  split
  · rename_i hrest
    rw [value?_whole hwhole, Option.some.injEq, eq_div_iff hpos.ne', ← hsum, hrest, Nat.cast_zero,
      add_zero]
  · rename_i hrest
    obtain ⟨f, hfraction, hvalue⟩ :=
      exists_digits?_fraction (Nat.mod_lt n (Nat.pow_pos (by decide))) hrest
    rw [value?_point hwhole hfraction, hvalue, Option.some.injEq, eq_div_iff hpos.ne', add_mul,
      div_mul_cancel₀ _ hpos.ne', hsum]

/-- A character of a decimal. -/
def isPart (c : Char) : Bool :=
  c.isDigit || c == '.'

theorem isPart_text (places n : Nat) : ∀ c ∈ text places n, isPart c = true := by
  have hdigit : ∀ {c : Char}, c.isDigit = true → isPart c = true := by
    intro c hc
    rw [isPart, hc, Bool.true_or]
  intro c hc
  rw [text_eq] at hc
  split at hc
  · exact hdigit (isDigit_toDigits _ c hc)
  · rcases List.mem_append.mp hc with hwhole | hpoint
    · exact hdigit (isDigit_toDigits _ c hwhole)
    · rcases List.mem_cons.mp hpoint with rfl | hfraction
      · rfl
      · obtain ⟨k, hk⟩ := exists_dropZeros (padded places (n % 10 ^ places))
        exact hdigit (isDigit_padded c (by rw [hk]; exact List.mem_append_left _ hfraction))

/-! ## Numerals with a sign -/

theorem signed_injective {m n : Int} (h : signed m = signed n) : m = n := by
  have hminus : ∀ {k l : Nat}, Nat.toDigits 10 k ≠ '-' :: Nat.toDigits 10 l := by
    intro k l heq
    refine not_mem_of_isDigit (isDigit_toDigits k) (c := '-') rfl ?_
    rw [heq]
    exact List.mem_cons_self
  cases m <;> cases n
  · exact congrArg Int.ofNat (toDigits_injective h)
  · exact absurd h hminus
  · exact absurd h.symm hminus
  · have hdigits := toDigits_injective (List.cons.inj h).2
    rw [Nat.succ.inj hdigits]

theorem newline_not_mem_signed (n : Int) : '\n' ∉ signed n := by
  cases n with
  | ofNat m => exact not_mem_of_isDigit (isDigit_toDigits m) rfl
  | negSucc m =>
      rw [signed, List.mem_cons, not_or]
      exact ⟨by decide, not_mem_of_isDigit (isDigit_toDigits (m + 1)) rfl⟩

end Decimal

/-! ## Durations -/

namespace Duration

def Unit.ofSymbol? (symbol : List Char) : Option Unit :=
  [Unit.second, .millisecond, .microsecond, .nanosecond].find? (·.symbol = symbol)

/-- The nanoseconds that a decimal with a unit stands for. -/
def nanoseconds? (text : List Char) : Option ℚ := do
  let unit ← Unit.ofSymbol? (text.dropWhile Decimal.isPart)
  let value ← Decimal.value? (text.takeWhile Decimal.isPart)
  return value * 10 ^ unit.places

theorem Unit.ofSymbol?_symbol (u : Unit) : ofSymbol? u.symbol = some u := by
  cases u <;> decide

theorem Unit.exists_symbol (u : Unit) :
    ∃ c rest, u.symbol = c :: rest ∧ Decimal.isPart c = false := by
  cases u <;> exact ⟨_, _, rfl, rfl⟩

/-- **A duration is exact**, in whichever unit it is written. -/
theorem nanoseconds?_text (d : Duration) : nanoseconds? d.text = some (d.nanoseconds : ℚ) := by
  obtain ⟨c, rest, hsymbol, hc⟩ := d.unit.exists_symbol
  have hparts := Decimal.isPart_text d.unit.places d.nanoseconds
  have hstop : ¬ Decimal.isPart c = true := by rw [hc]; exact Bool.false_ne_true
  have htake : d.text.takeWhile Decimal.isPart = Decimal.text d.unit.places d.nanoseconds := by
    rw [text, List.takeWhile_append_of_pos hparts, hsymbol, List.takeWhile_cons_of_neg hstop,
      List.append_nil]
  have hdrop : d.text.dropWhile Decimal.isPart = d.unit.symbol := by
    rw [text, List.dropWhile_append_of_pos hparts, hsymbol, List.dropWhile_cons_of_neg hstop]
  have hpos : (10 : ℚ) ^ d.unit.places ≠ 0 := by positivity
  simp only [nanoseconds?, htake, hdrop, Unit.ofSymbol?_symbol, Decimal.value?_text,
    Option.bind_eq_bind, Option.bind_some, Option.pure_def, div_mul_cancel₀ _ hpos]

example : text ⟨1050000, by decide⟩ = ['1', '.', '0', '5', 'm', 's'] := by
  decide

theorem text_injective {d d' : Duration} (h : d.text = d'.text) : d = d' := by
  have hvalue := congrArg nanoseconds? h
  rw [nanoseconds?_text, nanoseconds?_text, Option.some.injEq, Nat.cast_inj] at hvalue
  cases d
  cases d'
  cases hvalue
  rfl

/-- What is neither in a decimal nor in a unit is not in a duration. -/
theorem not_mem_text (d : Duration) {c : Char} (hpart : Decimal.isPart c = false)
    (hunit : ∀ u ∈ [Unit.second, .millisecond, .microsecond, .nanosecond], c ∉ u.symbol) :
    c ∉ d.text := by
  intro hmem
  rcases List.mem_append.mp hmem with hdecimal | hsymbol
  · rw [Decimal.isPart_text _ _ c hdecimal] at hpart
    cases hpart
  · exact hunit d.unit (by cases d.unit <;> decide) hsymbol

end Duration

end SmtScript
