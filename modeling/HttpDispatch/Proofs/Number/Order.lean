import HttpDispatch.Number.Decimal
import Mathlib.Algebra.Order.Field.Power
import Mathlib.Algebra.Order.Field.Rat
import Mathlib.Tactic.Positivity
import Mathlib.Tactic.Ring

/-!
# The order of binary numbers

The bit pattern of a number says how it compares with others, without looking at exponents.
That is so because a format has only one way to write a number: its significand is filled,
unless the exponent is the least (`BinaryFormat.Canonical`).

* `BinaryFormat.code_le_code_iff` — bit patterns are ordered as the numbers are
* `BinaryFormat.canonical_round` — rounding ends in the one way to write the number

Rounding looks for the exponent that fills the significand.  It guesses one from the numbers of
bits of numerator and denominator, which is at most one too small
(`BinaryFormat.exponentFor_spec`).
-/

namespace HttpDispatch

/-- A number as a fraction. -/
def Dyadic.value (x : Dyadic) : Rat := x.significand * 2 ^ x.exponent

namespace BinaryFormat

variable {f : BinaryFormat} {x y : Dyadic}

/-- **The one way to write a number** in a format: no bit of the significand is unused, unless
the exponent is the least. -/
structure Canonical (f : BinaryFormat) (x : Dyadic) : Prop where
  /-- The significand is not too long. -/
  significand_lt : x.significand < 2 ^ f.precision
  /-- The exponent is not below the least. -/
  minExponent_le : f.minExponent ≤ x.exponent
  /-- The significand is filled, or cannot be. -/
  filled : x.exponent = f.minExponent ∨ 2 ^ (f.precision - 1) ≤ x.significand

instance (f : BinaryFormat) (x : Dyadic) : Decidable (f.Canonical x) :=
  decidable_of_iff
    (x.significand < 2 ^ f.precision ∧ f.minExponent ≤ x.exponent ∧
      (x.exponent = f.minExponent ∨ 2 ^ (f.precision - 1) ≤ x.significand))
    ⟨fun h => ⟨h.1, h.2.1, h.2.2⟩, fun h => ⟨h.1, h.2, h.3⟩⟩

theorem two_pow_precision (hf : 0 < f.precision) :
    2 ^ f.precision = 2 * 2 ^ (f.precision - 1) := by
  rw [← pow_succ', Nat.sub_add_cancel hf]

/-! ### Comparing -/

namespace Canonical

/-- The number with the larger exponent is larger. -/
theorem value_lt_value (hf : 0 < f.precision) (hx : f.Canonical x) (hy : f.Canonical y)
    (h : x.exponent < y.exponent) : x.value < y.value := by
  have hsignificand := hx.significand_lt
  have hfilled : 2 ^ (f.precision - 1) ≤ y.significand :=
    hy.filled.resolve_left (hx.minExponent_le.trans_lt h).ne'
  rw [two_pow_precision hf] at hsignificand
  have hpow : (0 : Rat) < 2 ^ x.exponent := by positivity
  have hstep : (2 : Rat) * 2 ^ x.exponent ≤ 2 ^ y.exponent := by
    rw [← zpow_one_add₀ two_ne_zero]
    exact zpow_le_zpow_right₀ one_le_two (by omega)
  calc x.value
      < (2 * 2 ^ (f.precision - 1) : Nat) * 2 ^ x.exponent :=
        mul_lt_mul_of_pos_right (by exact_mod_cast hsignificand) hpow
    _ = (2 ^ (f.precision - 1) : Nat) * (2 * 2 ^ x.exponent) := by push_cast; ring
    _ ≤ y.significand * 2 ^ y.exponent :=
        mul_le_mul (by exact_mod_cast hfilled) hstep (by positivity) (by positivity)

/-- So is its bit pattern. -/
theorem code_lt_code (hf : 0 < f.precision) (hx : f.Canonical x) (hy : f.Canonical y)
    (h : x.exponent < y.exponent) : f.code x < f.code y := by
  have hsignificand := hx.significand_lt
  have hfilled : 2 ^ (f.precision - 1) ≤ y.significand :=
    hy.filled.resolve_left (hx.minExponent_le.trans_lt h).ne'
  rw [two_pow_precision hf] at hsignificand
  have hle := hx.minExponent_le
  obtain ⟨n, hn⟩ : ∃ n, (y.exponent - f.minExponent).toNat
      = (x.exponent - f.minExponent).toNat + 1 + n :=
    ⟨(y.exponent - x.exponent - 1).toNat, by omega⟩
  simp only [code, Nat.pow_eq, hn, add_mul, one_mul]
  omega

end Canonical

/-- With equal exponents both compare the significands. -/
theorem code_le_code_iff_of_exponent_eq (h : x.exponent = y.exponent) :
    f.code x ≤ f.code y ↔ x.value ≤ y.value := by
  have hpow : (0 : Rat) < 2 ^ y.exponent := by positivity
  rw [code, code, Dyadic.value, Dyadic.value, h, Nat.add_le_add_iff_right,
    mul_le_mul_iff_left₀ hpow, Nat.cast_le]

/-- **Bit patterns are ordered as the numbers are.** -/
theorem code_le_code_iff (hf : 0 < f.precision) (hx : f.Canonical x) (hy : f.Canonical y) :
    f.code x ≤ f.code y ↔ x.value ≤ y.value := by
  rcases lt_trichotomy x.exponent y.exponent with hlt | heq | hgt
  · exact iff_of_true (hx.code_lt_code hf hy hlt).le (hx.value_lt_value hf hy hlt).le
  · exact code_le_code_iff_of_exponent_eq heq
  · exact iff_of_false (hy.code_lt_code hf hx hgt).not_ge (hy.value_lt_value hf hx hgt).not_ge

/-! ### Rounding -/

theorem two_zpow_eq (e : Int) : (2 : Rat) ^ e = 2 ^ e.toNat / 2 ^ (-e).toNat := by
  have hsplit : e = (e.toNat : Int) - ((-e).toNat : Int) := by omega
  conv_lhs => rw [hsplit, zpow_sub₀ two_ne_zero, zpow_natCast, zpow_natCast]

/-- **The whole part of a scaled fraction**, by its lower bounds. -/
theorem le_scaleDown_iff {num den : Nat} (hden : 0 < den) (e : Int) (k : Nat) :
    k ≤ (scaleDown num den e).1 / (scaleDown num den e).2
      ↔ (k : Rat) * 2 ^ e ≤ (num : Rat) / den := by
  have hup : (0 : Rat) < 2 ^ (-e).toNat := by positivity
  have hden' : (0 : Rat) < den := by exact_mod_cast hden
  simp only [scaleDown, Nat.pow_eq]
  rw [Nat.le_div_iff_mul_le (by positivity), two_zpow_eq, mul_div_assoc', div_le_div_iff₀ hup hden',
    ← Nat.cast_le (α := Rat)]
  push_cast
  rw [mul_right_comm, mul_assoc]

/-- Its upper bounds. -/
theorem scaleDown_lt_iff {num den : Nat} (hden : 0 < den) (e : Int) (k : Nat) :
    (scaleDown num den e).1 / (scaleDown num den e).2 < k
      ↔ (num : Rat) / den < k * 2 ^ e := by
  rw [← not_le, le_scaleDown_iff hden, not_le]

theorem le_roundQuotient (num den : Nat) : num / den ≤ roundQuotient num den := by
  simp only [roundQuotient]
  split
  · exact le_rfl
  · split <;> omega

theorem roundQuotient_le (num den : Nat) : roundQuotient num den ≤ num / den + 1 := by
  simp only [roundQuotient]
  split
  · omega
  · split <;> omega

theorem two_pow_mul_two_zpow (n : Nat) (e : Int) :
    (2 ^ n : Nat) * (2 : Rat) ^ e = 2 ^ (n + e) := by
  rw [Nat.cast_pow, Nat.cast_ofNat, ← zpow_natCast, zpow_add₀ two_ne_zero]

/-- **A fraction by the numbers of bits** of numerator and denominator. -/
theorem log2_bounds {num den : Nat} (hnum : num ≠ 0) (hden : den ≠ 0) :
    (2 : Rat) ^ ((num.log2 : Int) - den.log2 - 1) ≤ (num : Rat) / den ∧
      (num : Rat) / den < 2 ^ ((num.log2 : Int) - den.log2 + 1) := by
  have hnum_le : ((2 ^ num.log2 : Nat) : Rat) ≤ num := by exact_mod_cast Nat.log2_self_le hnum
  have hnum_lt : (num : Rat) < (2 ^ (num.log2 + 1) : Nat) := by exact_mod_cast Nat.lt_log2_self
  have hden_le : ((2 ^ den.log2 : Nat) : Rat) ≤ den := by exact_mod_cast Nat.log2_self_le hden
  have hden_lt : (den : Rat) < (2 ^ (den.log2 + 1) : Nat) := by exact_mod_cast Nat.lt_log2_self
  have hpos : (0 : Rat) < den := by exact_mod_cast Nat.pos_of_ne_zero hden
  constructor
  · rw [le_div_iff₀ hpos]
    calc (2 : Rat) ^ ((num.log2 : Int) - den.log2 - 1) * den
        ≤ 2 ^ ((num.log2 : Int) - den.log2 - 1) * (2 ^ (den.log2 + 1) : Nat) :=
          mul_le_mul_of_nonneg_left hden_lt.le (by positivity)
      _ = (2 ^ num.log2 : Nat) * (2 : Rat) ^ (0 : Int) := by
          rw [mul_comm, two_pow_mul_two_zpow, two_pow_mul_two_zpow]
          congr 1
          omega
      _ ≤ num := by simpa using hnum_le
  · rw [div_lt_iff₀ hpos]
    calc (num : Rat)
        < (2 ^ (num.log2 + 1) : Nat) * (2 : Rat) ^ (0 : Int) := by simpa using hnum_lt
      _ = 2 ^ ((num.log2 : Int) - den.log2 + 1) * (2 ^ den.log2 : Nat) := by
          rw [mul_comm _ ((2 ^ den.log2 : Nat) : Rat), two_pow_mul_two_zpow, two_pow_mul_two_zpow]
          congr 1
          omega
      _ ≤ 2 ^ ((num.log2 : Int) - den.log2 + 1) * den :=
          mul_le_mul_of_nonneg_left hden_le (by positivity)

/-- **The exponent fills the significand**, unless it is the least. -/
theorem exponentFor_spec (hf : 0 < f.precision) (num : Nat) {den : Nat} (hden : 0 < den) :
    let e := f.exponentFor num den
    let scaled := scaleDown num den e
    f.minExponent ≤ e ∧ scaled.1 / scaled.2 < 2 ^ f.precision ∧
      (e = f.minExponent ∨ 2 ^ (f.precision - 1) ≤ scaled.1 / scaled.2) := by
  intro e scaled
  by_cases hnum : num = 0
  · have he : e = f.minExponent := if_pos hnum
    have hzero : scaled.1 / scaled.2 = 0 := by simp [scaled, scaleDown, hnum]
    exact ⟨he.ge, hzero ▸ Nat.two_pow_pos _, .inl he⟩
  · obtain ⟨hlow, hhigh⟩ := log2_bounds hnum hden.ne'
    -- the exponent that fills the significand, be it below the least one or not
    obtain ⟨fit, he, hfit_le, hfit_lt⟩ : ∃ fit, e = max f.minExponent fit ∧
        ((2 ^ (f.precision - 1) : Nat) : Rat) * 2 ^ fit ≤ (num : Rat) / den ∧
        (num : Rat) / den < (2 ^ f.precision : Nat) * 2 ^ fit := by
      refine ⟨_, if_neg hnum, ?_⟩
      split
      · rename_i hlt
        refine ⟨?_, (scaleDown_lt_iff hden _ _).1 hlt⟩
        rw [two_pow_mul_two_zpow]
        convert hlow using 2
        omega
      · rename_i hge
        constructor
        · have hle := (le_scaleDown_iff hden _ _).1 (not_lt.1 hge)
          rw [Nat.pow_eq, two_pow_mul_two_zpow] at hle
          rw [two_pow_mul_two_zpow]
          convert hle using 2
          omega
        · rw [two_pow_mul_two_zpow]
          convert hhigh using 2
          omega
    refine ⟨he ▸ le_max_left _ _, (scaleDown_lt_iff hden _ _).2 (hfit_lt.trans_le ?_), ?_⟩
    · exact mul_le_mul_of_nonneg_left
        (zpow_le_zpow_right₀ one_le_two (he ▸ le_max_right _ _)) (by positivity)
    · rcases le_total fit f.minExponent with hle | hle
      · exact .inl (he.trans (max_eq_left hle))
      · have hfit : e = fit := he.trans (max_eq_right hle)
        exact .inr ((le_scaleDown_iff hden _ _).2 (hfit ▸ hfit_le))

/-- **Rounding ends in the one way to write a number.** -/
theorem canonical_round (hf : 0 < f.precision) {num den : Nat} (hden : 0 < den)
    (h : f.round num den = some x) : f.Canonical x := by
  let e := f.exponentFor num den
  let scaled := scaleDown num den e
  let m := roundQuotient scaled.1 scaled.2
  have hx : (if m = 2 ^ f.precision then ⟨m / 2, e + 1⟩ else ⟨m, e⟩ : Dyadic) = x :=
    Option.some.inj (Option.ite_none_left_eq_some.1 h).2
  have hle : scaled.1 / scaled.2 ≤ m := le_roundQuotient scaled.1 scaled.2
  have hge : m ≤ scaled.1 / scaled.2 + 1 := roundQuotient_le scaled.1 scaled.2
  obtain ⟨hmin, hlt, hfilled⟩ := exponentFor_spec hf num hden
  have hpow := two_pow_precision hf
  by_cases hcarry : m = 2 ^ f.precision
  · rw [if_pos hcarry, hcarry, hpow, Nat.mul_div_cancel_left _ two_pos] at hx
    subst hx
    exact
      { significand_lt := by rw [hpow]; exact lt_two_mul_self (Nat.two_pow_pos _)
        minExponent_le := hmin.trans (Int.le_add_one le_rfl)
        filled := .inr le_rfl }
  · rw [if_neg hcarry] at hx
    subst hx
    exact
      { significand_lt := lt_of_le_of_ne (hge.trans hlt) hcarry
        minExponent_le := hmin
        filled := hfilled.imp_right fun hfill => hfill.trans hle }

theorem canonical_zero (f : BinaryFormat) : f.Canonical f.zero :=
  ⟨by simp [zero], le_rfl, .inl rfl⟩

/-- **So does reading a decimal.** -/
theorem canonical_ofDecimal (hf : 0 < f.precision) {d : Decimal} (h : f.ofDecimal d = some x) :
    f.Canonical x := by
  have hden : 0 < d.den := Nat.pow_pos (by decide)
  unfold ofDecimal at h
  split at h
  · cases h
    exact canonical_zero f
  · split at h
    · cases h
    · split at h
      · cases h
        exact canonical_zero f
      · exact canonical_round hf hden h

end BinaryFormat

end HttpDispatch
