import Mathlib.Algebra.Order.Field.Power
import PackedNumbers.Proofs.Decimal.Shortest
import PackedNumbers.Proofs.FloatFormat.Nearest

/-!
Decimals as exact numbers, and what they are read as: the nearest double, or an infinity past the
greatest.
-/
namespace PackedNumbers

namespace Decimal

def value (decimal : Decimal) : ℚ := decimal.significand * 10 ^ decimal.exponent

def digits (decimal : Decimal) : Nat := (Nat.toDigits 10 decimal.significand).length

theorem value_shift (significand zeros : Nat) (exponent : Int) :
    value ⟨significand * 10 ^ zeros, exponent⟩ = value ⟨significand, exponent + zeros⟩ := by
  simp only [value]
  rw [zpow_add₀ (by norm_num), zpow_natCast]
  push_cast
  ring

theorem value_lt_pow (decimal : Decimal) :
    decimal.value < 10 ^ (decimal.digits + decimal.exponent) := by
  have short : decimal.significand < 10 ^ decimal.digits := lt_pow_length_toDigits _
  have power : (0 : ℚ) < 10 ^ decimal.exponent := by positivity
  rw [zpow_add₀ (by norm_num), zpow_natCast, value]
  apply mul_lt_mul_of_pos_right _ power
  exact_mod_cast short

theorem pow_length_toDigits_le {number : Nat} (positive : 0 < number) :
    10 ^ ((Nat.toDigits 10 number).length - 1) ≤ number := by
  apply Nat.le_of_not_lt
  intro below
  rcases Nat.eq_zero_or_pos ((Nat.toDigits 10 number).length - 1) with none | some_shorter
  · rw [none] at below
    exact absurd positive (Nat.not_lt_of_le (Nat.le_of_lt_succ below))
  · have short := (Nat.length_toDigits_le_iff (by decide) some_shorter).mpr below
    omega

theorem digits_pos (decimal : Decimal) : 0 < decimal.digits := Nat.length_toDigits_pos

theorem pow_le_value {decimal : Decimal} (positive : 0 < decimal.significand) :
    (10 : ℚ) ^ ((decimal.digits - 1 : Nat) + decimal.exponent) ≤ decimal.value := by
  have power : (0 : ℚ) < 10 ^ decimal.exponent := by positivity
  rw [zpow_add₀ (by norm_num), zpow_natCast, value]
  apply mul_le_mul_of_nonneg_right _ power.le
  exact_mod_cast pow_length_toDigits_le positive

end Decimal

namespace FloatFormat

variable {format : FloatFormat} {decimal left right : Decimal} {place : Nat}

def one (format : FloatFormat) : Nat := 2 ^ format.scale

theorem one_pos (format : FloatFormat) : 0 < format.one := Nat.two_pow_pos _

theorem one_mul_pow_five (format : FloatFormat) :
    format.one * 5 ^ format.scale = 10 ^ format.scale := by
  rw [one, ← Nat.mul_pow]

theorem round_eq_of_cross {numerator denominator otherNumerator otherDenominator : Nat}
    (fraction : 0 < format.fractionBits) (positive : 0 < denominator)
    (otherPositive : 0 < otherDenominator)
    (level : numerator * otherDenominator = otherNumerator * denominator) :
    format.round numerator denominator = format.round otherNumerator otherDenominator :=
  Nat.le_antisymm (round_mono fraction positive otherPositive (Nat.le_of_eq level))
    (round_mono fraction otherPositive positive (Nat.le_of_eq level.symm))

/-- The magnitude nearest to a decimal, whose negative powers of ten stand below the line. -/
def ofDecimal (format : FloatFormat) (decimal : Decimal) : Nat :=
  format.round (decimal.significand * 10 ^ decimal.exponent.toNat * format.one)
    (10 ^ (-decimal.exponent).toNat)

theorem quotient_mul_unit (format : FloatFormat) (decimal : Decimal) :
    ((decimal.significand * 10 ^ decimal.exponent.toNat * format.one : Nat) /
      (10 ^ (-decimal.exponent).toNat : Nat) : ℚ) * format.unit = decimal.value := by
  have parts : decimal.exponent =
      (decimal.exponent.toNat : Int) - ((-decimal.exponent).toNat : Int) := by omega
  have split : (10 : ℚ) ^ decimal.exponent =
      10 ^ decimal.exponent.toNat / 10 ^ (-decimal.exponent).toNat := by
    conv_lhs => rw [parts]
    rw [zpow_sub₀ (by norm_num), zpow_natCast, zpow_natCast]
  rw [Decimal.value, split, unit, one]
  push_cast
  field_simp

theorem ofDecimal_mono (fraction : 0 < format.fractionBits) (below : left.value ≤ right.value) :
    format.ofDecimal left ≤ format.ofDecimal right := by
  have positive : ∀ decimal : Decimal, 0 < 10 ^ (-decimal.exponent).toNat :=
    fun _ => Nat.pow_pos (by decide)
  have cast : ∀ decimal : Decimal, (0 : ℚ) < (10 ^ (-decimal.exponent).toNat : Nat) :=
    fun decimal => by exact_mod_cast positive decimal
  rw [← quotient_mul_unit format left, ← quotient_mul_unit format right,
    mul_le_mul_iff_left₀ format.unit_pos, div_le_div_iff₀ (cast left) (cast right)] at below
  exact round_mono fraction (positive left) (positive right) (by exact_mod_cast below)

theorem ofDecimal_eq_of_value_eq (fraction : 0 < format.fractionBits)
    (same : left.value = right.value) : format.ofDecimal left = format.ofDecimal right :=
  Nat.le_antisymm (ofDecimal_mono fraction same.le) (ofDecimal_mono fraction same.ge)

theorem ofDecimal_eq_round (fraction : 0 < format.fractionBits)
    (placed : decimal.exponent = place - format.scale) :
    format.ofDecimal decimal =
      format.round (decimal.significand * 10 ^ place) (5 ^ format.scale) := by
  have powers : decimal.exponent.toNat + format.scale = place + (-decimal.exponent).toNat := by
    omega
  apply round_eq_of_cross fraction (Nat.pow_pos (by decide)) (Nat.pow_pos (by decide))
  rw [Nat.mul_assoc _ format.one, one_mul_pow_five, Nat.mul_assoc, Nat.mul_assoc, ← Nat.pow_add,
    ← Nat.pow_add, powers]

theorem nearest_of_ofDecimal {width : Nat} {word : BitVec width} (wide : 1 < format.exponentBits)
    (fraction : 0 < format.fractionBits) (finite : format.IsFinite word)
    (read : format.ofDecimal decimal = SignMagnitude.magnitude word) :
    format.Nearest (SignMagnitude.sign (SignMagnitude.negative word) * decimal.value) word := by
  rw [← quotient_mul_unit format]
  exact nearest_of_round wide fraction (Nat.pow_pos (by decide)) read finite

theorem ofDecimal_double_eq_infinity_iff :
    double.ofDecimal decimal = double.infinity ↔ 2 ^ 1024 - 2 ^ 970 ≤ decimal.value := by
  have last : double.midpoint (double.infinity - 1) = (2 ^ 54 - 1) * 2 ^ 971 * double.one := by
    decide +kernel
  have unit_eq : double.unit = (double.one : ℚ)⁻¹ := by rw [unit, one, Nat.cast_pow, Nat.cast_two]
  have one_pos : (0 : ℚ) < double.one := by exact_mod_cast double.one_pos
  have double_eq : (2 : ℚ) ^ 971 = 2 * 2 ^ 970 := pow_succ' 2 970
  have split_eq : (2 : ℚ) ^ 1024 = 2 ^ 54 * 2 ^ 970 := pow_add 2 54 970
  rw [ofDecimal, round_eq_infinity_iff (by decide) (by decide) (Nat.pow_pos (by decide)), last,
    ← quotient_mul_unit double, unit_eq, ← div_eq_mul_inv, le_div_iff₀ one_pos, Nat.cast_mul,
    Nat.cast_mul, Nat.cast_pow _ 971, Nat.cast_two, double_eq, split_eq]
  generalize (2 : ℚ) ^ 970 = power
  push_cast
  constructor <;> intro reached <;> linarith

end FloatFormat
end PackedNumbers
