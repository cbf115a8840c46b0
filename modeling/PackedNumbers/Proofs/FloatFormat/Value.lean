import Mathlib.Algebra.Order.Field.Rat
import Mathlib.Tactic.FieldSimp
import Mathlib.Tactic.Linarith
import Mathlib.Tactic.Positivity
import Mathlib.Tactic.Ring
import PackedNumbers.Proofs.FloatFormat.Midpoint

/-!
The exact number of a float word, read from its three fields, and the same number as a count of
units.
-/
namespace PackedNumbers

namespace SignMagnitude

variable {width : Nat}

def sign (negative : Bool) : ℚ := if negative then -1 else 1

theorem abs_sign (negative : Bool) : |sign negative| = 1 := by
  cases negative <;> simp [sign]

theorem sign_ne_zero (negative : Bool) : sign negative ≠ 0 := by
  cases negative <;> simp [sign]

theorem sign_mul_self (negative : Bool) : sign negative * sign negative = 1 := by
  cases negative <;> simp [sign]

theorem abs_sign_mul_sub (negative : Bool) (number other : ℚ) :
    |sign negative * number - other| = |number - sign negative * other| := by
  calc
    _ = |sign negative| * |sign negative * number - other| := by rw [abs_sign, one_mul]
    _ = |sign negative * sign negative * number - sign negative * other| := by
      rw [← abs_mul]
      congr 1
      ring
    _ = |number - sign negative * other| := by rw [sign_mul_self, one_mul]

end SignMagnitude

namespace FloatFormat

variable {format : FloatFormat} {width : Nat} {word left right : BitVec width}

def bias (format : FloatFormat) : Nat := 2 ^ (format.exponentBits - 1) - 1

def exponentField (format : FloatFormat) (word : BitVec width) : Nat :=
  SignMagnitude.magnitude word / 2 ^ format.fractionBits

def fractionField (format : FloatFormat) (word : BitVec width) : Nat :=
  SignMagnitude.magnitude word % 2 ^ format.fractionBits

def significand (format : FloatFormat) (word : BitVec width) : Nat :=
  if format.exponentField word = 0 then format.fractionField word
  else 2 ^ format.fractionBits + format.fractionField word

def power (format : FloatFormat) (word : BitVec width) : ℤ :=
  max 1 (format.exponentField word : ℤ) - format.bias - format.fractionBits

/-- The exact number of a word that is neither infinite nor a NaN. -/
def value (format : FloatFormat) (word : BitVec width) : ℚ :=
  SignMagnitude.sign (SignMagnitude.negative word) * format.significand word *
    2 ^ format.power word

def IsFinite (format : FloatFormat) (word : BitVec width) : Prop :=
  format.exponentField word < 2 ^ format.exponentBits - 1

instance (format : FloatFormat) (word : BitVec width) : Decidable (format.IsFinite word) :=
  inferInstanceAs (Decidable (_ < _))

theorem isFinite_iff : format.IsFinite word ↔ SignMagnitude.magnitude word < format.infinity := by
  rw [IsFinite, exponentField, infinity, Nat.div_lt_iff_lt_mul (Nat.two_pow_pos _)]

def unit (format : FloatFormat) : ℚ := (2 ^ format.scale)⁻¹

theorem unit_pos (format : FloatFormat) : 0 < format.unit := by
  unfold unit
  positivity

theorem units_magnitude (format : FloatFormat) (word : BitVec width) :
    format.units (SignMagnitude.magnitude word) =
      format.significand word * 2 ^ (format.exponentField word - 1) := by
  change (if format.exponentField word = 0 then format.fractionField word
    else (2 ^ format.fractionBits + format.fractionField word) *
      2 ^ (format.exponentField word - 1)) = _
  unfold significand
  split
  · next least => rw [least, Nat.zero_sub, Nat.pow_zero, Nat.mul_one]
  · rfl

theorem power_eq (wide : 1 < format.exponentBits) (word : BitVec width) :
    format.power word = ((format.exponentField word - 1 : ℕ) : ℤ) - (format.scale : ℤ) := by
  have two_le : 2 ^ 1 ≤ 2 ^ (format.exponentBits - 1) :=
    Nat.pow_le_pow_right (by decide) (by omega)
  unfold power bias scale
  generalize 2 ^ (format.exponentBits - 1) = half at two_le
  omega

theorem value_eq_units (wide : 1 < format.exponentBits) (word : BitVec width) :
    format.value word = SignMagnitude.sign (SignMagnitude.negative word) *
      (format.units (SignMagnitude.magnitude word) * format.unit) := by
  have split : (2 : ℚ) ^ format.power word =
      2 ^ (format.exponentField word - 1) * format.unit := by
    rw [power_eq wide, zpow_sub₀ two_ne_zero, zpow_natCast, zpow_natCast, div_eq_mul_inv]
    rfl
  rw [value, split, units_magnitude]
  push_cast
  ring

theorem units_zero (format : FloatFormat) : format.units 0 = 0 := units_of_lt (Nat.two_pow_pos _)

theorem sign_mul_value (wide : 1 < format.exponentBits) (word : BitVec width) :
    SignMagnitude.sign (SignMagnitude.negative word) * format.value word =
      format.units (SignMagnitude.magnitude word) * format.unit := by
  rw [value_eq_units wide, ← mul_assoc, SignMagnitude.sign_mul_self, one_mul]

theorem magnitude_eq_of_value_eq (wide : 1 < format.exponentBits)
    (signs : SignMagnitude.negative left = SignMagnitude.negative right)
    (same : format.value left = format.value right) :
    SignMagnitude.magnitude left = SignMagnitude.magnitude right := by
  have counts := sign_mul_value wide left
  rw [signs, same, sign_mul_value wide right] at counts
  have units_eq : format.units (SignMagnitude.magnitude right) =
      format.units (SignMagnitude.magnitude left) := by
    exact_mod_cast mul_right_cancel₀ format.unit_pos.ne' counts
  exact format.units_strictMono.injective units_eq.symm

theorem sign_mul_value_cases (wide : 1 < format.exponentBits) (negative : Bool)
    (word : BitVec width) :
    SignMagnitude.sign negative * format.value word =
        format.units (SignMagnitude.magnitude word) * format.unit ∨
      0 < format.units (SignMagnitude.magnitude word) ∧
        SignMagnitude.sign negative * format.value word =
          -(format.units (SignMagnitude.magnitude word) * format.unit) := by
  have own := sign_mul_value wide word
  by_cases same : SignMagnitude.negative word = negative
  · left
    rw [← same, own]
  · have turned : SignMagnitude.sign negative =
        -SignMagnitude.sign (SignMagnitude.negative word) := by
      cases negative <;> simp_all [SignMagnitude.sign]
    rcases Nat.eq_zero_or_pos (format.units (SignMagnitude.magnitude word)) with zero | some_units
    · left
      rw [turned, neg_mul, own, zero, Nat.cast_zero, zero_mul, neg_zero]
    · right
      rw [turned, neg_mul, own]
      exact ⟨some_units, rfl⟩

theorem significand_mod_two (fraction : 0 < format.fractionBits) (word : BitVec width) :
    format.significand word % 2 = SignMagnitude.magnitude word % 2 := by
  have even : 2 ∣ 2 ^ format.fractionBits := dvd_pow_self 2 (Nat.ne_of_gt fraction)
  have field : format.fractionField word % 2 = SignMagnitude.magnitude word % 2 :=
    Nat.mod_mod_of_dvd _ even
  unfold significand
  split
  · exact field
  · rw [← field]
    omega

theorem value_le_of_rank_le (wide : 1 < format.exponentBits)
    (below : SignMagnitude.rank left ≤ SignMagnitude.rank right) :
    format.value left ≤ format.value right := by
  have climbs {low high : Nat} (below : low ≤ high) :
      (format.units low : ℚ) * format.unit ≤ format.units high * format.unit := by
    have counts : (format.units low : ℚ) ≤ format.units high := by
      exact_mod_cast format.units_strictMono.monotone below
    exact mul_le_mul_of_nonneg_right counts format.unit_pos.le
  have positive (magnitude : Nat) : 0 ≤ (format.units magnitude : ℚ) * format.unit :=
    mul_nonneg (Nat.cast_nonneg _) format.unit_pos.le
  rw [value_eq_units wide, value_eq_units wide]
  unfold SignMagnitude.rank at below
  cases leftSign : SignMagnitude.negative left with
  | true =>
    cases rightSign : SignMagnitude.negative right with
    | true =>
      simp only [leftSign, rightSign, if_true] at below
      have deeper :=
        climbs (show SignMagnitude.magnitude right ≤ SignMagnitude.magnitude left by omega)
      simp only [SignMagnitude.sign, if_true]
      linarith
    | false =>
      have lefts := positive (SignMagnitude.magnitude left)
      have rights := positive (SignMagnitude.magnitude right)
      simp only [SignMagnitude.sign, if_true, Bool.false_eq_true, if_false]
      linarith
  | false =>
    cases rightSign : SignMagnitude.negative right with
    | true =>
      simp only [leftSign, rightSign, if_true, Bool.false_eq_true, if_false] at below
      omega
    | false =>
      simp only [leftSign, rightSign, Bool.false_eq_true, if_false] at below
      have higher :=
        climbs (show SignMagnitude.magnitude left ≤ SignMagnitude.magnitude right by omega)
      simp only [SignMagnitude.sign, Bool.false_eq_true, if_false]
      linarith

end FloatFormat
end PackedNumbers
