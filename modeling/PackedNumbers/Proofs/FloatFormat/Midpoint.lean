import Mathlib.Order.Monotone.Basic
import PackedNumbers.Proofs.FloatFormat.Exact

/-!
The numbers of a format as a grid. A quotient is rounded past a magnitude exactly if it lies above
the midpoint to the next one, or on it where the magnitude is odd; so rounding keeps order.
-/
namespace PackedNumbers

theorem nearestEven_le (numerator denominator : Nat) :
    numerator / denominator ≤ nearestEven numerator denominator ∧
      nearestEven numerator denominator ≤ numerator / denominator + 1 := by
  simp only [nearestEven]
  split <;> omega

theorem lt_nearestEven_iff {quotient numerator denominator : Nat} (positive : 0 < denominator) :
    quotient < nearestEven numerator denominator ↔
      (2 * quotient + 1) * denominator < 2 * numerator ∨
        (2 * quotient + 1) * denominator = 2 * numerator ∧ quotient % 2 = 1 := by
  obtain ⟨least, greatest⟩ := nearestEven_le numerator denominator
  have whole := Nat.div_add_mod numerator denominator
  have rest := Nat.mod_lt numerator positive
  rw [Nat.add_mul, Nat.one_mul, Nat.mul_assoc]
  rcases Nat.lt_trichotomy quotient (numerator / denominator) with below | rfl | above
  · have scaled := Nat.mul_le_mul_right denominator below
    rw [Nat.succ_mul, Nat.mul_comm (numerator / denominator)] at scaled
    exact iff_of_true (Nat.lt_of_lt_of_le below least) (.inl (by omega))
  · rw [Nat.mul_comm (numerator / denominator)]
    simp only [nearestEven]
    split <;> omega
  · have scaled := Nat.mul_le_mul_right denominator above
    rw [Nat.succ_mul, Nat.mul_comm (numerator / denominator)] at scaled
    exact iff_of_false (Nat.not_lt_of_le (Nat.le_trans greatest above)) (by omega)

namespace FloatFormat

variable {format : FloatFormat} {magnitude exponent significand : Nat}

/-- A magnitude as a significand over an exponent. Only the least exponent has significands without
a leading bit. -/
structure Parts (format : FloatFormat) (magnitude exponent significand : Nat) : Prop where
  place : magnitude = exponent * 2 ^ format.fractionBits + significand
  short : significand < 2 * 2 ^ format.fractionBits
  leading : exponent = 0 ∨ 2 ^ format.fractionBits ≤ significand

theorem exists_parts (format : FloatFormat) (magnitude : Nat) :
    ∃ exponent significand, Parts format magnitude exponent significand := by
  rcases format.magnitude_cases magnitude with least | ⟨exponent, fraction, short, rfl⟩
  · exact ⟨0, magnitude, by omega, by omega, .inl rfl⟩
  · refine ⟨exponent, 2 ^ format.fractionBits + fraction, ?_, by omega, .inr (by omega)⟩
    rw [Nat.succ_mul, Nat.add_assoc]

namespace Parts

theorem units_eq (parts : Parts format magnitude exponent significand) :
    format.units magnitude = significand * 2 ^ exponent := by
  obtain ⟨rfl, short, leading⟩ := parts
  rcases Nat.lt_or_ge significand (2 ^ format.fractionBits) with low | normal
  · have least : exponent = 0 := by omega
    rw [least, Nat.zero_mul, Nat.zero_add, units_of_lt low, Nat.pow_zero, Nat.mul_one]
  · exact units_of_normal exponent normal (by rw [Nat.pow_succ]; omega)

theorem units_succ (parts : Parts format magnitude exponent significand) :
    format.units (magnitude + 1) = (significand + 1) * 2 ^ exponent := by
  obtain ⟨rfl, short, leading⟩ := parts
  rcases Nat.lt_or_ge (significand + 1) (2 * 2 ^ format.fractionBits) with inside | carry
  · exact units_eq ⟨by omega, inside, by omega⟩
  · -- The significand runs full, so the next magnitude opens the next binade.
    have full : significand + 1 = 2 * 2 ^ format.fractionBits := by omega
    have next : Parts format (exponent * 2 ^ format.fractionBits + significand + 1) (exponent + 1)
        (2 ^ format.fractionBits) := by
      refine ⟨?_, by omega, .inr (Nat.le_refl _)⟩
      rw [Nat.succ_mul]
      omega
    rw [units_eq next, full, Nat.pow_succ, Nat.mul_comm 2, Nat.mul_assoc, Nat.mul_comm 2]

end Parts

theorem units_lt_units_succ (format : FloatFormat) (magnitude : Nat) :
    format.units magnitude < format.units (magnitude + 1) := by
  obtain ⟨exponent, significand, parts⟩ := format.exists_parts magnitude
  rw [parts.units_eq, parts.units_succ]
  exact Nat.mul_lt_mul_of_pos_right (Nat.lt_succ_self significand) (Nat.two_pow_pos exponent)

theorem units_strictMono (format : FloatFormat) : StrictMono format.units :=
  strictMono_nat_of_lt_succ format.units_lt_units_succ

/-- Twice the number halfway between a magnitude and the next, in units. -/
def midpoint (format : FloatFormat) (magnitude : Nat) : Nat :=
  format.units magnitude + format.units (magnitude + 1)

theorem Parts.midpoint_eq (parts : Parts format magnitude exponent significand) :
    format.midpoint magnitude = (2 * significand + 1) * 2 ^ exponent := by
  rw [midpoint, parts.units_eq, parts.units_succ, ← Nat.add_mul]
  congr 1
  omega

def Passes (format : FloatFormat) (magnitude numerator denominator : Nat) : Prop :=
  format.midpoint magnitude * denominator < 2 * numerator ∨
    format.midpoint magnitude * denominator = 2 * numerator ∧ magnitude % 2 = 1

variable {numerator denominator : Nat}

theorem step_bounds (format : FloatFormat) (numerator : Nat) (positive : 0 < denominator) :
    let step := (numerator / denominator).log2 - format.fractionBits
    numerator < 2 * 2 ^ format.fractionBits * (denominator * 2 ^ step) ∧
      (step = 0 ∨ 2 ^ format.fractionBits * (denominator * 2 ^ step) ≤ numerator) := by
  intro step
  have above := Nat.lt_log2_self (n := numerator / denominator)
  have arranged : ∀ factor : Nat, factor * (denominator * 2 ^ step) =
      factor * 2 ^ step * denominator := by
    intro factor
    rw [Nat.mul_assoc, Nat.mul_comm denominator]
  simp only [arranged]
  constructor
  · apply (Nat.div_lt_iff_lt_mul positive).mp
    apply Nat.lt_of_lt_of_le above
    rw [← Nat.pow_succ', ← Nat.pow_add]
    exact Nat.pow_le_pow_right (by decide) (by omega)
  · rcases Nat.eq_zero_or_pos step with least | some_step
    · exact .inl least
    · right
      have some_quotient : numerator / denominator ≠ 0 := by
        intro none
        simp only [step, none, Nat.log2_zero] at some_step
        omega
      apply (Nat.le_div_iff_mul_le positive).mp
      apply Nat.le_trans _ (Nat.log2_self_le some_quotient)
      rw [← Nat.pow_add]
      exact Nat.pow_le_pow_right (by decide) (by omega)

theorem passes_of_below {exponent : Nat}
    (below : magnitude < (exponent + 1) * 2 ^ format.fractionBits)
    (large : 2 ^ format.fractionBits * (denominator * 2 ^ exponent) ≤ numerator)
    (positive : 0 < denominator) : format.Passes magnitude numerator denominator := by
  have top : Parts format ((exponent + 1) * 2 ^ format.fractionBits) exponent
      (2 ^ format.fractionBits) :=
    ⟨Nat.succ_mul .., by have := Nat.two_pow_pos format.fractionBits; omega, .inr (Nat.le_refl _)⟩
  have next : format.units (magnitude + 1) ≤ 2 ^ format.fractionBits * 2 ^ exponent := by
    rw [← top.units_eq]
    exact format.units_strictMono.monotone below
  have small : format.midpoint magnitude < 2 * (2 ^ format.fractionBits * 2 ^ exponent) := by
    have here := format.units_lt_units_succ magnitude
    unfold midpoint
    omega
  left
  calc
    _ < 2 * (2 ^ format.fractionBits * 2 ^ exponent) * denominator :=
      Nat.mul_lt_mul_of_pos_right small positive
    _ = 2 * (2 ^ format.fractionBits * (denominator * 2 ^ exponent)) := by
      rw [Nat.mul_comm denominator, Nat.mul_assoc, Nat.mul_assoc]
    _ ≤ 2 * numerator := Nat.mul_le_mul_left 2 large

theorem not_passes_of_above {exponent : Nat}
    (above : (exponent + 2) * 2 ^ format.fractionBits ≤ magnitude)
    (small : numerator < 2 * 2 ^ format.fractionBits * (denominator * 2 ^ exponent)) :
    ¬ format.Passes magnitude numerator denominator := by
  have bottom : Parts format ((exponent + 2) * 2 ^ format.fractionBits) (exponent + 1)
      (2 ^ format.fractionBits) :=
    ⟨Nat.succ_mul .., by have := Nat.two_pow_pos format.fractionBits; omega, .inr (Nat.le_refl _)⟩
  have here : 2 * 2 ^ format.fractionBits * 2 ^ exponent ≤ format.units magnitude := by
    have low := format.units_strictMono.monotone above
    rw [bottom.units_eq, Nat.pow_succ, Nat.mul_comm (2 ^ exponent), ← Nat.mul_assoc,
      Nat.mul_comm _ 2] at low
    exact low
  have large : 2 * (2 * 2 ^ format.fractionBits * 2 ^ exponent) ≤ format.midpoint magnitude := by
    have next := format.units_lt_units_succ magnitude
    unfold midpoint
    omega
  have scaled : 2 * numerator < format.midpoint magnitude * denominator := by
    calc
      _ < 2 * (2 * 2 ^ format.fractionBits * (denominator * 2 ^ exponent)) :=
        Nat.mul_lt_mul_of_pos_left small (by decide)
      _ = 2 * (2 * 2 ^ format.fractionBits * 2 ^ exponent) * denominator := by
        rw [Nat.mul_comm denominator, Nat.mul_assoc 2 (2 * _ * _), ← Nat.mul_assoc (2 * _)]
      _ ≤ format.midpoint magnitude * denominator := Nat.mul_le_mul_right denominator large
  unfold Passes
  omega

/-- Where rounding leads, said of each magnitude alone. -/
theorem lt_round_iff (fraction : 0 < format.fractionBits) (positive : 0 < denominator) :
    magnitude < format.round numerator denominator ↔
      magnitude < format.infinity ∧ format.Passes magnitude numerator denominator := by
  obtain ⟨small, large⟩ := format.step_bounds numerator positive
  rw [round, Nat.lt_min, and_comm, and_congr_right_iff]
  intro _
  generalize (numerator / denominator).log2 - format.fractionBits = step at small large
  have scaled : 0 < denominator * 2 ^ step := Nat.mul_pos positive (Nat.two_pow_pos step)
  obtain ⟨least, greatest⟩ := nearestEven_le numerator (denominator * 2 ^ step)
  have upper : numerator / (denominator * 2 ^ step) < 2 * 2 ^ format.fractionBits :=
    (Nat.div_lt_iff_lt_mul scaled).mpr small
  have next : (step + 1) * 2 ^ format.fractionBits =
      step * 2 ^ format.fractionBits + 2 ^ format.fractionBits := Nat.succ_mul ..
  have second : (step + 2) * 2 ^ format.fractionBits =
      step * 2 ^ format.fractionBits + 2 * 2 ^ format.fractionBits := Nat.add_mul ..
  by_cases above : (step + 2) * 2 ^ format.fractionBits ≤ magnitude
  · exact iff_of_false (by omega) (not_passes_of_above above small)
  by_cases below : step ≠ 0 ∧ magnitude < (step + 1) * 2 ^ format.fractionBits
  · have normal := large.resolve_left below.1
    have lower : 2 ^ format.fractionBits ≤ numerator / (denominator * 2 ^ step) :=
      (Nat.le_div_iff_mul_le scaled).mpr normal
    exact iff_of_true (by omega) (passes_of_below below.2 normal positive)
  · -- On the grid itself, the significands decide as integers do.
    obtain ⟨significand, rfl⟩ : ∃ significand,
        magnitude = step * 2 ^ format.fractionBits + significand := by
      apply Nat.exists_eq_add_of_le
      rcases Nat.eq_zero_or_pos step with rfl | some_step <;> omega
    have parts : Parts format (step * 2 ^ format.fractionBits + significand) step significand :=
      ⟨rfl, by omega, by omega⟩
    have even : 2 ^ format.fractionBits % 2 = 0 := by
      rw [← Nat.succ_pred_eq_of_pos fraction, Nat.pow_succ]
      exact Nat.mul_mod_left ..
    have parity : (step * 2 ^ format.fractionBits + significand) % 2 = significand % 2 := by
      rw [Nat.add_mod, Nat.mul_mod, even, Nat.mul_zero, Nat.zero_mod, Nat.zero_add, Nat.mod_mod]
    rw [Nat.add_lt_add_iff_left, lt_nearestEven_iff scaled, Passes, parts.midpoint_eq, parity,
      Nat.mul_assoc _ (2 ^ step), Nat.mul_comm (2 ^ step)]

theorem round_le_infinity (format : FloatFormat) (numerator denominator : Nat) :
    format.round numerator denominator ≤ format.infinity :=
  Nat.min_le_right ..

theorem Passes.mono {otherNumerator otherDenominator : Nat} (positive : 0 < denominator)
    (otherPositive : 0 < otherDenominator)
    (below : numerator * otherDenominator ≤ otherNumerator * denominator)
    (passes : format.Passes magnitude numerator denominator) :
    format.Passes magnitude otherNumerator otherDenominator := by
  have moved : (format.midpoint magnitude * otherDenominator) * denominator =
      format.midpoint magnitude * denominator * otherDenominator := Nat.mul_right_comm ..
  have doubled : 2 * numerator * otherDenominator ≤ 2 * otherNumerator * denominator := by
    rw [Nat.mul_assoc, Nat.mul_assoc]
    exact Nat.mul_le_mul_left 2 below
  rcases passes with strict | ⟨level, odd⟩
  · left
    apply Nat.lt_of_mul_lt_mul_right (a := denominator)
    rw [moved]
    exact Nat.lt_of_lt_of_le (Nat.mul_lt_mul_of_pos_right strict otherPositive) doubled
  · have reached : format.midpoint magnitude * otherDenominator ≤ 2 * otherNumerator := by
      apply Nat.le_of_mul_le_mul_right _ positive
      rw [moved, level]
      exact doubled
    rcases Nat.lt_or_eq_of_le reached with strict | same
    · exact .inl strict
    · exact .inr ⟨same, odd⟩

theorem round_mono {otherNumerator otherDenominator : Nat} (fraction : 0 < format.fractionBits)
    (positive : 0 < denominator) (otherPositive : 0 < otherDenominator)
    (below : numerator * otherDenominator ≤ otherNumerator * denominator) :
    format.round numerator denominator ≤ format.round otherNumerator otherDenominator := by
  by_contra inverted
  obtain ⟨within, passes⟩ := (lt_round_iff fraction positive).mp (Nat.lt_of_not_le inverted)
  have passed := (lt_round_iff fraction otherPositive).mpr
    ⟨within, passes.mono positive otherPositive below⟩
  exact Nat.lt_irrefl _ passed

end FloatFormat
end PackedNumbers
