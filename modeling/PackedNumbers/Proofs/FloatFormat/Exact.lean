import PackedNumbers.FloatFormat.Rounding

/-!
Numbers that a format holds are rounded to themselves. A magnitude counts a short significand times
a power of two, and every such product that is not too large is counted by some magnitude.
-/
namespace PackedNumbers

theorem nearestEven_mul {denominator : Nat} (positive : 0 < denominator) (quotient : Nat) :
    nearestEven (quotient * denominator) denominator = quotient := by
  have exact_quotient : quotient * denominator / denominator = quotient :=
    Nat.mul_div_cancel quotient positive
  have no_rest : quotient * denominator % denominator = 0 := Nat.mul_mod_left quotient denominator
  have stays : ¬(denominator < 2 * 0 ∨ 2 * 0 = denominator ∧ quotient % 2 = 1) := by omega
  simp only [nearestEven, exact_quotient, no_rest, if_neg stays]

namespace FloatFormat

variable {format : FloatFormat}

theorem units_of_lt {magnitude : Nat} (least : magnitude < 2 ^ format.fractionBits) :
    format.units magnitude = magnitude := by
  simp only [units, Nat.div_eq_of_lt least, Nat.mod_eq_of_lt least, if_true]

theorem units_of_binade {fraction : Nat} (exponent : Nat)
    (short : fraction < 2 ^ format.fractionBits) :
    format.units ((exponent + 1) * 2 ^ format.fractionBits + fraction) =
      (2 ^ format.fractionBits + fraction) * 2 ^ exponent := by
  have field : ((exponent + 1) * 2 ^ format.fractionBits + fraction) / 2 ^ format.fractionBits =
      exponent + 1 := by
    rw [Nat.mul_comm, Nat.mul_add_div (Nat.two_pow_pos _), Nat.div_eq_of_lt short, Nat.add_zero]
  have rest : ((exponent + 1) * 2 ^ format.fractionBits + fraction) % 2 ^ format.fractionBits =
      fraction := by
    rw [Nat.mul_comm, Nat.mul_add_mod, Nat.mod_eq_of_lt short]
  simp only [units, field, rest, if_neg (Nat.succ_ne_zero exponent), Nat.add_sub_cancel]

theorem magnitude_cases (format : FloatFormat) (magnitude : Nat) :
    magnitude < 2 ^ format.fractionBits ∨
      ∃ exponent fraction, fraction < 2 ^ format.fractionBits ∧
        magnitude = (exponent + 1) * 2 ^ format.fractionBits + fraction := by
  rcases Nat.lt_or_ge magnitude (2 ^ format.fractionBits) with least | above
  · exact .inl least
  · right
    have field : 0 < magnitude / 2 ^ format.fractionBits :=
      Nat.div_pos above (Nat.two_pow_pos _)
    refine ⟨magnitude / 2 ^ format.fractionBits - 1, magnitude % 2 ^ format.fractionBits,
      Nat.mod_lt _ (Nat.two_pow_pos _), ?_⟩
    rw [Nat.sub_add_cancel field, Nat.div_add_mod']

theorem log2_of_least {number : Nat} (least : number < 2 ^ format.fractionBits) :
    number.log2 - format.fractionBits = 0 := by
  apply Nat.sub_eq_zero_of_le
  rcases Nat.eq_zero_or_pos number with rfl | positive
  · rw [Nat.log2_zero]
    exact Nat.zero_le _
  · exact Nat.le_of_lt ((Nat.log2_lt (Nat.ne_of_gt positive)).mpr least)

theorem log2_of_binade {fraction : Nat} (exponent : Nat)
    (short : fraction < 2 ^ format.fractionBits) :
    ((2 ^ format.fractionBits + fraction) * 2 ^ exponent).log2 - format.fractionBits =
      exponent := by
  have leading := Nat.two_pow_pos format.fractionBits
  have grid := Nat.two_pow_pos exponent
  have some_number : (2 ^ format.fractionBits + fraction) * 2 ^ exponent ≠ 0 :=
    Nat.ne_of_gt (Nat.mul_pos (by omega) grid)
  have binade : ((2 ^ format.fractionBits + fraction) * 2 ^ exponent).log2 =
      format.fractionBits + exponent := by
    rw [Nat.log2_eq_iff some_number]
    constructor
    · rw [Nat.pow_add]
      exact Nat.mul_le_mul_right _ (Nat.le_add_right _ fraction)
    · rw [Nat.add_right_comm, Nat.pow_add, Nat.pow_succ]
      exact Nat.mul_lt_mul_of_pos_right (by omega) grid
  rw [binade, Nat.add_sub_cancel_left]

theorem round_units {magnitude denominator : Nat} (within : magnitude ≤ format.infinity)
    (positive : 0 < denominator) :
    format.round (format.units magnitude * denominator) denominator = magnitude := by
  rcases format.magnitude_cases magnitude with least | ⟨exponent, fraction, short, rfl⟩
  · rw [round, units_of_lt least, Nat.mul_div_cancel magnitude positive, log2_of_least least,
      Nat.pow_zero, Nat.mul_one, nearestEven_mul positive, Nat.zero_mul, Nat.zero_add]
    exact Nat.min_eq_left within
  · have scaled : (2 ^ format.fractionBits + fraction) * 2 ^ exponent * denominator =
        (2 ^ format.fractionBits + fraction) * (denominator * 2 ^ exponent) := by
      rw [Nat.mul_assoc, Nat.mul_comm (2 ^ exponent)]
    have carried : exponent * 2 ^ format.fractionBits + (2 ^ format.fractionBits + fraction) =
        (exponent + 1) * 2 ^ format.fractionBits + fraction := by
      rw [Nat.succ_mul, Nat.add_assoc]
    rw [round, units_of_binade exponent short, Nat.mul_div_cancel _ positive,
      log2_of_binade exponent short, scaled,
      nearestEven_mul (Nat.mul_pos positive (Nat.two_pow_pos exponent)), carried]
    exact Nat.min_eq_left within

/-- A magnitude counts a short significand times a power of two below its own binade. -/
theorem units_eq_significand (format : FloatFormat) (magnitude : Nat) :
    ∃ significand exponent, format.units magnitude = significand * 2 ^ exponent ∧
      significand < 2 ^ (format.fractionBits + 1) ∧
      exponent * 2 ^ format.fractionBits ≤ magnitude := by
  rcases format.magnitude_cases magnitude with least | ⟨exponent, fraction, short, rfl⟩
  · refine ⟨magnitude, 0, ?_, ?_, ?_⟩
    · rw [units_of_lt least, Nat.pow_zero, Nat.mul_one]
    · exact Nat.lt_of_lt_of_le least (Nat.pow_le_pow_right (by decide) (Nat.le_succ _))
    · rw [Nat.zero_mul]
      exact Nat.zero_le magnitude
  · refine ⟨2 ^ format.fractionBits + fraction, exponent, units_of_binade exponent short, ?_, ?_⟩
    · rw [Nat.pow_succ]
      omega
    · rw [Nat.succ_mul]
      omega

theorem units_of_normal {significand : Nat} (exponent : Nat)
    (leading : 2 ^ format.fractionBits ≤ significand)
    (short : significand < 2 ^ (format.fractionBits + 1)) :
    format.units (exponent * 2 ^ format.fractionBits + significand) =
      significand * 2 ^ exponent := by
  have fraction : significand - 2 ^ format.fractionBits < 2 ^ format.fractionBits := by
    rw [Nat.pow_succ] at short
    omega
  have field : exponent * 2 ^ format.fractionBits + significand =
      (exponent + 1) * 2 ^ format.fractionBits + (significand - 2 ^ format.fractionBits) := by
    rw [Nat.succ_mul]
    omega
  rw [field, units_of_binade exponent fraction, Nat.add_sub_cancel' leading]

theorem exists_units_eq (significand exponent : Nat)
    (short : significand < 2 ^ (format.fractionBits + 1)) :
    ∃ magnitude, format.units magnitude = significand * 2 ^ exponent ∧
      magnitude < (exponent + 2) * 2 ^ format.fractionBits := by
  have twice : 2 ^ (format.fractionBits + 1) = 2 * 2 ^ format.fractionBits := Nat.pow_succ'
  induction exponent generalizing significand with
  | zero =>
    rcases Nat.lt_or_ge significand (2 ^ format.fractionBits) with low | leading
    · refine ⟨significand, ?_, by omega⟩
      rw [units_of_lt low, Nat.pow_zero, Nat.mul_one]
    · exact ⟨_, units_of_normal 0 leading short, by omega⟩
  | succ exponent ih =>
    rcases Nat.lt_or_ge significand (2 ^ format.fractionBits) with low | leading
    · -- A significand without its leading bit takes a factor of two from the power.
      obtain ⟨magnitude, counts, below⟩ := ih (2 * significand) (by omega)
      refine ⟨magnitude, ?_, ?_⟩
      · rw [counts, Nat.pow_succ, Nat.mul_comm 2, Nat.mul_assoc, Nat.mul_comm 2]
      · exact Nat.lt_of_lt_of_le below (Nat.mul_le_mul_right _ (Nat.le_succ _))
    · refine ⟨_, units_of_normal (exponent + 1) leading short, ?_⟩
      rw [Nat.add_mul (exponent + 1)]
      omega

end FloatFormat
end PackedNumbers
