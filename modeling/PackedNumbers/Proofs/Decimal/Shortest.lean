import PackedNumbers.Proofs.Decimal.Search
import PackedNumbers.Proofs.FloatFormat.Midpoint

/-!
The shortest decimal of a magnitude is rounded to the magnitude again, and its significand is not
much longer than the magnitude's own.
-/
namespace PackedNumbers.Decimal

variable {format : FloatFormat} {tie : Tie} {magnitude place : Nat}

theorem lower_interval (positive : 0 < magnitude) :
    (interval format magnitude).lower = format.midpoint (magnitude - 1) * 5 ^ format.scale := by
  rw [interval, FloatFormat.midpoint, Nat.sub_add_cancel positive, Nat.add_mul]
  rfl

theorem upper_interval :
    (interval format magnitude).upper = format.midpoint magnitude * 5 ^ format.scale := by
  rw [interval, FloatFormat.midpoint, Nat.add_mul]
  rfl

/-- The numbers of the interval are those that are rounded to the magnitude. -/
theorem contains_iff_round (fraction : 0 < format.fractionBits) (positive : 0 < magnitude)
    (finite : magnitude < format.infinity) {number : Nat} :
    (interval format magnitude).contains number = true ↔
      format.round number (5 ^ format.scale) = magnitude := by
  have scaled : 0 < 5 ^ format.scale := Nat.pow_pos (by decide)
  have even : (interval format magnitude).closed = true ↔ magnitude % 2 = 0 := beq_iff_eq
  have reached : format.round number (5 ^ format.scale) = magnitude ↔
      magnitude - 1 < format.round number (5 ^ format.scale) ∧
        ¬ magnitude < format.round number (5 ^ format.scale) := by
    omega
  rw [reached, FloatFormat.lt_round_iff fraction scaled, FloatFormat.lt_round_iff fraction scaled,
    Interval.contains_iff, lower_interval positive, upper_interval, even]
  unfold FloatFormat.Passes
  omega

theorem contains_exact (format : FloatFormat) (positive : 0 < magnitude) :
    (interval format magnitude).contains (exact format magnitude) = true := by
  have scaled : 0 < 5 ^ format.scale := Nat.pow_pos (by decide)
  have before : exact format (magnitude - 1) < exact format magnitude :=
    Nat.mul_lt_mul_of_pos_right (format.units_strictMono (by omega)) scaled
  have after : exact format magnitude < exact format (magnitude + 1) :=
    Nat.mul_lt_mul_of_pos_right (format.units_lt_units_succ magnitude) scaled
  apply Interval.contains_iff.mpr
  simp only [interval]
  omega

/-- A decimal that is rounded to a magnitude, in steps of `10 ^ -scale`, with not too long a
significand. -/
structure Hits (format : FloatFormat) (magnitude : Nat) (decimal : Decimal) (place : Nat) :
    Prop where
  exponent_eq : decimal.exponent = place - format.scale
  inside : (interval format magnitude).contains (decimal.significand * 10 ^ place) = true
  positive : 0 < decimal.significand
  short : decimal.significand ≤ 40 * 2 ^ format.fractionBits

theorem Hits.round_eq {decimal : Decimal} (fraction : 0 < format.fractionBits)
    (positive : 0 < magnitude) (finite : magnitude < format.infinity)
    (hits : Hits format magnitude decimal place) :
    format.round (decimal.significand * 10 ^ place) (5 ^ format.scale) = magnitude :=
  (contains_iff_round fraction positive finite).mp hits.inside

theorem lower_interval_pos (format : FloatFormat) (positive : 0 < magnitude) :
    0 < (interval format magnitude).lower := by
  rw [lower_interval positive]
  apply Nat.mul_pos _ (Nat.pow_pos (by decide))
  exact Nat.lt_of_le_of_lt (Nat.zero_le _) (Nat.lt_add_left _ (format.units_lt_units_succ _))

/-- Where a coarser grid already misses the interval, the number has few steps of the finer one. -/
theorem exact_lt_of_upper_le {step : Nat}
    (wide : (interval format magnitude).upper ≤ 2 * (exact format magnitude + 10 * step)) :
    exact format magnitude < 40 * 2 ^ format.fractionBits * step := by
  obtain ⟨exponent, significand, parts⟩ := format.exists_parts magnitude
  have gap : 2 ^ exponent * 5 ^ format.scale ≤ 20 * step := by
    simp only [interval, exact, parts.units_eq, parts.units_succ, Nat.add_mul, Nat.one_mul] at wide
    omega
  have scaled : 0 < 2 ^ exponent * 5 ^ format.scale :=
    Nat.mul_pos (Nat.two_pow_pos _) (Nat.pow_pos (by decide))
  calc
    _ = significand * (2 ^ exponent * 5 ^ format.scale) := by
      rw [exact, parts.units_eq, Nat.mul_assoc]
    _ < 2 * 2 ^ format.fractionBits * (2 ^ exponent * 5 ^ format.scale) :=
      Nat.mul_lt_mul_of_pos_right parts.short scaled
    _ ≤ 2 * 2 ^ format.fractionBits * (20 * step) := Nat.mul_le_mul_left _ gap
    _ = 40 * 2 ^ format.fractionBits * step := by
      rw [← Nat.mul_assoc, Nat.mul_right_comm 2 _ 20]

def firstPlace (format : FloatFormat) (magnitude : Nat) : Nat :=
  (Nat.toDigits 10 (exact format magnitude)).length

theorem exact_lt_pow (format : FloatFormat) (magnitude : Nat) :
    exact format magnitude < 10 ^ firstPlace format magnitude :=
  lt_pow_length_toDigits _

theorem exists_settled (format : FloatFormat) (positive : 0 < magnitude) (tie : Tie) :
    ∃ place : Nat, (shortest tie format magnitude).exponent = place - format.scale ∧
      Settled (interval format magnitude) (exact format magnitude) (firstPlace format magnitude)
        (shortest tie format magnitude).significand place :=
  ⟨_, rfl, settled_search tie (contains_exact format positive) _⟩

theorem exists_hits_shortest (positive : 0 < magnitude) (tie : Tie) :
    ∃ place, Hits format magnitude (shortest tie format magnitude) place := by
  obtain ⟨place, exponent_eq, settled⟩ := exists_settled format positive tie
  have leading := Nat.two_pow_pos format.fractionBits
  refine ⟨place, exponent_eq, settled.inside, ?_, ?_⟩
  · apply Nat.pos_of_ne_zero
    intro none
    have lower := lower_interval_pos format positive
    have zero := (Interval.contains_iff.mp settled.inside).1
    rw [none] at zero
    omega
  · apply Nat.le_trans settled.count_le
    have steps : exact format magnitude < 40 * 2 ^ format.fractionBits * 10 ^ place := by
      rcases settled.coarsest with last | missed
      · rw [last]
        exact Nat.lt_of_lt_of_le (exact_lt_pow format magnitude)
          (Nat.le_mul_of_pos_left _ (by omega))
      · have wide := upper_le_of_missed (Nat.pow_pos (by decide))
          (contains_exact format positive) missed
        rw [Nat.pow_succ'] at wide
        exact exact_lt_of_upper_le wide
    exact (Nat.div_lt_iff_lt_mul (Nat.pow_pos (by decide))).mpr steps

end PackedNumbers.Decimal
