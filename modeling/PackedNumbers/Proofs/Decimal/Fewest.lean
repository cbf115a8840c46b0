import PackedNumbers.Proofs.Decimal.Search
import PackedNumbers.Proofs.Decimal.Value
import PackedNumbers.Proofs.Element.Scalar

/-!
The shortest decimal reads back as the magnitude it was found for, no decimal of fewer digits does,
and none of as few digits is nearer.
-/
namespace PackedNumbers.Decimal

open FloatFormat

section Grid

variable {format : FloatFormat} {tie : Tie} {magnitude place : Nat}
  {decimal low middle high other : Decimal}

theorem ofDecimal_eq_iff (fraction : 0 < format.fractionBits) (positive : 0 < magnitude)
    (finite : magnitude < format.infinity) (placed : decimal.exponent = place - format.scale) :
    format.ofDecimal decimal = magnitude ↔
      (interval format magnitude).contains (decimal.significand * 10 ^ place) = true := by
  rw [contains_iff_round fraction positive finite, ofDecimal_eq_round fraction placed]

theorem Hits.ofDecimal_eq (fraction : 0 < format.fractionBits) (positive : 0 < magnitude)
    (finite : magnitude < format.infinity) (hits : Hits format magnitude decimal place) :
    format.ofDecimal decimal = magnitude := by
  rw [ofDecimal_eq_round fraction hits.exponent_eq]
  exact hits.round_eq fraction positive finite

theorem ofDecimal_between (fraction : 0 < format.fractionBits)
    (first : format.ofDecimal low = magnitude) (last : format.ofDecimal high = magnitude)
    (above : low.value ≤ middle.value) (below : middle.value ≤ high.value) :
    format.ofDecimal middle = magnitude :=
  Nat.le_antisymm ((ofDecimal_mono fraction below).trans_eq last)
    (first.symm.trans_le (ofDecimal_mono fraction above))

def leading (decimal : Decimal) : Decimal := ⟨10 ^ (decimal.digits - 1), decimal.exponent⟩

theorem leading_exponent (decimal : Decimal) : decimal.leading.exponent = decimal.exponent := rfl

theorem value_leading (decimal : Decimal) :
    decimal.leading.value = 10 ^ ((decimal.digits - 1 : Nat) + decimal.exponent) := by
  rw [zpow_add₀ (by norm_num), zpow_natCast, leading, value]
  push_cast
  rfl

theorem leading_value_le (positive : 0 < decimal.significand) :
    decimal.leading.value ≤ decimal.value := by
  rw [value_leading]
  exact pow_le_value positive

/-- What reads back on a finer grid, with no more places before it, lies below a leading one that
reads back as well. -/
theorem ofDecimal_leading (fraction : 0 < format.fractionBits) (positive : 0 < decimal.significand)
    (found : format.ofDecimal decimal = magnitude) (read : format.ofDecimal other = magnitude)
    (lower : other.digits + other.exponent ≤ (decimal.digits - 1 : Nat) + decimal.exponent) :
    other.value < decimal.leading.value ∧ format.ofDecimal decimal.leading = magnitude := by
  have below : other.value < decimal.leading.value := by
    rw [value_leading]
    exact other.value_lt_pow.trans_le (zpow_le_zpow_right₀ (by norm_num) lower)
  exact ⟨below, ofDecimal_between fraction read found below.le (leading_value_le positive)⟩

theorem Hits.settled (positive : 0 < magnitude)
    (hits : Hits format magnitude (shortest tie format magnitude) place) :
    Settled (interval format magnitude) (exact format magnitude) (firstPlace format magnitude)
      (shortest tie format magnitude).significand place := by
  obtain ⟨found, exponent_eq, settled⟩ := exists_settled format positive tie
  have same := hits.exponent_eq
  have placed : place = found := by omega
  rwa [placed]

theorem Hits.significand_eq_one (positive : 0 < magnitude)
    (hits : Hits format magnitude (shortest tie format magnitude) place)
    (first : place = firstPlace format magnitude) :
    (shortest tie format magnitude).significand = 1 := by
  have bound := (hits.settled positive).count_le
  rw [first, Nat.div_eq_of_lt (exact_lt_pow format magnitude)] at bound
  exact Nat.le_antisymm bound hits.positive

/-- Nothing on a coarser grid reads back, or one step of the first grid does. -/
theorem Hits.coarser_or_one (fraction : 0 < format.fractionBits) (positive : 0 < magnitude)
    (finite : magnitude < format.infinity)
    (hits : Hits format magnitude (shortest tie format magnitude) place) :
    (place < firstPlace format magnitude ∧
        ∀ other : Decimal, (shortest tie format magnitude).exponent < other.exponent →
          format.ofDecimal other ≠ magnitude) ∨
      place = firstPlace format magnitude ∧ (shortest tie format magnitude).significand = 1 := by
  have settled := hits.settled positive
  rcases Nat.lt_or_eq_of_le settled.place_le with later | first
  · refine .inl ⟨later, fun other above read => ?_⟩
    have missed := settled.coarsest.resolve_left (Nat.ne_of_lt later)
    have placed := hits.exponent_eq
    obtain ⟨zeros, exponent_eq⟩ := Int.le.dest (Int.add_one_le_of_lt above)
    have otherPlaced : other.exponent = (zeros + (place + 1) : Nat) - format.scale := by omega
    have inside := (ofDecimal_eq_iff fraction positive finite otherPlaced).mp read
    rw [Nat.pow_add, ← Nat.mul_assoc, missed] at inside
    cases inside
  · exact .inr ⟨first, hits.significand_eq_one positive first⟩

theorem digits_eq_one (one : decimal.significand = 1) : decimal.digits = 1 := by
  rw [digits, one]
  rfl

theorem leading_coarser (several : 1 < decimal.digits) :
    ∃ coarser : Decimal, decimal.exponent < coarser.exponent ∧
      coarser.value = decimal.leading.value := by
  obtain ⟨more, digits_eq⟩ : ∃ more, decimal.digits - 1 = more + 1 :=
    Nat.exists_eq_add_one.mpr (by omega)
  refine ⟨⟨10 ^ more, decimal.exponent + (1 : Nat)⟩, Int.lt_succ _, ?_⟩
  rw [← value_shift, leading, digits_eq, Nat.pow_one, ← Nat.pow_succ]

theorem digits_shortest_le (fraction : 0 < format.fractionBits) (positive : 0 < magnitude)
    (finite : magnitude < format.infinity) (tie : Tie) (read : format.ofDecimal other = magnitude) :
    (shortest tie format magnitude).digits ≤ other.digits := by
  obtain ⟨place, hits⟩ := exists_hits_shortest positive tie
  have found := hits.ofDecimal_eq fraction positive finite
  have some_digits := digits_pos other
  apply Nat.le_of_not_lt
  intro fewer
  rcases hits.coarser_or_one fraction positive finite with ⟨_, coarser⟩ | ⟨_, one⟩
  · rcases Int.lt_or_le (shortest tie format magnitude).exponent other.exponent with above | below
    · exact coarser other above read
    · obtain ⟨_, leads⟩ := ofDecimal_leading fraction hits.positive found read (by omega)
      have several : 1 < (shortest tie format magnitude).digits := by omega
      obtain ⟨next, above, same⟩ := leading_coarser several
      exact coarser next above ((ofDecimal_eq_of_value_eq fraction same).trans leads)
  · rw [digits_eq_one one] at fewer
    omega

theorem value_placed (placed : decimal.exponent = place - format.scale) :
    decimal.value = (decimal.significand * 10 ^ place : Nat) * 10 ^ (-format.scale : ℤ) := by
  rw [value, placed, sub_eq_add_neg, zpow_add₀ (by norm_num), zpow_natCast]
  push_cast
  ring

theorem value_exact (format : FloatFormat) (magnitude : Nat) :
    format.units magnitude * format.unit =
      exact format magnitude * 10 ^ (-format.scale : ℤ) := by
  have ten : (10 : ℚ) ^ format.scale = 2 ^ format.scale * 5 ^ format.scale := by
    rw [← mul_pow]
    norm_num
  rw [exact, unit, zpow_neg, zpow_natCast, ten]
  push_cast
  field_simp

theorem exact_pos (format : FloatFormat) (positive : 0 < magnitude) : 0 < exact format magnitude :=
  Nat.mul_pos (Nat.lt_of_le_of_lt (Nat.zero_le _) (format.units_strictMono positive))
    (Nat.pow_pos (by decide))

theorem steps_mono (format : FloatFormat) {left right : Nat} (below : left ≤ right) :
    (left : ℚ) * 10 ^ (-format.scale : ℤ) ≤ right * 10 ^ (-format.scale : ℤ) :=
  mul_le_mul_of_nonneg_right (by exact_mod_cast below) (by positivity)

theorem Hits.leading_le (positive : 0 < magnitude)
    (hits : Hits format magnitude (shortest tie format magnitude) place)
    (later : place < firstPlace format magnitude)
    (single : (shortest tie format magnitude).digits ≤ 1) :
    (shortest tie format magnitude).leading.value ≤ format.units magnitude * format.unit := by
  have placed := hits.exponent_eq
  have least : 10 ^ place ≤ exact format magnitude :=
    Nat.le_trans (Nat.pow_le_pow_right (by decide) (Nat.le_sub_one_of_lt later))
      (pow_length_toDigits_le (exact_pos format positive))
  have value_eq : (shortest tie format magnitude).leading.value =
      (10 ^ place : Nat) * 10 ^ (-format.scale : ℤ) := by
    have leading_placed : (shortest tie format magnitude).leading.exponent =
        place - format.scale := placed
    rw [value_placed leading_placed, leading, Nat.sub_eq_zero_of_le single, Nat.pow_zero,
      Nat.one_mul]
  rw [value_eq, value_exact]
  exact steps_mono format least

theorem abs_sub_value_le {otherPlace : Nat} (placed : decimal.exponent = place - format.scale)
    (otherPlaced : other.exponent = otherPlace - format.scale)
    (nearer : ((exact format magnitude : Int) - (decimal.significand * 10 ^ place : Nat)).natAbs ≤
      ((exact format magnitude : Int) - (other.significand * 10 ^ otherPlace : Nat)).natAbs) :
    |decimal.value - format.units magnitude * format.unit| ≤
      |other.value - format.units magnitude * format.unit| := by
  have step : (0 : ℚ) ≤ |10 ^ (-format.scale : ℤ)| := abs_nonneg _
  have counted := (Nat.cast_le (α := ℚ)).mpr nearer
  rw [Nat.cast_natAbs, Nat.cast_natAbs, Int.cast_abs, Int.cast_abs, Int.cast_sub, Int.cast_sub,
    Int.cast_natCast, Int.cast_natCast, Int.cast_natCast] at counted
  rw [value_placed placed, value_placed otherPlaced, value_exact, ← sub_mul, ← sub_mul, abs_mul,
    abs_mul, abs_sub_comm, abs_sub_comm (_ : ℚ) (exact format magnitude : ℚ)]
  exact mul_le_mul_of_nonneg_right counted step

/-- Of what reads back on its grid and on coarser ones, the shortest decimal is nearest. -/
theorem Hits.nearest_of_exponent_le (fraction : 0 < format.fractionBits) (positive : 0 < magnitude)
    (finite : magnitude < format.infinity)
    (hits : Hits format magnitude (shortest tie format magnitude) place)
    (above : (shortest tie format magnitude).exponent ≤ other.exponent)
    (read : format.ofDecimal other = magnitude) :
    |(shortest tie format magnitude).value - format.units magnitude * format.unit| ≤
      |other.value - format.units magnitude * format.unit| := by
  have placed := hits.exponent_eq
  obtain ⟨zeros, exponent_eq⟩ := Int.le.dest above
  have otherPlaced : other.exponent = (zeros + place : Nat) - format.scale := by omega
  apply abs_sub_value_le placed otherPlaced
  have inside := (ofDecimal_eq_iff fraction positive finite otherPlaced).mp read
  rw [Nat.pow_add, ← Nat.mul_assoc] at inside ⊢
  exact (hits.settled positive).nearest _ inside

end Grid

section Double

variable {tie : Tie} {magnitude place : Nat} {other : Decimal}

theorem pow_firstPlace (magnitude : Nat) :
    10 ^ firstPlace double magnitude = 10 * 10 ^ (firstPlace double magnitude - 1) := by
  have some_place : 0 < firstPlace double magnitude := Nat.length_toDigits_pos
  rw [← Nat.pow_succ', Nat.succ_eq_add_one, Nat.sub_add_cancel some_place]

/-- Only the least magnitudes are so coarse that nine tenths of a power of ten read back as the
power does, and of those none is nearer to the nine tenths. -/
theorem whole_nearer_small : ∀ magnitude < 10, 0 < magnitude →
    (interval double magnitude).contains (9 * 10 ^ (firstPlace double magnitude - 1)) = true →
    (interval double magnitude).contains (10 ^ firstPlace double magnitude) = true →
    10 ^ firstPlace double magnitude + 9 * 10 ^ (firstPlace double magnitude - 1) ≤
      2 * exact double magnitude := by
  decide +kernel

theorem whole_nearer (positive : 0 < magnitude)
    (tenths : (interval double magnitude).contains
      (9 * 10 ^ (firstPlace double magnitude - 1)) = true)
    (whole : (interval double magnitude).contains (10 ^ firstPlace double magnitude) = true) :
    10 ^ firstPlace double magnitude + 9 * 10 ^ (firstPlace double magnitude - 1) ≤
      2 * exact double magnitude := by
  apply Nat.le_of_not_lt
  intro nearer
  obtain ⟨exponent, significand, parts⟩ := double.exists_parts magnitude
  have reached := (Interval.contains_iff.mp whole).2
  -- The next magnitude lies more than a tenth beyond, so there are few steps up to this one.
  have few : significand < 10 := by
    apply Nat.lt_of_mul_lt_mul_right (a := 2 ^ exponent * 5 ^ double.scale)
    simp only [interval, exact, parts.units_eq, parts.units_succ, pow_firstPlace, Nat.add_mul,
      Nat.one_mul, Nat.mul_assoc] at reached nearer ⊢
    omega
  have small : magnitude < 10 := by
    have leading := parts.leading
    have place := parts.place
    have bits : 2 ^ double.fractionBits = 4503599627370496 := rfl
    rw [bits] at leading place
    omega
  exact Nat.not_lt_of_le (whole_nearer_small magnitude small positive tenths whole) nearer

theorem value_le_nine (single : other.digits ≤ 1) {exponent : Int}
    (below : other.exponent ≤ exponent) : other.value ≤ value ⟨9, exponent⟩ := by
  have digit : other.significand < 10 ^ 1 :=
    (Nat.length_toDigits_le_iff (by decide) Nat.one_pos).mp single
  have digit_le : (other.significand : ℚ) ≤ 9 := by exact_mod_cast Nat.le_of_lt_succ digit
  have power_le : (10 : ℚ) ^ other.exponent ≤ 10 ^ exponent :=
    zpow_le_zpow_right₀ (by norm_num) below
  exact mul_le_mul digit_le power_le (by positivity) (by norm_num)

def nineTenths (magnitude : Nat) : Decimal :=
  ⟨9, (firstPlace double magnitude - 1 : Nat) - double.scale⟩

theorem value_nineTenths (magnitude : Nat) :
    (nineTenths magnitude).value =
      (9 * 10 ^ (firstPlace double magnitude - 1) : Nat) * 10 ^ (-double.scale : ℤ) :=
  value_placed rfl

theorem Hits.value_of_first (positive : 0 < magnitude)
    (hits : Hits double magnitude (shortest tie double magnitude) place)
    (first : place = firstPlace double magnitude) :
    (shortest tie double magnitude).value =
      (10 ^ firstPlace double magnitude : Nat) * 10 ^ (-double.scale : ℤ) := by
  rw [value_placed hits.exponent_eq, hits.significand_eq_one positive first, Nat.one_mul, first]

theorem Hits.nineTenths_le (positive : 0 < magnitude)
    (hits : Hits double magnitude (shortest tie double magnitude) place)
    (first : place = firstPlace double magnitude) :
    (nineTenths magnitude).value ≤ (shortest tie double magnitude).value := by
  rw [value_nineTenths, hits.value_of_first positive first, pow_firstPlace]
  exact steps_mono double (Nat.mul_le_mul_right _ (by decide))

theorem Hits.add_nineTenths_le (positive : 0 < magnitude) (finite : magnitude < double.infinity)
    (hits : Hits double magnitude (shortest tie double magnitude) place)
    (first : place = firstPlace double magnitude)
    (read : double.ofDecimal (nineTenths magnitude) = magnitude) :
    (shortest tie double magnitude).value + (nineTenths magnitude).value ≤
      2 * (double.units magnitude * double.unit) := by
  have tenths := (ofDecimal_eq_iff (by decide) positive finite rfl).mp read
  have whole := hits.inside
  rw [hits.significand_eq_one positive first, Nat.one_mul, first] at whole
  have counted := steps_mono double (whole_nearer positive tenths whole)
  rw [hits.value_of_first positive first, value_nineTenths, value_exact]
  push_cast at counted ⊢
  linarith

/-- One step of the first grid is no farther than what reads back as a digit behind it. -/
theorem Hits.nearest_of_first (positive : 0 < magnitude) (finite : magnitude < double.infinity)
    (hits : Hits double magnitude (shortest tie double magnitude) place)
    (first : place = firstPlace double magnitude)
    (finer : other.exponent < (shortest tie double magnitude).exponent) (single : other.digits ≤ 1)
    (read : double.ofDecimal other = magnitude) :
    |(shortest tie double magnitude).value - double.units magnitude * double.unit| ≤
      |other.value - double.units magnitude * double.unit| := by
  have placed := hits.exponent_eq
  have some_place : 0 < firstPlace double magnitude := Nat.length_toDigits_pos
  have below : other.value ≤ (nineTenths magnitude).value := value_le_nine single (by omega)
  have above := hits.nineTenths_le positive first
  have past : double.units magnitude * double.unit ≤ (shortest tie double magnitude).value := by
    rw [hits.value_of_first positive first, value_exact]
    exact steps_mono double (Nat.le_of_lt (exact_lt_pow double magnitude))
  have nearer := hits.add_nineTenths_le positive finite first
    (ofDecimal_between (by decide) read (hits.ofDecimal_eq (by decide) positive finite) below above)
  rw [abs_of_nonneg (by linarith), abs_sub_comm, abs_of_nonneg (by linarith)]
  linarith

theorem shortest_nearest (positive : 0 < magnitude) (finite : magnitude < double.infinity)
    (tie : Tie) (read : double.ofDecimal other = magnitude)
    (as_few : other.digits ≤ (shortest tie double magnitude).digits) :
    |(shortest tie double magnitude).value - double.units magnitude * double.unit| ≤
      |other.value - double.units magnitude * double.unit| := by
  obtain ⟨place, hits⟩ : ∃ place, Hits double magnitude (shortest tie double magnitude) place :=
    exists_hits_shortest positive tie
  have placed := hits.exponent_eq
  have found := hits.ofDecimal_eq (by decide) positive finite
  have some_digits := digits_pos (shortest tie double magnitude)
  rcases Int.lt_or_le other.exponent (shortest tie double magnitude).exponent with finer | above
  · rcases hits.coarser_or_one (by decide) positive finite with ⟨later, coarser⟩ | ⟨first, one⟩
    · obtain ⟨below, leads⟩ := ofDecimal_leading (by decide) hits.positive found read (by omega)
      rcases Nat.lt_or_ge 1 (shortest tie double magnitude).digits with several | single
      · obtain ⟨next, above, same⟩ := leading_coarser several
        exact absurd ((ofDecimal_eq_of_value_eq (by decide) same).trans leads) (coarser next above)
      · -- A single step lies between the number and what is finer.
        have short : (shortest tie double magnitude).leading.value ≤
            double.units magnitude * double.unit :=
          hits.leading_le positive later single
        have closer := hits.nearest_of_exponent_le (by decide) positive finite
          (Int.le_of_eq (leading_exponent _).symm) leads
        apply closer.trans
        rw [abs_sub_comm, abs_of_nonneg (sub_nonneg.mpr short), abs_sub_comm,
          abs_of_nonneg (sub_nonneg.mpr (below.le.trans short))]
        exact sub_le_sub_left below.le _
    · have single : other.digits ≤ 1 := by
        rwa [digits_eq_one one] at as_few
      exact hits.nearest_of_first positive finite first finer single read
  · exact hits.nearest_of_exponent_le (by decide) positive finite above read

end Double

end PackedNumbers.Decimal
