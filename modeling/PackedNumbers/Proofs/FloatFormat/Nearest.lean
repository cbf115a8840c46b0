import PackedNumbers.Proofs.FloatFormat.Value

/-!
Rounding to nearest, said of exact numbers: the finite word that stands for the nearest number, by
an even significand where two are as near, and no word from half a step above the greatest.
-/
namespace PackedNumbers.FloatFormat

variable {format : FloatFormat} {width numerator denominator magnitude : Nat}

/-- A finite word that every finite word for another number is farther from, or as far and odd where
this one is even. -/
structure Nearest (format : FloatFormat) (number : ℚ) (word : BitVec width) : Prop where
  finite : format.IsFinite word
  nearer : ∀ other : BitVec width, format.IsFinite other → format.value other ≠ format.value word →
    |number - format.value word| < |number - format.value other| ∨
      |number - format.value word| = |number - format.value other| ∧
        Even (format.significand word) ∧ Odd (format.significand other)

theorem Nearest.value_eq {number : ℚ} {word other : BitVec width}
    (nearest : format.Nearest number word) (another : format.Nearest number other) :
    format.value word = format.value other := by
  by_contra differ
  rcases another.nearer word nearest.finite differ with closer | ⟨_, even, _⟩
  · rcases nearest.nearer other another.finite (Ne.symm differ) with farther | ⟨level, _⟩
    · exact lt_asymm closer farther
    · exact closer.ne' level
  · rcases nearest.nearer other another.finite (Ne.symm differ) with farther | ⟨_, _, odd⟩
    · linarith
    · exact Nat.not_odd_iff_even.mpr even odd

theorem passes_iff_div (positive : 0 < denominator) :
    format.Passes magnitude numerator denominator ↔
      (format.midpoint magnitude : ℚ) < 2 * (numerator / denominator) ∨
        (format.midpoint magnitude : ℚ) = 2 * (numerator / denominator) ∧ magnitude % 2 = 1 := by
  have cast : (0 : ℚ) < denominator := by exact_mod_cast positive
  rw [Passes, ← mul_div_assoc, lt_div_iff₀ cast, eq_div_iff cast.ne']
  norm_cast

section Distance

variable {number near far : ℚ}

theorem abs_sub_lt_of_past (side : far < near) (past : near + far < 2 * number) :
    |number - near| < |number - far| := by
  rw [abs_of_pos (show 0 < number - far by linarith), abs_lt]
  constructor <;> linarith

theorem abs_sub_lt_of_short (side : near < far) (short : 2 * number < near + far) :
    |number - near| < |number - far| := by
  rw [abs_of_neg (show number - far < 0 by linarith), abs_lt]
  constructor <;> linarith

theorem abs_sub_eq_of_midpoint (middle : near + far = 2 * number) :
    |number - near| = |number - far| := by
  rw [← abs_neg (number - far)]
  congr 1
  linarith

end Distance

/-- Of all counts of units, the one that a quotient is rounded to is nearest, and even if another is
as near. -/
theorem units_round_nearest (fraction : 0 < format.fractionBits) (positive : 0 < denominator)
    (inside : format.round numerator denominator < format.infinity) (other : Nat)
    (differs : other ≠ format.round numerator denominator) :
    |(numerator / denominator : ℚ) - format.units (format.round numerator denominator)| <
        |(numerator / denominator : ℚ) - format.units other| ∨
      |(numerator / denominator : ℚ) - format.units (format.round numerator denominator)| =
          |(numerator / denominator : ℚ) - format.units other| ∧
        format.round numerator denominator % 2 = 0 ∧ other % 2 = 1 := by
  have reached : ∀ least, least < format.round numerator denominator ↔ least < format.infinity ∧
      format.Passes least numerator denominator := fun least => lt_round_iff fraction positive
  simp only [passes_iff_div positive, midpoint, Nat.cast_add] at reached
  generalize format.round numerator denominator = rounded at inside differs reached ⊢
  generalize (numerator / denominator : ℚ) = number at reached ⊢
  have climbs {low high : Nat} (below : low < high) :
      (format.units low : ℚ) < format.units high := by
    exact_mod_cast format.units_strictMono below
  rcases Nat.lt_or_gt_of_ne differs with below | above
  · obtain ⟨last, rfl⟩ := Nat.exists_eq_succ_of_ne_zero (Nat.ne_zero_of_lt below)
    have passed := ((reached last).mp (Nat.lt_succ_self last)).2
    rcases Nat.lt_or_eq_of_le (Nat.le_of_lt_succ below) with far | rfl
    · left
      have closer := climbs far
      apply abs_sub_lt_of_past (climbs below)
      rcases passed with past | ⟨level, _⟩ <;> linarith
    · rcases passed with past | ⟨level, odd⟩
      · exact .inl (abs_sub_lt_of_past (climbs below) (by linarith))
      · exact .inr ⟨abs_sub_eq_of_midpoint (by linarith), by omega, odd⟩
  · have stopped : ¬ _ := fun passed =>
      Nat.lt_irrefl rounded ((reached rounded).mpr ⟨inside, passed⟩)
    rw [not_or, not_and, not_lt] at stopped
    obtain ⟨short, tie⟩ := stopped
    rcases Nat.lt_or_eq_of_le (Nat.succ_le_of_lt above) with far | rfl
    · exact .inl (abs_sub_lt_of_short (climbs above) (by linarith [climbs far]))
    · rcases lt_or_eq_of_le short with before | level
      · exact .inl (abs_sub_lt_of_short (climbs above) before)
      · have even := tie level.symm
        exact .inr ⟨abs_sub_eq_of_midpoint level.symm, by omega, by omega⟩

theorem abs_sub_units_round_le (fraction : 0 < format.fractionBits) (positive : 0 < denominator)
    (inside : format.round numerator denominator < format.infinity) :
    |(numerator / denominator : ℚ) - format.units (format.round numerator denominator)| ≤
      numerator / denominator := by
  have above : (0 : ℚ) ≤ numerator / denominator := by positivity
  have zero : |(numerator / denominator : ℚ) - format.units 0| = numerator / denominator := by
    rw [units_zero, Nat.cast_zero, sub_zero, abs_of_nonneg above]
  by_cases none : 0 = format.round numerator denominator
  · rw [← none, zero]
  · rcases units_round_nearest fraction positive inside 0 none with closer | ⟨level, _⟩
    · exact (closer.trans_eq zero).le
    · exact (level.trans zero).le

theorem nearest_of_round (wide : 1 < format.exponentBits) (fraction : 0 < format.fractionBits)
    (positive : 0 < denominator) {word : BitVec width}
    (rounded : format.round numerator denominator = SignMagnitude.magnitude word)
    (finite : format.IsFinite word) :
    format.Nearest (SignMagnitude.sign (SignMagnitude.negative word) *
      (numerator / denominator * format.unit)) word := by
  have inside := isFinite_iff.mp finite
  rw [← rounded] at inside
  have nearest := units_round_nearest fraction positive inside
  have within := abs_sub_units_round_le fraction positive inside
  rw [rounded] at nearest within
  generalize (numerator / denominator : ℚ) = number at nearest within ⊢
  have own := sign_mul_value wide word
  have scaled (left right : ℚ) :
      |left * format.unit - right * format.unit| = |left - right| * format.unit := by
    rw [← sub_mul, abs_mul, abs_of_pos format.unit_pos]
  refine ⟨finite, fun other _ differs => ?_⟩
  rw [SignMagnitude.abs_sign_mul_sub, SignMagnitude.abs_sign_mul_sub, own, scaled]
  rcases sign_mul_value_cases wide (SignMagnitude.negative word) other with side | ⟨apart, across⟩
  · have other_magnitude : SignMagnitude.magnitude other ≠ SignMagnitude.magnitude word := by
      intro same
      rw [same, ← own] at side
      exact differs (mul_left_cancel₀ (SignMagnitude.sign_ne_zero _) side)
    rw [side, scaled, Nat.even_iff, Nat.odd_iff, significand_mod_two fraction,
      significand_mod_two fraction]
    rcases nearest _ other_magnitude with closer | ⟨level, parities⟩
    · exact .inl (mul_lt_mul_of_pos_right closer format.unit_pos)
    · exact .inr ⟨congrArg (· * format.unit) level, parities⟩
  · -- Zero is no nearer, and what lies across is farther than zero.
    have beyond : number < |number - -(format.units (SignMagnitude.magnitude other) : ℚ)| := by
      have positive : (0 : ℚ) < format.units (SignMagnitude.magnitude other) := by
        exact_mod_cast apart
      rw [sub_neg_eq_add]
      exact lt_of_lt_of_le (by linarith) (le_abs_self _)
    left
    rw [across, ← neg_mul, scaled]
    exact mul_lt_mul_of_pos_right (lt_of_le_of_lt within beyond) format.unit_pos

theorem round_eq_infinity_iff (wide : 1 < format.exponentBits) (fraction : 0 < format.fractionBits)
    (positive : 0 < denominator) :
    format.round numerator denominator = format.infinity ↔
      (format.midpoint (format.infinity - 1) : ℚ) ≤ 2 * (numerator / denominator) := by
  have two_le : 2 ^ 1 ≤ 2 ^ format.exponentBits := Nat.pow_le_pow_right (by decide) wide.le
  have some_magnitude : 0 < format.infinity := Nat.mul_pos (by omega) (Nat.two_pow_pos _)
  have even : format.infinity % 2 = 0 :=
    Nat.mod_eq_zero_of_dvd (Dvd.dvd.mul_left (dvd_pow_self 2 (Nat.ne_of_gt fraction)) _)
  have odd : (format.infinity - 1) % 2 = 1 := by omega
  have bound := format.round_le_infinity numerator denominator
  have reached : format.round numerator denominator = format.infinity ↔
      format.infinity - 1 < format.round numerator denominator := by omega
  rw [reached, lt_round_iff fraction positive, passes_iff_div positive, le_iff_lt_or_eq,
    and_iff_right (Nat.sub_lt some_magnitude Nat.one_pos), and_iff_left odd]

end PackedNumbers.FloatFormat
