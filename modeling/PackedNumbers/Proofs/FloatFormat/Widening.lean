import PackedNumbers.Proofs.FloatFormat.Exact

/-!
Singles as doubles: a finite single is the same number as a double, infinity stays infinity, and
going back gives the single again.
-/
namespace PackedNumbers.FloatFormat

def quietNaN (format : FloatFormat) : Nat := format.infinity + 2 ^ (format.fractionBits - 1)

theorem double_scale : double.scale = single.scale + 925 := by decide

theorem units_convert {magnitude : Nat} (finite : magnitude < single.infinity) :
    single.convert double magnitude < double.infinity ∧
      double.units (single.convert double magnitude) * 2 ^ single.scale =
        single.units magnitude * 2 ^ double.scale := by
  obtain ⟨significand, exponent, counts, short, binade⟩ := single.units_eq_significand magnitude
  have exponent_lt : exponent < 255 := by
    have top : single.infinity = 255 * 2 ^ single.fractionBits := rfl
    rw [top] at finite
    exact Nat.lt_of_mul_lt_mul_right (Nat.lt_of_le_of_lt binade finite)
  have longer : significand < 2 ^ (double.fractionBits + 1) :=
    Nat.lt_of_lt_of_le short (Nat.pow_le_pow_right (by decide) (by decide))
  obtain ⟨widened, widened_counts, below⟩ := exists_units_eq significand (exponent + 925) longer
  have widened_lt : widened < double.infinity := by
    have top : double.infinity = 2047 * 2 ^ double.fractionBits := rfl
    rw [top]
    exact Nat.lt_of_lt_of_le below (Nat.mul_le_mul_right _ (by omega))
  have moved : ∀ scale shift : Nat, significand * 2 ^ (exponent + shift) * 2 ^ scale =
      significand * 2 ^ exponent * 2 ^ (scale + shift) := by
    intro scale shift
    calc
      _ = significand * 2 ^ exponent * 2 ^ shift * 2 ^ scale := by
        rw [Nat.pow_add, ← Nat.mul_assoc]
      _ = significand * 2 ^ exponent * 2 ^ (scale + shift) := by
        rw [Nat.mul_right_comm, Nat.mul_assoc, ← Nat.pow_add]
  have same : double.units widened * 2 ^ single.scale =
      single.units magnitude * 2 ^ double.scale := by
    rw [widened_counts, counts, double_scale]
    exact moved single.scale 925
  have converted : single.convert double magnitude = widened := by
    rw [convert, if_neg (Nat.not_lt_of_lt finite), if_neg (Nat.ne_of_lt finite), ← same]
    exact round_units (Nat.le_of_lt widened_lt) (Nat.two_pow_pos _)
  rw [converted]
  exact ⟨widened_lt, same⟩

theorem convert_infinity (source target : FloatFormat) :
    source.convert target source.infinity = target.infinity := by
  rw [convert, if_neg (Nat.lt_irrefl _), if_pos rfl]

/-- Going back gives the single again, and between the two the double leaves room for its sign. -/
theorem convert_convert {magnitude : Nat}
    (plain : magnitude ≤ single.infinity ∨ magnitude = single.quietNaN) :
    single.convert double magnitude < 2 ^ 63 ∧
      double.convert single (single.convert double magnitude) = magnitude := by
  have room : double.infinity < 2 ^ 63 := by decide
  rcases plain with within | rfl
  · rcases Nat.lt_or_eq_of_le within with finite | rfl
    · obtain ⟨widened_lt, same⟩ := units_convert finite
      refine ⟨Nat.lt_trans widened_lt room, ?_⟩
      rw [convert, if_neg (Nat.not_lt_of_lt widened_lt), if_neg (Nat.ne_of_lt widened_lt), same]
      exact round_units within (Nat.two_pow_pos _)
    · rw [convert_infinity, convert_infinity]
      exact ⟨room, rfl⟩
  · decide

end PackedNumbers.FloatFormat
