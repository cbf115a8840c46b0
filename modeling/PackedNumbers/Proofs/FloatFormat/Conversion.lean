import PackedNumbers.Proofs.FloatFormat.Midpoint
import PackedNumbers.Proofs.FloatFormat.Widening

/-!
Conversion between formats keeps order: among numbers and infinity by rounding, and the plain NaN
stays above them.
-/
namespace PackedNumbers.FloatFormat

variable {source target : FloatFormat} {left right magnitude : Nat}

theorem convert_le_infinity (within : magnitude ≤ source.infinity) :
    source.convert target magnitude ≤ target.infinity := by
  rw [convert, if_neg (Nat.not_lt_of_le within)]
  split
  · exact Nat.le_refl _
  · exact target.round_le_infinity ..

theorem convert_mono (fraction : 0 < target.fractionBits) (below : left ≤ right)
    (within : right ≤ source.infinity) :
    source.convert target left ≤ source.convert target right := by
  rcases Nat.lt_or_eq_of_le within with finite | rfl
  · have leftFinite : left < source.infinity := Nat.lt_of_le_of_lt below finite
    rw [convert, convert, if_neg (Nat.not_lt_of_lt leftFinite), if_neg (Nat.ne_of_lt leftFinite),
      if_neg (Nat.not_lt_of_lt finite), if_neg (Nat.ne_of_lt finite)]
    apply round_mono fraction (Nat.two_pow_pos _) (Nat.two_pow_pos _)
    exact Nat.mul_le_mul_right _
      (Nat.mul_le_mul_right _ (source.units_strictMono.monotone below))
  · rw [convert_infinity]
    exact convert_le_infinity below

/-- A number, infinity, or the NaN whose fraction is the quiet bit alone. -/
def PlainMagnitude (format : FloatFormat) (magnitude : Nat) : Prop :=
  magnitude ≤ format.infinity ∨ magnitude = format.quietNaN

theorem PlainMagnitude.le_quietNaN (plain : source.PlainMagnitude magnitude) :
    magnitude ≤ source.quietNaN := by
  rcases plain with within | rfl
  · exact Nat.le_trans within (Nat.le_add_right ..)
  · exact Nat.le_refl _

theorem narrow_plain (plain : double.PlainMagnitude magnitude) :
    single.PlainMagnitude (double.convert single magnitude) := by
  rcases plain with within | rfl
  · exact .inl (convert_le_infinity within)
  · right
    decide

theorem narrow_lt (plain : double.PlainMagnitude magnitude) :
    double.convert single magnitude < 2 ^ 31 :=
  Nat.lt_of_le_of_lt (narrow_plain plain).le_quietNaN (by decide)

theorem narrow_mono (leftPlain : double.PlainMagnitude left)
    (rightPlain : double.PlainMagnitude right) (below : left ≤ right) :
    double.convert single left ≤ double.convert single right := by
  rcases rightPlain with within | rfl
  · exact convert_mono (by decide) below within
  · have top : double.convert single double.quietNaN = single.quietNaN := by decide
    rw [top]
    exact (narrow_plain leftPlain).le_quietNaN

end PackedNumbers.FloatFormat
