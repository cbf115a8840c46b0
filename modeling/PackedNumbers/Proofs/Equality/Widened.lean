import PackedNumbers.Proofs.Equality.Numbers
import PackedNumbers.Proofs.FloatFormat.Extended

/-!
Equality of singles as equality of doubles. Equal numbers stand at one place of the line, a single
stands at the place of its double, and a NaN stays a NaN, so widening neither joins nor parts any
two elements.
-/
namespace PackedNumbers

namespace FloatFormat

variable {format : FloatFormat} {width : Nat} {left right : BitVec (width + 1)}

theorem value_of_magnitude_zero (wide : 1 < format.exponentBits) {word : BitVec width}
    (zero : SignMagnitude.magnitude word = 0) : format.value word = 0 := by
  rw [value_eq_units wide, zero, units_zero, Nat.cast_zero, zero_mul, mul_zero]

theorem number_eq_of_value_eq (wide : 1 < format.exponentBits)
    (same : format.value left = format.value right) :
    SignMagnitude.number left = SignMagnitude.number right := by
  rw [SignMagnitude.number_eq_iff]
  by_cases signs : SignMagnitude.negative left = SignMagnitude.negative right
  · left
    rw [← SignMagnitude.word_negative_magnitude left, ← SignMagnitude.word_negative_magnitude right,
      signs, magnitude_eq_of_value_eq wide signs same]
  · right
    -- Seen from the two sides of zero, one number is at two distances that add up to zero.
    have lefts := sign_mul_value wide left
    have rights := sign_mul_value wide right
    have turned : SignMagnitude.sign (SignMagnitude.negative left) =
        -SignMagnitude.sign (SignMagnitude.negative right) := by
      cases leftSign : SignMagnitude.negative left <;>
        cases rightSign : SignMagnitude.negative right <;>
        simp_all [SignMagnitude.sign]
    rw [turned, same, neg_mul, rights, ← neg_mul] at lefts
    have opposite : -(format.units (SignMagnitude.magnitude right) : ℚ) =
        format.units (SignMagnitude.magnitude left) :=
      mul_right_cancel₀ format.unit_pos.ne' lefts
    have none_left : format.units (SignMagnitude.magnitude left) = 0 := by
      have : (0 : ℚ) ≤ format.units (SignMagnitude.magnitude right) := Nat.cast_nonneg _
      have : (0 : ℚ) ≤ format.units (SignMagnitude.magnitude left) := Nat.cast_nonneg _
      exact_mod_cast (show (format.units (SignMagnitude.magnitude left) : ℚ) = 0 by linarith)
    have none_right : format.units (SignMagnitude.magnitude right) = 0 := by
      rw [none_left, Nat.cast_zero, neg_eq_zero] at opposite
      exact_mod_cast opposite
    rw [← format.units_zero] at none_left none_right
    exact ⟨format.units_strictMono.injective none_left,
      format.units_strictMono.injective none_right⟩

theorem number_eq_iff_extended_eq (wide : 1 < format.exponentBits)
    (leftNumber : format.isNaN left = false) (rightNumber : format.isNaN right = false) :
    SignMagnitude.number left = SignMagnitude.number right ↔
      format.extended left = format.extended right := by
  constructor
  · intro same
    rcases SignMagnitude.number_eq_iff.mp same with rfl | ⟨leftZero, rightZero⟩
    · rfl
    · have finite {word : BitVec (width + 1)} (zero : SignMagnitude.magnitude word = 0) :
          format.IsFinite word := by
        have two_le : 2 ^ 1 ≤ 2 ^ format.exponentBits := Nat.pow_le_pow_right (by decide) wide.le
        rw [isFinite_iff, zero]
        exact Nat.mul_pos (by omega) (Nat.two_pow_pos _)
      rw [extended, extended, if_pos (finite leftZero), if_pos (finite rightZero),
        value_of_magnitude_zero wide leftZero, value_of_magnitude_zero wide rightZero]
  · intro same
    rcases extended_cases leftNumber with ⟨_, _, leftValue⟩ | ⟨leftRank, leftEnd⟩ |
      ⟨leftRank, leftEnd⟩
    · rcases extended_cases rightNumber with ⟨_, _, rightValue⟩ | ⟨_, rightEnd⟩ | ⟨_, rightEnd⟩
      · rw [leftValue, rightValue] at same
        exact number_eq_of_value_eq wide (WithBotTop.coe_injective same)
      · rw [leftValue, rightEnd] at same
        exact absurd same (WithBotTop.coe_ne_bot _)
      · rw [leftValue, rightEnd] at same
        exact absurd same (WithBotTop.coe_ne_top _)
    · rcases extended_cases rightNumber with ⟨_, _, rightValue⟩ | ⟨rightRank, _⟩ | ⟨_, rightEnd⟩
      · rw [leftEnd, rightValue] at same
        exact absurd same.symm (WithBotTop.coe_ne_bot _)
      · rw [SignMagnitude.rank_injective (leftRank.trans rightRank.symm)]
      · rw [leftEnd, rightEnd] at same
        exact absurd same.symm WithBotTop.top_ne_bot
    · rcases extended_cases rightNumber with ⟨_, _, rightValue⟩ | ⟨_, rightEnd⟩ | ⟨rightRank, _⟩
      · rw [leftEnd, rightValue] at same
        exact absurd same.symm (WithBotTop.coe_ne_top _)
      · rw [leftEnd, rightEnd] at same
        exact absurd same WithBotTop.top_ne_bot
      · rw [SignMagnitude.rank_injective (leftRank.trans rightRank.symm)]

theorem equals_iff_extended (wide : 1 < format.exponentBits) :
    format.equals left right = true ↔
      format.isNaN left = false ∧ format.isNaN right = false ∧
        format.extended left = format.extended right := by
  rw [equals_iff]
  constructor
  · rintro ⟨leftNumber, rightNumber, same⟩
    exact ⟨leftNumber, rightNumber,
      (number_eq_iff_extended_eq wide leftNumber rightNumber).mp same⟩
  · rintro ⟨leftNumber, rightNumber, same⟩
    exact ⟨leftNumber, rightNumber,
      (number_eq_iff_extended_eq wide leftNumber rightNumber).mpr same⟩

theorem convertNaN_bounds (source target : FloatFormat) (fraction : 0 < target.fractionBits)
    (magnitude : Nat) :
    target.infinity < convertNaN source target magnitude ∧
      convertNaN source target magnitude < target.infinity + 2 ^ target.fractionBits := by
  have quiet : 2 ^ (target.fractionBits - 1) < 2 ^ target.fractionBits :=
    Nat.pow_lt_pow_right (by decide) (by omega)
  have short : magnitude % 2 ^ source.fractionBits < 2 ^ source.fractionBits :=
    Nat.mod_lt _ (Nat.two_pow_pos _)
  have moved : magnitude % 2 ^ source.fractionBits * 2 ^ target.fractionBits /
      2 ^ source.fractionBits < 2 ^ target.fractionBits := by
    rw [Nat.div_lt_iff_lt_mul (Nat.two_pow_pos _), Nat.mul_comm]
    exact Nat.mul_lt_mul_of_pos_left short (Nat.two_pow_pos _)
  have above : 0 < 2 ^ (target.fractionBits - 1) := Nat.two_pow_pos _
  constructor
  · exact Nat.lt_add_of_pos_right (Nat.lt_of_lt_of_le above Nat.right_le_or)
  · exact Nat.add_lt_add_left (Nat.or_lt_two_pow moved quiet) _

theorem isNaN_widen_eq (word : BitVec 32) : double.isNaN (widen word) = single.isNaN word := by
  cases nan : single.isNaN word with
  | false => exact isNaN_widen nan
  | true =>
    have beyond : single.infinity < SignMagnitude.magnitude word := of_decide_eq_true nan
    obtain ⟨above, below⟩ :=
      convertNaN_bounds single double (by decide) (SignMagnitude.magnitude word)
    have room : convertNaN single double (SignMagnitude.magnitude word) < 2 ^ 63 :=
      Nat.lt_of_lt_of_le below (by decide)
    rw [isNaN, widen, convert, if_pos beyond, SignMagnitude.magnitude_word _ room]
    exact decide_eq_true above

theorem equals_widen (left right : BitVec 32) :
    double.equals (widen left) (widen right) = single.equals left right := by
  rw [Bool.eq_iff_iff, @equals_iff_extended double 63 _ _ (by decide),
    @equals_iff_extended single 31 _ _ (by decide), isNaN_widen_eq, isNaN_widen_eq]
  constructor
  · rintro ⟨leftNumber, rightNumber, same⟩
    rw [extended_widen leftNumber, extended_widen rightNumber] at same
    exact ⟨leftNumber, rightNumber, same⟩
  · rintro ⟨leftNumber, rightNumber, same⟩
    rw [← extended_widen leftNumber, ← extended_widen rightNumber] at same
    exact ⟨leftNumber, rightNumber, same⟩

end FloatFormat

theorem Element.equals_toScalar {code : TypeCode} (left right : Element code) :
    left.toScalar.equals right.toScalar = left.equals right := by
  cases kind : code.kind with
  | integer =>
    have numbers : left = right ↔ Int64.ofInt left.toInt = Int64.ofInt right.toInt := by
      constructor
      · rintro rfl
        rfl
      · intro same
        have back := congrArg Int64.toInt same
        rw [toInt_ofInt_toInt, toInt_ofInt_toInt] at back
        exact toInt_injective back
    rw [toScalar_of_integer kind, toScalar_of_integer kind, Bool.eq_iff_iff]
    simp only [equals, kind, Scalar.equals, beq_iff_eq, numbers]
  | float =>
    cases code <;> cases kind
    exact FloatFormat.equals_widen left right

end PackedNumbers
