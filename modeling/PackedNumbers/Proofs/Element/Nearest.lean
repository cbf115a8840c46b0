import PackedNumbers.Proofs.Element.Scalar
import PackedNumbers.Proofs.FloatFormat.Nearest

/-!
Narrowing to singles is rounding to nearest, in one step from the exact number of a double or an
integer.
-/
namespace PackedNumbers

open FloatFormat

/-- What rounding a number to a single must leave: the sign that was given, infinity from half a
step above the greatest single on, and the nearest single below. -/
structure RoundsTo (negative : Bool) (number : ℚ) (word : BitVec 32) : Prop where
  sign_eq : SignMagnitude.negative word = negative
  infinite_iff : SignMagnitude.magnitude word = single.infinity ↔ 2 ^ 128 - 2 ^ 103 ≤ |number|
  nearest : |number| < 2 ^ 128 - 2 ^ 103 → single.Nearest number word

namespace RoundsTo

variable {negative : Bool} {number : ℚ} {word other : BitVec 32}

theorem unique (one : RoundsTo negative number word) (two : RoundsTo negative number other) :
    word = other := by
  have signs : SignMagnitude.negative word = SignMagnitude.negative other :=
    one.sign_eq.trans two.sign_eq.symm
  have magnitudes : SignMagnitude.magnitude word = SignMagnitude.magnitude other := by
    rcases lt_or_ge |number| (2 ^ 128 - 2 ^ 103) with within | beyond
    · exact magnitude_eq_of_value_eq (by decide) signs
        ((one.nearest within).value_eq (two.nearest within))
    · rw [one.infinite_iff.mpr beyond, two.infinite_iff.mpr beyond]
  rw [← SignMagnitude.word_negative_magnitude word, ← SignMagnitude.word_negative_magnitude other,
    signs, magnitudes]

theorem iff_eq (rounds : RoundsTo negative number word) :
    RoundsTo negative number other ↔ other = word := by
  constructor
  · intro another
    exact another.unique rounds
  · rintro rfl
    exact rounds

end RoundsTo

namespace FloatFormat

variable {numerator denominator : Nat}

theorem round_single_eq_infinity_iff (positive : 0 < denominator) :
    single.round numerator denominator = single.infinity ↔
      2 ^ 128 - 2 ^ 103 ≤ (numerator / denominator : ℚ) * single.unit := by
  have last : single.midpoint (single.infinity - 1) = (2 ^ 25 - 1) * 2 ^ 253 := by decide +kernel
  have unit_eq : single.unit = (2 ^ 149)⁻¹ := rfl
  rw [round_eq_infinity_iff (by decide) (by decide) positive, last, unit_eq, ← div_eq_mul_inv,
    le_div_iff₀ (by positivity)]
  generalize (numerator / denominator : ℚ) = quotient
  push_cast
  constructor <;> intro reached <;> linarith

theorem roundsTo_word (negative : Bool) (positive : 0 < denominator) :
    RoundsTo negative (SignMagnitude.sign negative * (numerator / denominator * single.unit))
      (SignMagnitude.word 32 negative (single.round numerator denominator)) := by
  have bound := single.round_le_infinity numerator denominator
  have room : single.round numerator denominator < 2 ^ 31 := Nat.lt_of_le_of_lt bound (by decide)
  have sign_eq := @SignMagnitude.negative_word 31 _ negative room
  have magnitude_eq := @SignMagnitude.magnitude_word 31 _ negative room
  have distance : |SignMagnitude.sign negative * (numerator / denominator * single.unit)| =
      numerator / denominator * single.unit := by
    have above : (0 : ℚ) ≤ numerator / denominator * single.unit :=
      mul_nonneg (by positivity) single.unit_pos.le
    rw [abs_mul, SignMagnitude.abs_sign, one_mul, abs_of_nonneg above]
  have infinite_iff := @round_single_eq_infinity_iff numerator denominator positive
  rw [← distance] at infinite_iff
  refine ⟨sign_eq, by rw [magnitude_eq, infinite_iff], fun within => ?_⟩
  have inside : single.round numerator denominator < single.infinity :=
    Nat.lt_of_le_of_ne bound fun reached => not_le_of_gt within (infinite_iff.mp reached)
  have nearest := nearest_of_round (by decide) (by decide) positive magnitude_eq.symm
    (isFinite_iff.mpr (magnitude_eq.trans_lt inside))
  rwa [sign_eq] at nearest

end FloatFormat

namespace Element

theorem roundsTo_ofScalar_float {word : BitVec 64} (finite : double.IsFinite word) :
    RoundsTo (SignMagnitude.negative word) (double.value word)
      (ofScalar .single (.float word)) := by
  have inside := isFinite_iff.mp finite
  have narrowed : ofScalar .single (.float word) =
      SignMagnitude.word 32 (SignMagnitude.negative word)
        (single.round (double.units (SignMagnitude.magnitude word) * 2 ^ single.scale)
          (2 ^ double.scale)) := by
    change SignMagnitude.word 32 _ (double.convert single _) = _
    rw [convert, if_neg (Nat.not_lt_of_lt inside), if_neg (Nat.ne_of_lt inside)]
  have number : double.value word = SignMagnitude.sign (SignMagnitude.negative word) *
      ((double.units (SignMagnitude.magnitude word) * 2 ^ single.scale : ℕ) /
        (2 ^ double.scale : ℕ) * single.unit) := by
    rw [value_eq_units (by decide), unit, unit]
    push_cast
    field_simp
  rw [narrowed, number]
  exact roundsTo_word _ (Nat.two_pow_pos _)

theorem roundsTo_ofScalar_int (integer : Int64) :
    RoundsTo (integer.toInt < 0) integer.toInt (ofScalar .single (.int integer)) := by
  have signed : SignMagnitude.sign (integer.toInt < 0) * (integer.toInt.natAbs : ℚ) =
      integer.toInt := by
    rw [Nat.cast_natAbs, Int.cast_abs]
    by_cases below : integer.toInt < 0
    · have number_neg : (integer.toInt : ℚ) < 0 := by exact_mod_cast below
      simp [SignMagnitude.sign, below, abs_of_neg number_neg]
    · have number_nonneg : (0 : ℚ) ≤ integer.toInt := by exact_mod_cast not_lt.mp below
      simp [SignMagnitude.sign, below, abs_of_nonneg number_nonneg]
  have number : (integer.toInt : ℚ) = SignMagnitude.sign (integer.toInt < 0) *
      ((integer.toInt.natAbs * 2 ^ single.scale : ℕ) / (1 : ℕ) * single.unit) := by
    conv_lhs => rw [← signed]
    rw [unit]
    push_cast
    field_simp
  conv in (integer.toInt : ℚ) => rw [number]
  exact roundsTo_word _ Nat.one_pos

/-- Narrowing a finite double or an integer to a single is rounding its exact number to nearest: it
leaves what rounding must leave and nothing else does. An infinity stays one, on its side. -/
theorem narrowing_rounds_to_nearest :
    (∀ (word : BitVec 64) (rounded : BitVec 32), double.IsFinite word →
        (RoundsTo (SignMagnitude.negative word) (double.value word) rounded ↔
          rounded = ofScalar .single (.float word))) ∧
      (∀ (integer : Int64) (rounded : BitVec 32),
        RoundsTo (integer.toInt < 0) integer.toInt rounded ↔
          rounded = ofScalar .single (.int integer)) ∧
      ∀ negative, ofScalar .single (.float (SignMagnitude.word 64 negative double.infinity)) =
        SignMagnitude.word 32 negative single.infinity := by
  refine ⟨fun word rounded finite => (roundsTo_ofScalar_float finite).iff_eq,
    fun integer rounded => (roundsTo_ofScalar_int integer).iff_eq, fun negative => ?_⟩
  have room : double.infinity < 2 ^ 63 := by decide
  change SignMagnitude.word 32 (SignMagnitude.negative (SignMagnitude.word 64 negative _))
    (double.convert single (SignMagnitude.magnitude (SignMagnitude.word 64 negative _))) = _
  rw [@SignMagnitude.negative_word 63 _ negative room,
    @SignMagnitude.magnitude_word 63 _ negative room, convert_infinity]

/-- Halfway above one, halfway between zero and the least single below it, halfway above the
greatest single, and an integer halfway between two singles. -/
theorem narrowing_rounds_halfway :
    RoundsTo false (double.value (0x3ff0000010000000 : BitVec 64)) 0x3f800000 ∧
      RoundsTo true (double.value (0xb690000000000000 : BitVec 64)) 0x80000000 ∧
      RoundsTo false (double.value (0x47effffff0000000 : BitVec 64)) 0x7f800000 ∧
      RoundsTo false (16777217 : Int) 0x4b800000 := by
  obtain ⟨doubles, integers, _⟩ := narrowing_rounds_to_nearest
  refine ⟨(doubles 0x3ff0000010000000 _ (by decide)).mpr ?_,
    (doubles 0xb690000000000000 _ (by decide)).mpr ?_,
    (doubles 0x47effffff0000000 _ (by decide)).mpr ?_, (integers 16777217 _).mpr ?_⟩ <;>
    exact BitVec.eq_of_toNat_eq (by decide +kernel)

end Element
end PackedNumbers
