import Mathlib.Data.Int.ModEq
import Mathlib.Data.Rat.Floor
import PackedNumbers.Proofs.Check.Lossless
import PackedNumbers.Proofs.FloatFormat.Extended

/-!
Scalars in words of an integer code: the whole part of a double as far as the code reaches, and the
low bits of an integer.
-/
namespace PackedNumbers

def towardZero (number : ℚ) : ℤ := if number < 0 then ⌈number⌉ else ⌊number⌋

theorem towardZero_natCast_div (numerator denominator : Nat) :
    towardZero (numerator / denominator) = (numerator / denominator : Nat) := by
  have natural : (0 : ℚ) ≤ numerator / denominator := by positivity
  rw [towardZero, if_neg natural.not_gt, Rat.floor_natCast_div_natCast]
  rfl

theorem towardZero_neg (number : ℚ) : towardZero (-number) = -towardZero number := by
  unfold towardZero
  rcases lt_trichotomy number 0 with below | rfl | above
  · rw [if_neg (by linarith), if_pos below, Int.floor_neg]
  · simp
  · rw [if_pos (by linarith), if_neg (by linarith), Int.ceil_neg]

theorem towardZero_intCast (number : ℤ) : towardZero number = number := by
  unfold towardZero
  split
  · exact Int.ceil_intCast number
  · exact Int.floor_intCast number

theorem towardZero_mono {left right : ℚ} (below : left ≤ right) :
    towardZero left ≤ towardZero right := by
  unfold towardZero
  split
  · next leftNegative =>
    split
    · exact Int.ceil_le_ceil below
    · next rightNatural =>
      have leftCeil : ⌈left⌉ ≤ 0 := Int.ceil_le.mpr (by exact_mod_cast leftNegative.le)
      have rightFloor : 0 ≤ ⌊right⌋ := Int.floor_nonneg.mpr (not_lt.mp rightNatural)
      exact leftCeil.trans rightFloor
  · next leftNatural =>
    rw [if_neg (by linarith)]
    exact Int.floor_le_floor below

namespace FloatFormat

variable {format : FloatFormat} {width : Nat} {word : BitVec width}

theorem toInt_of_isNaN (nan : format.isNaN word = true) : format.toInt word = 0 := by
  simp only [toInt, nan, if_true]

theorem toInt_of_isFinite (wide : 1 < format.exponentBits) (finite : format.IsFinite word) :
    format.toInt word = towardZero (format.value word) := by
  have number : format.isNaN word = false :=
    isNaN_eq_false_iff.mpr (Nat.le_of_lt (isFinite_iff.mp finite))
  have whole : towardZero (format.units (SignMagnitude.magnitude word) * format.unit) =
      format.truncate (SignMagnitude.magnitude word) := by
    have quotient : (format.units (SignMagnitude.magnitude word) * format.unit : ℚ) =
        format.units (SignMagnitude.magnitude word) / (2 ^ format.scale : Nat) := by
      rw [unit, div_eq_mul_inv]
      push_cast
      rfl
    rw [quotient, towardZero_natCast_div]
    rfl
  rw [value_eq_units wide, toInt, number]
  cases SignMagnitude.negative word with
  | true => simp [SignMagnitude.sign, towardZero_neg, whole]
  | false => simp [SignMagnitude.sign, whole]

theorem toInt_double_of_infinite {word : BitVec 64} (number : double.isNaN word = false)
    (infinite : ¬ double.IsFinite word) :
    if SignMagnitude.negative word then double.toInt word ≤ -2 ^ 63
    else 2 ^ 63 ≤ double.toInt word := by
  have top : SignMagnitude.magnitude word = double.infinity := by
    rw [isFinite_iff] at infinite
    have within := isNaN_eq_false_iff.mp number
    omega
  have past : (2 ^ 63 : Int) ≤ double.truncate double.infinity := by decide +kernel
  simp only [toInt, number, top, Bool.false_eq_true, if_false]
  split
  · exact Int.neg_le_neg past
  · exact past

end FloatFormat

namespace Element

open FloatFormat

variable {code : TypeCode} {word left right : BitVec 64}

theorem toInt_ofScalar_float (integer : code.kind = .integer) (word : BitVec 64) :
    (ofScalar code (.float word)).toInt = code.clamp (double.toInt word) := by
  obtain ⟨least, greatest⟩ := code.clamp_bounds (double.toInt word)
  unfold ofScalar
  rw [integer]
  exact toInt_ofInt least greatest

theorem toInt_ofScalar_finite (integer : code.kind = .integer) (finite : double.IsFinite word) :
    (ofScalar code (.float word)).toInt = code.clamp (towardZero (double.value word)) := by
  rw [toInt_ofScalar_float integer, toInt_of_isFinite (by decide) finite]

theorem toInt_ofScalar_infinite (integer : code.kind = .integer)
    (number : double.isNaN word = false) (infinite : ¬ double.IsFinite word) :
    (ofScalar code (.float word)).toInt =
      if SignMagnitude.negative word then code.least else code.greatest := by
  obtain ⟨least, greatest⟩ := code.range_le
  have past := toInt_double_of_infinite number infinite
  rw [toInt_ofScalar_float integer]
  split at past
  · next negative =>
    rw [if_pos negative]
    exact TypeCode.clamp_of_le_least (Int.le_trans past least)
  · next positive =>
    rw [if_neg positive]
    exact TypeCode.clamp_of_greatest_le (Int.le_trans (Int.le_of_lt greatest) past)

theorem toInt_ofScalar_mono (integer : code.kind = .integer) (below : double.Le left right) :
    (ofScalar code (.float left)).toInt ≤ (ofScalar code (.float right)).toInt := by
  obtain ⟨leftNumber, rightNumber, extended_le⟩ := below
  have least := (ofScalar code (.float right)).least_le_toInt
  have greatest := (ofScalar code (.float left)).toInt_le_greatest
  by_cases rightFinite : double.IsFinite right
  · by_cases leftFinite : double.IsFinite left
    · rw [extended, extended, if_pos leftFinite, if_pos rightFinite, WithBotTop.coe_le_coe]
        at extended_le
      rw [toInt_ofScalar_finite integer leftFinite, toInt_ofScalar_finite integer rightFinite]
      exact TypeCode.clamp_mono (towardZero_mono extended_le)
    · have ends := toInt_ofScalar_infinite integer leftNumber leftFinite
      cases negative : SignMagnitude.negative left with
      | true =>
        rw [ends, if_pos negative]
        exact least
      | false =>
        rw [extended_eq_top leftFinite negative, top_le_iff, extended, if_pos rightFinite]
          at extended_le
        exact absurd extended_le (WithBotTop.coe_ne_top _)
  · have ends := toInt_ofScalar_infinite integer rightNumber rightFinite
    cases negative : SignMagnitude.negative right with
    | true =>
      rw [extended_eq_bot rightFinite negative, le_bot_iff] at extended_le
      obtain ⟨leftInfinite, leftNegative⟩ := of_extended_eq_bot extended_le
      rw [toInt_ofScalar_infinite integer leftNumber leftInfinite, if_pos leftNegative]
      exact least
    | false =>
      rw [ends, negative]
      exact greatest

theorem toInt_modEq (element : Element code) :
    element.toInt ≡ element.toNat [ZMOD (2 ^ code.bits : Nat)] := by
  unfold Element.toInt
  split
  · rw [BitVec.toInt_eq_toNat_bmod]
    exact Int.bmod_emod
  · rfl

theorem modEq_iff_eq_ofScalar (integer : code.kind = .integer) {value : Int64}
    {element : Element code} :
    element.toInt ≡ value.toInt [ZMOD (2 ^ code.bits : Nat)] ↔
      element = ofScalar code (.int value) := by
  have modulus : ((2 ^ code.bits : Nat) : Int) ≠ 0 := by
    exact_mod_cast (Nat.two_pow_pos code.bits).ne'
  have rest := Int.emod_nonneg value.toInt modulus
  have wrapped : (ofScalar code (.int value)).toNat =
      (value.toInt % (2 ^ code.bits : Nat)).toNat := by
    rw [ofScalar_int integer, BitVec.toNat_ofInt]
  constructor
  · intro same
    have low := (toInt_modEq element).symm.trans same
    rw [Int.ModEq, Int.emod_eq_of_lt (Int.natCast_nonneg _) (by exact_mod_cast element.isLt)] at low
    apply BitVec.eq_of_toNat_eq
    rw [wrapped, ← low, Int.toNat_natCast]
  · rintro rfl
    apply (toInt_modEq _).trans
    rw [wrapped, Int.toNat_of_nonneg rest]
    exact Int.mod_modEq _ _

/-- Narrowing to an integer code, whatever the check would say. A NaN becomes zero; any other double
is cut toward zero and clamped to the numbers between the least and the greatest word, so an integer
of the code is stored as itself, and doubles keep their order. An integer becomes the one word that
agrees with it in the bits that the code has. -/
theorem narrowing_to_integers (integer : code.kind = .integer) :
    ∃ first last : Element code,
      (∀ element : Element code, first.toInt ≤ element.toInt ∧ element.toInt ≤ last.toInt) ∧
      (∀ word, double.isNaN word = true → (ofScalar code (.float word)).toInt = 0) ∧
      (∀ word, double.IsFinite word → (ofScalar code (.float word)).toInt =
        max first.toInt (min (towardZero (double.value word)) last.toInt)) ∧
      (∀ word, double.isNaN word = false → ¬ double.IsFinite word →
        ofScalar code (.float word) = if SignMagnitude.negative word then first else last) ∧
      (∀ word (number : ℤ), double.IsFinite word → double.value word = number →
        first.toInt ≤ number → number ≤ last.toInt →
          (ofScalar code (.float word)).toInt = number) ∧
      (∀ left right, double.Le left right →
        (ofScalar code (.float left)).toInt ≤ (ofScalar code (.float right)).toInt) ∧
      ∀ (value : Int64) (element : Element code),
        element.toInt ≡ value.toInt [ZMOD (2 ^ (8 * code.width) : Nat)] ↔
          element = ofScalar code (.int value) := by
  obtain ⟨first, last, least, greatest⟩ := exists_bounds code
  refine ⟨first, last, fun element => ?_, fun word nan => ?_, fun word finite => ?_,
    fun word number infinite => ?_, fun word number finite same above below => ?_,
    fun left right => toInt_ofScalar_mono integer, fun value element =>
      modEq_iff_eq_ofScalar integer⟩
  · rw [least, greatest]
    exact ⟨element.least_le_toInt, element.toInt_le_greatest⟩
  · obtain ⟨below, above⟩ := code.zero_bounds
    rw [toInt_ofScalar_float integer, toInt_of_isNaN nan]
    exact TypeCode.clamp_of_bounds below above
  · rw [toInt_ofScalar_finite integer finite, least, greatest]
    rfl
  · apply toInt_injective
    rw [toInt_ofScalar_infinite integer number infinite]
    split
    · exact least.symm
    · exact greatest.symm
  · rw [least] at above
    rw [greatest] at below
    rw [toInt_ofScalar_finite integer finite, same, towardZero_intCast]
    exact TypeCode.clamp_of_bounds above below

/-- A NaN, the double after minus 128, an infinity below it, the greatest integer of 16 bits, and an
integer that wraps. -/
theorem narrowing_to_integers_edges :
    TypeCode.int8.kind = .integer ∧ TypeCode.uint16.kind = .integer ∧
      (ofScalar .int8 (.float 0x7ff8000000000000)).toInt = 0 ∧
      (ofScalar .int8 (.float 0xc05fffffffffffff)).toInt = -127 ∧
      (ofScalar .int8 (.float 0xfff0000000000000)).toInt ≤
        (ofScalar .int8 (.float 0xc05fffffffffffff)).toInt ∧
      (ofScalar .uint16 (.float 0x40efffe000000000)).toInt = 65535 ∧
      (200 : Element .int8) = ofScalar .int8 (.int (-56)) := by
  have signed : TypeCode.int8.kind = .integer := rfl
  have unsigned : TypeCode.uint16.kind = .integer := rfl
  obtain ⟨_, _, bounds, nan, cut, _, _, ascending, wraps⟩ := narrowing_to_integers signed
  obtain ⟨_, _, wideBounds, _, _, _, stored, _, _⟩ := narrowing_to_integers unsigned
  have after : towardZero (double.value (0xc05fffffffffffff : BitVec 64)) = -127 := by
    decide +kernel
  have below : double.Le (0xfff0000000000000 : BitVec 64) (0xc05fffffffffffff : BitVec 64) :=
    ⟨by decide, by decide, extended_le_of_rank_le (by decide) (by decide) (by decide) (by decide)⟩
  have least : (-127 : Int) = (0x81 : Element .int8).toInt := by decide
  have greatest : (65535 : Int) = (0xffff : Element .uint16).toInt := by decide
  refine ⟨signed, unsigned, nan _ (by decide), ?_, ascending _ _ below, ?_,
    (wraps (-56) 200).mp (by decide)⟩
  · rw [cut _ (by decide), after, least]
    have inside := bounds 0x81
    omega
  · have inside := wideBounds 0xffff
    have zero := wideBounds 0
    refine stored _ 65535 (by decide) (by decide +kernel) ?_ ?_
    · exact Int.le_trans zero.1 (by decide)
    · rw [greatest]
      exact inside.2

end Element
end PackedNumbers
