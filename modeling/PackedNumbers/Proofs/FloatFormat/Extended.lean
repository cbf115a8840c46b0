import Mathlib.Order.WithBotTop
import PackedNumbers.Proofs.Element.Scalar
import PackedNumbers.Proofs.FloatFormat.Conversion
import PackedNumbers.Proofs.FloatFormat.Value

/-!
Numbers with the infinities at the two ends of their line. The total order follows the line, and a
single stands at one place of it whether it is read as a single or as a double.
-/
namespace PackedNumbers.FloatFormat

variable {format : FloatFormat} {width : Nat} {word left right : BitVec width}

/-- The place of a word on the line; a NaN, which has none, is put with the infinity of its sign. -/
def extended (format : FloatFormat) (word : BitVec width) : WithBotTop ℚ :=
  if format.IsFinite word then format.value word
  else if SignMagnitude.negative word then ⊥
  else ⊤

/-- The order of numbers, in which a NaN is neither below nor above anything. -/
structure Le (format : FloatFormat) (left right : BitVec width) : Prop where
  left_number : format.isNaN left = false
  right_number : format.isNaN right = false
  extended_le : format.extended left ≤ format.extended right

theorem isNaN_eq_false_iff :
    format.isNaN word = false ↔ SignMagnitude.magnitude word ≤ format.infinity := by
  rw [isNaN, decide_eq_false_iff_not, Nat.not_lt]

theorem extended_cases (number : format.isNaN word = false) :
    (-(format.infinity : Int) - 1 < SignMagnitude.rank word ∧
        SignMagnitude.rank word < format.infinity ∧ format.extended word = format.value word) ∨
      (SignMagnitude.rank word = -(format.infinity : Int) - 1 ∧ format.extended word = ⊥) ∨
      (SignMagnitude.rank word = format.infinity ∧ format.extended word = ⊤) := by
  rw [isNaN_eq_false_iff] at number
  unfold extended SignMagnitude.rank
  by_cases finite : format.IsFinite word
  · left
    have inside := isFinite_iff.mp finite
    rw [if_pos finite]
    refine ⟨?_, ?_, rfl⟩ <;> split <;> omega
  · right
    have top : SignMagnitude.magnitude word = format.infinity := by
      rw [isFinite_iff] at finite
      omega
    rw [if_neg finite, top]
    split
    · exact .inl ⟨rfl, rfl⟩
    · exact .inr ⟨rfl, rfl⟩

theorem extended_eq_top (infinite : ¬ format.IsFinite word)
    (positive : SignMagnitude.negative word = false) : format.extended word = ⊤ := by
  rw [extended, if_neg infinite, positive]
  rfl

theorem extended_eq_bot (infinite : ¬ format.IsFinite word)
    (negative : SignMagnitude.negative word = true) : format.extended word = ⊥ := by
  rw [extended, if_neg infinite, negative]
  rfl

theorem of_extended_eq_bot (bottom : format.extended word = ⊥) :
    ¬ format.IsFinite word ∧ SignMagnitude.negative word = true := by
  unfold extended at bottom
  split at bottom
  · exact absurd bottom (WithBotTop.coe_ne_bot _)
  · next infinite =>
    split at bottom
    · next negative => exact ⟨infinite, negative⟩
    · exact absurd bottom WithBotTop.top_ne_bot

theorem extended_le_of_rank_le (wide : 1 < format.exponentBits)
    (leftNumber : format.isNaN left = false) (rightNumber : format.isNaN right = false)
    (below : SignMagnitude.rank left ≤ SignMagnitude.rank right) :
    format.extended left ≤ format.extended right := by
  rcases extended_cases leftNumber with ⟨_, _, leftValue⟩ | ⟨_, leftEnd⟩ | ⟨leftRank, leftEnd⟩
  · rcases extended_cases rightNumber with ⟨_, _, rightValue⟩ | ⟨rightRank, _⟩ | ⟨_, rightEnd⟩
    · rw [leftValue, rightValue, WithBotTop.coe_le_coe]
      exact value_le_of_rank_le wide below
    · omega
    · rw [rightEnd]
      exact le_top
  · rw [leftEnd]
    exact bot_le
  · rcases extended_cases rightNumber with ⟨_, _, _⟩ | ⟨_, _⟩ | ⟨_, rightEnd⟩
    · omega
    · omega
    · rw [rightEnd]
      exact le_top

theorem widen_parts {word : BitVec 32} (number : single.isNaN word = false) :
    SignMagnitude.negative (widen word) = SignMagnitude.negative word ∧
      SignMagnitude.magnitude (widen word) =
        single.convert double (SignMagnitude.magnitude word) := by
  have within := @convert_le_infinity _ double _ (isNaN_eq_false_iff.mp number)
  have room : single.convert double (SignMagnitude.magnitude word) < 2 ^ 63 :=
    Nat.lt_of_le_of_lt within (by decide)
  exact ⟨@SignMagnitude.negative_word 63 _ _ room, @SignMagnitude.magnitude_word 63 _ _ room⟩

theorem isNaN_widen {word : BitVec 32} (number : single.isNaN word = false) :
    double.isNaN (widen word) = false := by
  rw [isNaN_eq_false_iff, (widen_parts number).2]
  exact convert_le_infinity (isNaN_eq_false_iff.mp number)

theorem extended_widen {word : BitVec 32} (number : single.isNaN word = false) :
    double.extended (widen word) = single.extended word := by
  obtain ⟨sign, magnitude⟩ := widen_parts number
  by_cases finite : single.IsFinite word
  · obtain ⟨inside, same⟩ := units_convert (isFinite_iff.mp finite)
    have widened : double.IsFinite (widen word) := by
      rwa [isFinite_iff, magnitude]
    have counts : (double.units (SignMagnitude.magnitude (widen word)) : ℚ) * double.unit =
        single.units (SignMagnitude.magnitude word) * single.unit := by
      rw [magnitude, unit, unit, ← div_eq_mul_inv, ← div_eq_mul_inv,
        div_eq_div_iff (by positivity) (by positivity)]
      exact_mod_cast same
    have values : double.value (widen word) = single.value word := by
      rw [value_eq_units (by decide), value_eq_units (by decide), sign, counts]
    rw [extended, extended, if_pos finite, if_pos widened, values]
  · have top : SignMagnitude.magnitude word = single.infinity := by
      rw [isFinite_iff] at finite
      have within := isNaN_eq_false_iff.mp number
      omega
    have infinite : ¬ double.IsFinite (widen word) := by
      rw [isFinite_iff, magnitude, top, convert_infinity]
      exact Nat.lt_irrefl _
    rw [extended, extended, if_neg finite, if_neg infinite, sign]

end PackedNumbers.FloatFormat
