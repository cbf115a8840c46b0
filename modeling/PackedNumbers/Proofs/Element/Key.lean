import PackedNumbers.Proofs.Element.Range

/-!
The order of a code as the order of integers: comparison is comparison of keys, and different words
have different keys.
-/
namespace PackedNumbers

namespace SignMagnitude

variable {width : Nat}

theorem rank_neg_iff (word : BitVec width) : rank word < 0 ↔ negative word = true := by
  unfold rank
  split
  · next sign =>
    rw [iff_true_right sign]
    omega
  · next sign =>
    rw [iff_false_right sign]
    omega

theorem magnitude_eq_of_rank_eq {left right : BitVec width} (same : rank left = rank right) :
    magnitude left = magnitude right := by
  have signs : negative left = negative right := by
    rw [Bool.eq_iff_iff, ← rank_neg_iff, ← rank_neg_iff, same]
  unfold rank at same
  rw [signs] at same
  split at same <;> omega

theorem rank_injective {left right : BitVec (width + 1)} (same : rank left = rank right) :
    left = right := by
  have signs : negative left = negative right := by
    rw [Bool.eq_iff_iff, ← rank_neg_iff, ← rank_neg_iff, same]
  rw [← word_negative_magnitude left, ← word_negative_magnitude right, signs,
    magnitude_eq_of_rank_eq same]

def flipped (word : BitVec (width + 1)) : BitVec (width + 1) :=
  let low := word.setWidth width
  .cons (negative word) (if negative word then ~~~low else low)

/-- The total order is the order of two's complement on flipped words. -/
theorem toInt_flipped (word : BitVec (width + 1)) : (flipped word).toInt = rank word := by
  have low : (word.setWidth width).toNat = magnitude word := BitVec.toNat_setWidth width word
  have bound := magnitude_lt word
  rw [Nat.add_sub_cancel] at bound
  rw [BitVec.toInt_eq_msb_cond, flipped, BitVec.msb_cons, BitVec.toNat_cons', rank]
  cases negative word with
  | false => simp [low]
  | true =>
    have complement : (~~~word.setWidth width).toNat = 2 ^ width - 1 - magnitude word := by
      rw [BitVec.toNat_not, low]
    simp only [if_true, complement, Bool.toNat_true, Nat.shiftLeft_eq, Nat.one_mul, Nat.pow_succ]
    generalize 2 ^ width = half at bound
    omega

end SignMagnitude

namespace Element

variable {code : TypeCode}

theorem toInt_injective {left right : Element code} (same : left.toInt = right.toInt) :
    left = right := by
  rw [← left.ofInt_toInt, same, right.ofInt_toInt]

theorem key_of_integer (element : Element code) (integer : code.kind = .integer) :
    element.key = element.toInt := by
  rw [key, integer]

theorem key_injective {left right : Element code} (same : left.key = right.key) : left = right := by
  cases integer : code.kind with
  | integer =>
    rw [key_of_integer left integer, key_of_integer right integer] at same
    exact toInt_injective same
  | float =>
    cases code <;> cases integer
    exact SignMagnitude.rank_injective same

theorem order_ne_gt_iff {left right : Element code} :
    left.order right ≠ .gt ↔ left.key ≤ right.key := by
  rw [order, ne_eq, Ordering.ne_gt_iff_isLE, Int.isLE_compare]

theorem order_self (element : Element code) : element.order element ≠ .gt :=
  order_ne_gt_iff.mpr (Int.le_refl element.key)

theorem order_antisymm {left right : Element code} (below : left.order right ≠ .gt)
    (above : right.order left ≠ .gt) : left = right :=
  key_injective (Int.le_antisymm (order_ne_gt_iff.mp below) (order_ne_gt_iff.mp above))

end Element
end PackedNumbers
