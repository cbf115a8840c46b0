import PackedNumbers.Proofs.Element.Key
import PackedNumbers.Proofs.Element.Scalar
import PackedNumbers.Proofs.FloatFormat.Conversion

/-!
The order of scalars, and that narrowing never turns it around: what a code takes is stored in the
order that it came in.
-/
namespace PackedNumbers

namespace Scalar

def key : Scalar → Int
  | int value => value.toInt
  | float word => SignMagnitude.rank word

def order (left right : Scalar) : Ordering := compare left.key right.key

theorem order_ne_gt_iff {left right : Scalar} : left.order right ≠ .gt ↔ left.key ≤ right.key := by
  rw [order, ne_eq, Ordering.ne_gt_iff_isLE, Int.isLE_compare]

/-- No NaN, or the NaN with the quiet bit alone, of either sign. -/
def Plain : Scalar → Prop
  | int _ => True
  | float word => FloatFormat.double.isNaN word →
      word = 0x7ff8000000000000 ∨ word = 0xfff8000000000000

instance : (scalar : Scalar) → Decidable scalar.Plain
  | int _ => inferInstanceAs (Decidable True)
  | float word => inferInstanceAs (Decidable (FloatFormat.double.isNaN word = true →
      word = 0x7ff8000000000000 ∨ word = 0xfff8000000000000))

theorem Plain.magnitude {word : BitVec 64} (plain : (float word).Plain) :
    FloatFormat.double.PlainMagnitude (SignMagnitude.magnitude word) := by
  rcases Nat.lt_or_ge FloatFormat.double.infinity (SignMagnitude.magnitude word) with nan | within
  · right
    rcases plain (decide_eq_true nan) with rfl | rfl <;> decide
  · exact .inl within

end Scalar

namespace SignMagnitude

theorem rank_word {width magnitude : Nat} (sign : Bool) (room : magnitude < 2 ^ width) :
    rank (word (width + 1) sign magnitude) =
      if sign then -(magnitude : Int) - 1 else magnitude := by
  rw [rank, negative_word sign room, magnitude_word sign room]

theorem rank_le_rank {width other : Nat} {left right : BitVec width} {image : Nat → Nat}
    (below : rank left ≤ rank right)
    (leftRoom : image (magnitude left) < 2 ^ other)
    (rightRoom : image (magnitude right) < 2 ^ other)
    (up : magnitude left ≤ magnitude right → image (magnitude left) ≤ image (magnitude right))
    (down : magnitude right ≤ magnitude left → image (magnitude right) ≤ image (magnitude left)) :
    rank (word (other + 1) (negative left) (image (magnitude left))) ≤
      rank (word (other + 1) (negative right) (image (magnitude right))) := by
  rw [rank_word _ leftRoom, rank_word _ rightRoom]
  unfold rank at below
  cases leftSign : negative left with
  | true =>
    cases rightSign : negative right with
    | true =>
      simp only [leftSign, rightSign, if_true] at below ⊢
      have := down (by omega)
      omega
    | false =>
      simp only [if_true, Bool.false_eq_true, if_false]
      omega
  | false =>
    cases rightSign : negative right with
    | true =>
      simp only [leftSign, rightSign, if_true, Bool.false_eq_true, if_false] at below
      omega
    | false =>
      simp only [leftSign, rightSign, Bool.false_eq_true, if_false] at below ⊢
      have := up (by omega)
      omega

end SignMagnitude

namespace Element

variable {code : TypeCode} {left right : Scalar}

theorem toInt_ofInt {value : Int} (least : code.least ≤ value) (greatest : value ≤ code.greatest) :
    @Element.toInt code (BitVec.ofInt code.bits value) = value := by
  unfold TypeCode.least at least
  unfold TypeCode.greatest at greatest
  unfold Element.toInt
  split
  · next signed =>
    rw [if_pos signed] at least greatest
    exact BitVec.toInt_ofInt_eq_self (by cases code <;> decide) least (by omega)
  · next unsigned =>
    rw [if_neg unsigned] at least greatest
    rw [BitVec.toNat_ofInt, Int.emod_eq_of_lt least (by push_cast; omega),
      Int.toNat_of_nonneg least]

theorem ofScalar_int (integer : code.kind = .integer) (value : Int64) :
    ofScalar code (.int value) = BitVec.ofInt code.bits value.toInt := by
  unfold ofScalar
  rw [integer]

theorem key_ofScalar_int {value : Int64} (integer : code.kind = .integer)
    (least : code.least ≤ value.toInt) (greatest : value.toInt ≤ code.greatest) :
    (ofScalar code (.int value)).key = value.toInt := by
  rw [key_of_integer _ integer, ofScalar_int integer]
  exact toInt_ofInt least greatest

/-- Scalars that a code takes keep their order in it: integers stay apart, and floats that fall
together become equal. -/
theorem order_ofScalar (leftTaken : check code left = .ok ())
    (rightTaken : check code right = .ok ())
    (leftPlain : left.Plain) (rightPlain : right.Plain) (below : left.order right ≠ .gt) :
    (ofScalar code left).order (ofScalar code right) ≠ .gt := by
  rw [order_ne_gt_iff]
  rw [Scalar.order_ne_gt_iff] at below
  cases kind : code.kind with
  | integer =>
    obtain ⟨leftValue, rfl, leftLeast, leftGreatest⟩ := value_of_taken kind leftTaken
    obtain ⟨rightValue, rfl, rightLeast, rightGreatest⟩ := value_of_taken kind rightTaken
    rw [key_ofScalar_int kind leftLeast leftGreatest,
      key_ofScalar_int kind rightLeast rightGreatest]
    exact below
  | float =>
    cases code <;> cases kind
    obtain ⟨leftWord, rfl⟩ := word_of_taken rfl leftTaken
    obtain ⟨rightWord, rfl⟩ := word_of_taken rfl rightTaken
    exact SignMagnitude.rank_le_rank below (FloatFormat.narrow_lt leftPlain.magnitude)
      (FloatFormat.narrow_lt rightPlain.magnitude)
      (FloatFormat.narrow_mono leftPlain.magnitude rightPlain.magnitude)
      (FloatFormat.narrow_mono rightPlain.magnitude leftPlain.magnitude)

end Element
end PackedNumbers
