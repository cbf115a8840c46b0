import PackedNumbers.Proofs.Cursor.Remaining
import PackedNumbers.Proofs.FloatFormat.Extended
import PackedNumbers.Proofs.Order.Canonical

/-!
Sorted floats as numbers: the negative NaNs, then the numbers from one infinity to the other with
the negative zeros before the positive ones, then the positive NaNs.
-/
namespace PackedNumbers

open FloatFormat

theorem filter_append_filter_of_pairwise {α : Type} {items : List α} {early : α → Bool}
    (ordered : items.Pairwise fun left right => early right = true → early left = true) :
    items.filter early ++ items.filter (fun item => !early item) = items := by
  induction ordered with
  | nil => rfl
  | @cons item items before _ ih =>
    cases here : early item with
    | true => simp [here, ih]
    | false =>
      have none_later : items.filter early = [] := by
        rw [List.filter_eq_nil_iff]
        intro later member held
        rw [before later member held] at here
        cases here
      rw [none_later, List.nil_append] at ih
      simp [here, none_later, ih]

namespace FloatFormat

variable {format : FloatFormat} {width : Nat} {word : BitVec width}

theorem rank_lt_iff :
    SignMagnitude.rank word < -(format.infinity : Int) - 1 ↔
      format.isNaN word = true ∧ SignMagnitude.negative word = true := by
  rw [isNaN, decide_eq_true_iff, SignMagnitude.rank]
  cases SignMagnitude.negative word with
  | true =>
    simp only [if_true, and_true]
    omega
  | false =>
    simp only [Bool.false_eq_true, if_false, and_false, iff_false]
    omega

theorem lt_rank_iff :
    (format.infinity : Int) < SignMagnitude.rank word ↔
      format.isNaN word = true ∧ SignMagnitude.negative word = false := by
  rw [isNaN, decide_eq_true_iff, SignMagnitude.rank]
  cases SignMagnitude.negative word with
  | true =>
    simp only [if_true, Bool.true_eq_false, and_false, iff_false]
    omega
  | false =>
    simp only [Bool.false_eq_true, if_false, and_true]
    omega

end FloatFormat

def Element.double (element : Element .single) : BitVec 64 := widen element

theorem Element.toScalar_single (element : Element .single) :
    element.toScalar = .float element.double :=
  rfl

theorem Element.double_le {left right : Element .single} (leftNumber : single.isNaN left = false)
    (rightNumber : single.isNaN right = false)
    (below : single.extended left ≤ single.extended right) :
    FloatFormat.double.Le left.double right.double where
  left_number := isNaN_widen leftNumber
  right_number := isNaN_widen rightNumber
  extended_le := by
    calc
      _ = single.extended left := extended_widen leftNumber
      _ ≤ single.extended right := below
      _ = _ := (extended_widen rightNumber).symm

structure FloatBlocks (below numbers above : List (Element .single)) : Prop where
  negative_nan : ∀ element ∈ below,
    single.isNaN element = true ∧ SignMagnitude.negative element = true
  number : ∀ element ∈ numbers, single.isNaN element = false
  positive_nan : ∀ element ∈ above,
    single.isNaN element = true ∧ SignMagnitude.negative element = false
  ascending : numbers.Pairwise fun left right => single.extended left ≤ single.extended right
  zeros : ∀ first last : Nat, numbers[first]? = some 0x80000000 →
    numbers[last]? = some 0x00000000 → first < last

theorem exists_floatBlocks {elements : List (Element .single)}
    (ordered : elements.Pairwise fun left right =>
      SignMagnitude.rank left ≤ SignMagnitude.rank right) :
    ∃ below numbers above, FloatBlocks below numbers above ∧
      elements = below ++ numbers ++ above := by
  -- Two cuts of the ordered list: before the first number, and behind the last one.
  let early (element : Element .single) : Bool :=
    SignMagnitude.rank element < -(single.infinity : Int) - 1
  let within (element : Element .single) : Bool :=
    SignMagnitude.rank element ≤ (single.infinity : Int)
  let rest := elements.filter fun element => !early element
  have rest_ordered := ordered.filter fun element => !early element
  have parts : elements.filter early ++ rest = elements := by
    apply filter_append_filter_of_pairwise
    apply ordered.imp
    intro left right below held
    simp only [early, decide_eq_true_eq] at held ⊢
    omega
  have rest_parts : rest.filter within ++ rest.filter (fun element => !within element) = rest := by
    apply filter_append_filter_of_pairwise
    apply rest_ordered.imp
    intro left right below held
    simp only [within, decide_eq_true_eq] at held ⊢
    omega
  have number : ∀ element ∈ rest.filter within, single.isNaN element = false := by
    intro element member
    simp only [rest, List.mem_filter, early, within, Bool.not_eq_true', decide_eq_false_iff_not,
      decide_eq_true_eq] at member
    rw [← Bool.not_eq_true]
    intro nan
    cases sign : SignMagnitude.negative element with
    | true => exact member.1.2 (rank_lt_iff.mpr ⟨nan, sign⟩)
    | false => exact Int.not_lt.mpr member.2 (lt_rank_iff.mpr ⟨nan, sign⟩)
  refine ⟨elements.filter early, rest.filter within, rest.filter fun element => !within element,
    ⟨?_, number, ?_, ?_, ?_⟩, ?_⟩
  · intro element member
    exact rank_lt_iff.mp (of_decide_eq_true (List.mem_filter.mp member).2)
  · intro element member
    have beyond := (List.mem_filter.mp member).2
    simp only [within, Bool.not_eq_true', decide_eq_false_iff_not, Int.not_le] at beyond
    exact lt_rank_iff.mp beyond
  · apply (rest_ordered.filter within).imp_of_mem
    intro left right leftMember rightMember below
    exact extended_le_of_rank_le (by decide) (number left leftMember) (number right rightMember)
      below
  · intro first last negative positive
    obtain ⟨firstInside, negative⟩ := List.getElem?_eq_some_iff.mp negative
    obtain ⟨lastInside, positive⟩ := List.getElem?_eq_some_iff.mp positive
    by_contra reached
    rcases Nat.lt_or_eq_of_le (Nat.le_of_not_lt reached) with before | rfl
    · have below := List.pairwise_iff_getElem.mp (rest_ordered.filter within) last first lastInside
        firstInside before
      rw [negative, positive] at below
      revert below
      decide
    · rw [negative] at positive
      revert positive
      decide
  · rw [List.append_assoc, rest_parts, parts]

namespace Packed

/-- Sorting floats leaves the NaNs with a sign, then the numbers, then the NaNs without one. The
numbers ascend from one infinity to the other, every negative zero is before every positive one, and
a walk through the vector reads them as doubles that ascend in the same way. -/
theorem sort_float_blocks (vector : Packed) (float : vector.code = .single) :
    ∃ below numbers above : List (Element .single), FloatBlocks below numbers above ∧
      vector.sort = ofElements (below ++ numbers ++ above) ∧ vector.sort.Rearranges vector ∧
      ∃ doubles : List (BitVec 64), doubles.Pairwise FloatFormat.double.Le ∧
        doubles.length = numbers.length ∧
        (Cursor.ofPacked vector.sort).drain = below.map Element.toScalar ++
          doubles.map Scalar.float ++ above.map Element.toScalar := by
  have same := vector.sort_rearranges
  cases vector with
  | mk code elements =>
    subst float
    have arranged := Element.arranges_sortByKey elements
    have ordered : (Element.sortByKey elements).toList.Pairwise fun left right =>
        SignMagnitude.rank left ≤ SignMagnitude.rank right := by
      apply arranged.ordered.imp
      intro left right
      exact Element.order_ne_gt_iff.mp
    obtain ⟨below, numbers, above, blocks, parts⟩ := exists_floatBlocks ordered
    have sorted : sort ⟨.single, elements⟩ = ofElements (below ++ numbers ++ above) := by
      rw [sort_eq_sortByKey, ← parts, ofElements]
    refine ⟨below, numbers, above, blocks, sorted, same,
      numbers.map Element.double, ?_, ?_, ?_⟩
    · rw [List.pairwise_map]
      apply blocks.ascending.imp_of_mem
      intro left right leftMember rightMember below
      exact Element.double_le (blocks.number left leftMember) (blocks.number right rightMember)
        below
    · exact List.length_map ..
    · rw [Cursor.drain_eq_remaining, Cursor.remaining_ofPacked, sorted]
      change (below ++ numbers ++ above).map Element.toScalar = _
      rw [List.map_append, List.map_append, List.map_map, funext Element.toScalar_single]
      rfl

theorem sort_float_blocks_unorderedFloats :
    ∃ below numbers above : List (Element .single), FloatBlocks below numbers above ∧
      orderedFloats = ofElements (below ++ numbers ++ above) := by
  obtain ⟨below, numbers, above, blocks, sorted, _⟩ := sort_float_blocks unorderedFloats rfl
  have same : unorderedFloats.Rearranges orderedFloats := ⟨rfl, by decide⟩
  have ordered : unorderedFloats.sort = orderedFloats :=
    eq_of_ascending unorderedFloats.sort_ascending (by decide)
      (unorderedFloats.sort_rearranges.trans same)
  exact ⟨below, numbers, above, blocks, ordered.symm.trans sorted⟩

end Packed
end PackedNumbers
