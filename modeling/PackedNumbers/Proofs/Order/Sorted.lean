import PackedNumbers.Proofs.Order.Canonical

/-!
The scan that looks for a descent. It compares neighbours only, and finds nothing exactly where a
sort would move nothing.
-/
namespace PackedNumbers

theorem all_zip_tail_iff_isChain {α : Type} {follows : α × α → Bool} {items : List α} :
    (items.zip items.tail).all follows = true ↔
      items.IsChain fun left right => follows (left, right) = true := by
  induction items with
  | nil => simp
  | cons first rest ih =>
    cases rest with
    | nil => simp
    | cons second rest =>
      rw [List.isChain_cons_cons, ← ih, List.tail_cons, List.zip_cons_cons, List.all_cons,
        Bool.and_eq_true, List.tail_cons]

instance Element.transOrderNeGt (code : TypeCode) :
    Trans (fun left right : Element code => left.order right ≠ .gt)
      (fun left right => left.order right ≠ .gt) (fun left right => left.order right ≠ .gt) where
  trans {_ _ _} below above := by
    rw [Element.order_ne_gt_iff] at below above ⊢
    exact Int.le_trans below above

namespace Packed

theorem isSorted_iff_pairwise {vector : Packed} :
    vector.isSorted = true ↔
      vector.elements.toList.Pairwise fun left right => left.order right ≠ .gt := by
  rw [isSorted, all_zip_tail_iff_isChain, ← List.isChain_iff_pairwise]
  simp only [bne_iff_ne]

theorem isSorted_iff_ascending {vector : Packed} : vector.isSorted = true ↔ vector.Ascending := by
  rw [isSorted_iff_pairwise, ascending_iff_arranges]
  constructor
  · intro ordered
    exact ⟨.refl _, ordered⟩
  · intro arranged
    exact arranged.ordered

theorem sort_eq_self_iff_ascending {vector : Packed} :
    vector.sort = vector ↔ vector.Ascending := by
  constructor
  · intro unmoved
    rw [← unmoved]
    exact sort_ascending vector
  · intro ascending
    exact eq_of_ascending (sort_ascending vector) ascending (sort_rearranges vector)

/-- The scan of neighbours succeeds exactly if a sort changes no bit, and exactly if no element is
above any later one. So it succeeds after every sort, and a second sort changes nothing. -/
theorem isSorted_iff_sort_keeps (vector : Packed) :
    (vector.isSorted = true ↔ vector.sort = vector) ∧
      (vector.isSorted = true ↔ ∀ (first last : Nat) (left right : Element vector.code),
        first < last → vector.elements[first]? = some left → vector.elements[last]? = some right →
          left.order right ≠ .gt) ∧
      vector.sort.isSorted = true ∧ vector.sort.sort = vector.sort := by
  refine ⟨?_, ?_, ?_, ?_⟩
  · rw [isSorted_iff_ascending, sort_eq_self_iff_ascending]
  · rw [isSorted_iff_pairwise, List.pairwise_iff_getElem]
    constructor
    · intro pairwise first last left right before here there
      obtain ⟨firstInside, rfl⟩ := Array.getElem?_eq_some_iff.mp here
      obtain ⟨lastInside, rfl⟩ := Array.getElem?_eq_some_iff.mp there
      exact pairwise first last firstInside lastInside before
    · intro pairs first last firstInside lastInside before
      exact pairs first last _ _ before (Array.getElem?_eq_getElem firstInside)
        (Array.getElem?_eq_getElem lastInside)
  · exact isSorted_iff_ascending.mpr (sort_ascending vector)
  · exact sort_eq_self_iff_ascending.mpr (sort_ascending vector)

theorem isSorted_orderedFloats :
    orderedFloats.isSorted = true ∧ orderedFloats.sort = orderedFloats ∧
      unorderedFloats.isSorted = false ∧ unorderedFloats.sort ≠ unorderedFloats := by
  have scanned : orderedFloats.isSorted = true := by decide
  have refused : unorderedFloats.isSorted = false := by decide
  refine ⟨scanned, (isSorted_iff_sort_keeps orderedFloats).1.mp scanned, refused, ?_⟩
  intro unmoved
  have found := (isSorted_iff_sort_keeps unorderedFloats).1.mpr unmoved
  rw [refused] at found
  cases found

end Packed
end PackedNumbers
