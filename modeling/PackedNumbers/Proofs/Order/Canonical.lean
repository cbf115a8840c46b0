import PackedNumbers.Order
import PackedNumbers.Proofs.Order.Counting
import PackedNumbers.Proofs.Words

/-!
Every sort of a vector leaves its one ascending arrangement. The order of a code tells different
words apart, so neither the method nor its treatment of ties can show in the result.
-/
namespace PackedNumbers

theorem TypeCode.integer_of_byte {code : TypeCode} (byte : code.width = 1) :
    code.kind = .integer := by
  cases code <;> first | rfl | cases byte

namespace Element

variable {code : TypeCode}

theorem transCmp_order : Std.TransCmp (order : Element code → Element code → Ordering) :=
  inferInstanceAs (Std.TransCmp (compareOn key))

theorem arranges_sortByKey (elements : Array (Element code)) :
    Arranges order (sortByKey elements).toList elements.toList := by
  have agrees : (fun left right : Element code => decide (left.key ≤ right.key)) =
      fun left right => (order left right).isLE := by
    funext left right
    rw [Bool.eq_iff_iff, decide_eq_true_iff, ← order_ne_gt_iff, ne_eq, Ordering.ne_gt_iff_isLE]
  have trans := @transCmp_order code
  rw [sortByKey, agrees]
  exact Arranges.mergeSort elements.toList fun left right => Ordering.ne_gt_iff_isLE.mpr

theorem eq_of_arranges {first second : Array (Element code)}
    {firstInput secondInput : List (Element code)}
    (one : Arranges order first.toList firstInput) (two : Arranges order second.toList secondInput)
    (same : firstInput.Perm secondInput) : first = second :=
  Array.toList_inj.mp (Arranges.unique (fun _ _ _ _ => order_antisymm) one two same)

end Element

theorem Counting.sort_eq_sortByKey {code : TypeCode} (integer : code.kind = .integer)
    (elements : Array (Element code)) : sort elements = Element.sortByKey elements :=
  Element.eq_of_arranges (arranges_sort integer elements) (Element.arranges_sortByKey elements)
    (.refl elements.toList)

namespace Packed

def Ascending (vector : Packed) : Prop :=
  ∀ first last : Fin vector.elements.size, first ≤ last →
    Element.order vector.elements[first] vector.elements[last] ≠ .gt

instance (vector : Packed) : Decidable vector.Ascending :=
  inferInstanceAs (Decidable (∀ first last : Fin vector.elements.size, first ≤ last →
    Element.order vector.elements[first] vector.elements[last] ≠ .gt))

theorem ascending_iff_arranges {vector : Packed} :
    vector.Ascending ↔
      Arranges Element.order vector.elements.toList vector.elements.toList := by
  constructor
  · intro ascending
    refine ⟨.refl _, List.pairwise_iff_getElem.mpr ?_⟩
    intro first last firstInside lastInside before
    exact ascending ⟨first, firstInside⟩ ⟨last, lastInside⟩ (Nat.le_of_lt before)
  · intro arranged first last between
    exact arranged.getElem_ne_gt Element.order_self between last.isLt

theorem eq_of_ascending {left right : Packed} (lefts : left.Ascending) (rights : right.Ascending)
    (same : left.Rearranges right) : left = right := by
  cases left with
  | mk code leftElements =>
    cases right with
    | mk rightCode rightElements =>
      cases same.code_eq
      exact congrArg (Packed.mk code) (Element.eq_of_arranges (ascending_iff_arranges.mp lefts)
        (ascending_iff_arranges.mp rights) (rearranges_mk_iff.mp same))

theorem sort_eq_sortByKey (vector : Packed) :
    vector.sort = ⟨vector.code, Element.sortByKey vector.elements⟩ := by
  rw [sort]
  split
  · next byte => rw [Counting.sort_eq_sortByKey (TypeCode.integer_of_byte byte)]
  · rfl

theorem sort_ofElements_of_arranges {code : TypeCode} {elements sorted : List (Element code)}
    (arranged : Arranges Element.order sorted elements) :
    (ofElements elements).sort = ofElements sorted := by
  have same : Element.sortByKey elements.toArray = sorted.toArray :=
    Element.eq_of_arranges (Element.arranges_sortByKey elements.toArray) arranged (.refl elements)
  rw [sort_eq_sortByKey]
  exact congrArg (Packed.mk code) same

theorem sort_rearranges (vector : Packed) : vector.sort.Rearranges vector := by
  rw [sort_eq_sortByKey]
  exact rearranges_mk_iff.mpr (Element.arranges_sortByKey vector.elements).perm

theorem sort_ascending (vector : Packed) : vector.sort.Ascending := by
  have arranged := Element.arranges_sortByKey vector.elements
  rw [sort_eq_sortByKey, ascending_iff_arranges]
  exact ⟨.refl _, arranged.ordered⟩

/-- Sorting keeps the code, the size and the words, and leaves them ascending. Nothing else does:
an ascending arrangement of the words is the sorted vector, and two vectors of one code sort to the
same vector exactly if they hold the same words. -/
theorem sort_canonical (vector : Packed) :
    vector.sort.code = vector.code ∧ vector.sort.size = vector.size ∧
      vector.sort.words.Perm vector.words ∧ vector.sort.Ascending ∧
      (∀ other, other.Rearranges vector → other.Ascending → other = vector.sort) ∧
      ∀ other : Packed, other.code = vector.code →
        (other.sort = vector.sort ↔ other.words.Perm vector.words) := by
  have kept := sort_rearranges vector
  have only : ∀ other, other.Rearranges vector → other.Ascending → other = vector.sort :=
    fun other same ascending =>
      eq_of_ascending ascending (sort_ascending vector) (same.trans kept.symm)
  refine ⟨kept.code_eq, kept.size_eq, kept.words_perm, sort_ascending vector, only, ?_⟩
  intro other code
  constructor
  · intro same
    have back : other.Rearranges other.sort := (sort_rearranges other).symm
    rw [same] at back
    exact (back.trans kept).words_perm
  · intro perm
    exact only other.sort ((sort_rearranges other).trans ⟨code, perm⟩) (sort_ascending other)

def unorderedFloats : Packed :=
  ⟨.single, #[0x7fc00000, 0x00000000, 0xffc00001, 0x80000000, 0xff800000, 0x7f800001, 0x7f800000,
    0xffc00000]⟩

def orderedFloats : Packed :=
  ⟨.single, #[0xffc00001, 0xffc00000, 0xff800000, 0x80000000, 0x00000000, 0x7f800000, 0x7f800001,
    0x7fc00000]⟩

theorem sort_unorderedFloats : unorderedFloats.sort = orderedFloats := by
  have ascending : orderedFloats.Ascending := by decide
  have same : orderedFloats.Rearranges unorderedFloats := ⟨rfl, by decide⟩
  exact ((sort_canonical unorderedFloats).2.2.2.2.1 orderedFloats same ascending).symm

end Packed
end PackedNumbers
