/-!
What a sort that promises no stability may leave: the same items, none of them above a later one.
-/
namespace PackedNumbers

variable {α β : Type}

/-- The output holds the items of the input, and none is above one that comes later. -/
structure Arranges (order : α → α → Ordering) (output input : List α) : Prop where
  perm : output.Perm input
  ordered : output.Pairwise fun left right => order left right ≠ .gt

namespace Arranges

variable {order : α → α → Ordering}

theorem unique {first second firstInput secondInput : List α}
    (level : ∀ left ∈ first, ∀ right ∈ second,
      order left right ≠ .gt → order right left ≠ .gt → left = right)
    (one : Arranges order first firstInput) (two : Arranges order second secondInput)
    (same : firstInput.Perm secondInput) : first = second := by
  have perm : first.Perm second := one.perm.trans (same.trans two.perm.symm)
  exact perm.eq_of_pairwise (fun left right inFirst inSecond => level left inFirst right inSecond)
    one.ordered two.ordered

theorem map {other : β → β → Ordering} {image : α → β} {output input : List α}
    (agrees : ∀ left right, other (image left) (image right) = order left right)
    (arranged : Arranges order output input) :
    Arranges other (output.map image) (input.map image) where
  perm := arranged.perm.map image
  ordered := by
    rw [List.pairwise_map]
    exact arranged.ordered.imp fun {left right} below => by rwa [agrees left right]

theorem imp {coarse : α → α → Ordering} {output input : List α}
    (follows : ∀ left right, order left right ≠ .gt → coarse left right ≠ .gt)
    (arranged : Arranges order output input) : Arranges coarse output input where
  perm := arranged.perm
  ordered := arranged.ordered.imp fun {left right} => follows left right

theorem mergeSort {fine : α → α → Ordering} [Std.TransCmp fine] (input : List α)
    (finer : ∀ left right, (fine left right).isLE → order left right ≠ .gt) :
    Arranges order (input.mergeSort fun left right => (fine left right).isLE) input where
  perm := List.mergeSort_perm input _
  ordered := by
    have trans : ∀ first second third, (fine first second).isLE → (fine second third).isLE →
        (fine first third).isLE :=
      fun first second third => Std.TransCmp.isLE_trans
    have total : ∀ first second, ((fine first second).isLE || (fine second first).isLE) := by
      intro first second
      rw [@Std.OrientedCmp.eq_swap _ fine _ second first]
      cases fine first second <;> rfl
    have sorted := List.pairwise_mergeSort trans total input
    exact sorted.imp fun {left right} => finer left right

theorem getElem_ne_gt {output input : List α} (arranged : Arranges order output input)
    (self : ∀ item, order item item ≠ .gt) {first last : Nat} (between : first ≤ last)
    (inside : last < output.length) :
    have : first < output.length := Nat.lt_of_le_of_lt between inside
    order output[first] output[last] ≠ .gt := by
  intro _
  rcases Nat.lt_or_eq_of_le between with before | same
  · exact List.pairwise_iff_getElem.mp arranged.ordered first last _ inside before
  · subst same
    exact self output[first]

end Arranges
end PackedNumbers
