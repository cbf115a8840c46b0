import PackedNumbers.Proofs.Projection.Visits

/-!
The comparison of rows keeps the promises that a sort relies on, whatever words are in the columns.
-/
namespace PackedNumbers

/-- A comparison that a sort may go by: an item is level with itself, turning a pair round turns the
answer round, and what is not above a second item is not above a third that the second is not
above. -/
structure Consistent {α : Type} (order : α → α → Ordering) : Prop where
  self_eq : ∀ item, order item item = .eq
  swap_eq : ∀ left right, order right left = (order left right).swap
  trans : ∀ first second third, order first second ≠ .gt → order second third ≠ .gt →
    order first third ≠ .gt

theorem Consistent.of_transCmp {α : Type} {order : α → α → Ordering}
    (transCmp : Std.TransCmp order) : Consistent order where
  self_eq := fun _ => Std.ReflCmp.compare_self
  swap_eq := fun _ _ => Std.OrientedCmp.eq_swap
  trans := by
    intro first second third below above
    rw [ne_eq, Ordering.ne_gt_iff_isLE] at below above ⊢
    exact Std.TransCmp.isLE_trans below above

namespace Column

variable {rows : Nat} {columns : List (Column rows)} {left right : Fin rows}

theorem orderRows_eq_iff_tuple_eq :
    orderRows columns left right = .eq ↔ tuple columns left = tuple columns right := by
  rw [orderRows_eq_compareTuples, Projection.compareTuples, Std.LawfulEqOrd.compare_eq_iff_eq]
  constructor
  · intro keys
    apply Cell.eq_of_keys_eq _ keys
    rw [tuple, tuple, List.map_map, List.map_map]
    rfl
  · exact congrArg (List.map Cell.key)

theorem cell_eq_iff {column : Column rows} :
    column.cell left = column.cell right ↔
      column.vector.elements[left.val]? = column.vector.elements[right.val]? := by
  rw [cell, cell, Cell.mk.injEq, heq_eq_eq, eq_self, true_and,
    Array.getElem?_eq_getElem (column.row_lt left),
    Array.getElem?_eq_getElem (column.row_lt right), Option.some_inj]

theorem tuple_eq_iff {position : Nat} {vectors : List Packed}
    (made : ofVectors rows position vectors = .ok columns) :
    tuple columns left = tuple columns right ↔
      ∀ vector ∈ vectors, vector.elements[left.val]? = vector.elements[right.val]? := by
  rw [← map_vector_ofVectors made, tuple, tuple, List.map_inj_left, List.forall_mem_map]
  simp only [cell_eq_iff]

/-- Vectors with an element for each row compare rows consistently, and find two rows level exactly
if every vector holds the same bits for both. So the comparison of positions that a projection sort
goes by is consistent too, also where rows are named several times or hold NaNs. -/
theorem orderRows_consistent (vectors : List Packed)
    (sizes : ∀ vector ∈ vectors, vector.size = rows) :
    ∃ columns, ofVectors rows 0 vectors = .ok columns ∧
      Consistent (orderRows columns) ∧
      (∀ left right : Fin rows, orderRows columns left right = .eq ↔
        ∀ vector ∈ vectors, vector.elements[left.val]? = vector.elements[right.val]?) ∧
      ∀ (code : TypeCode) (named : List (Projection.Entry code rows)),
        Consistent fun left right : Fin named.length =>
          orderRows columns (named.get left).row (named.get right).row := by
  obtain ⟨columns, made⟩ := ofVectors_exists 0 sizes
  refine ⟨columns, made, .of_transCmp (transCmp_orderRows columns id), fun left right => ?_,
    fun code named => .of_transCmp (transCmp_orderRows columns fun place => (named.get place).row)⟩
  rw [orderRows_eq_iff_tuple_eq, tuple_eq_iff made]

theorem orderRows_consistent_pairs :
    (∀ vector ∈ Projection.pairs, vector.size = 4) ∧
      ∃ columns : List (Column 4), ofVectors 4 0 Projection.pairs = .ok columns ∧
        orderRows columns 2 2 = .eq ∧ orderRows columns 1 3 = .eq ∧
        orderRows columns 0 1 = (orderRows columns 1 0).swap ∧ orderRows columns 1 0 ≠ .eq := by
  have sizes : ∀ vector ∈ Projection.pairs, vector.size = 4 := by decide
  obtain ⟨columns, made, consistent, level, _⟩ := orderRows_consistent Projection.pairs sizes
  refine ⟨sizes, columns, made, consistent.self_eq 2, (level 1 3).mpr (by decide),
    consistent.swap_eq 1 0, fun same => ?_⟩
  exact absurd ((level 1 0).mp same) (by decide)

end Column
end PackedNumbers
