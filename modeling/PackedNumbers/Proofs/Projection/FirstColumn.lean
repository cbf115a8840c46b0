import PackedNumbers.Proofs.Order.Canonical
import PackedNumbers.Proofs.Projection.Visits

/-!
A projection sort seen through its first column: the elements that the sorted row numbers visit
there are those of a sort of the elements visited before, whatever the other columns hold.
-/
namespace PackedNumbers

namespace Column

variable {rows : Nat}

theorem order_ne_gt_of_orderRows {column : Column rows} {columns : List (Column rows)}
    {left right : Fin rows} (below : orderRows (column :: columns) left right ≠ .gt) :
    (column.element left).order (column.element right) ≠ .gt := by
  exact Ordering.ne_gt_iff_isLE.mpr
    (Ordering.isLE_left_of_isLE_then (Ordering.ne_gt_iff_isLE.mp below))

end Column

namespace Projection

variable {projection first result : Packed} {others : List Packed}

def gather? (vector projection : Packed) : Option Packed :=
  ((rowNumbers projection).mapM vector.element?).map .ofElements

theorem gather?_rows {rows : Nat} (column : Column rows) {named : List (Fin rows)}
    (numbers : rowNumbers projection = named.map fun row => (row.val : Int)) :
    gather? column.vector projection = some (.ofElements (named.map column.element)) := by
  have found : (rowNumbers projection).mapM column.vector.element? =
      some (named.map column.element) := by
    rw [mapM_eq_some_iff, numbers, List.map_map, List.map_map]
    apply List.map_congr_left
    intro row _
    exact column.element?_eq_some_element row
  rw [gather?, found, Option.map_some]

theorem gather?_of_identity {vector : Packed}
    (identity : rowNumbers projection = (List.range vector.size).map Int.ofNat) :
    gather? vector projection = some vector := by
  let column : Column vector.size := ⟨vector, rfl⟩
  have numbers : rowNumbers projection =
      (List.finRange vector.size).map fun row => (row.val : Int) := by
    rw [identity, ← List.map_coe_finRange_eq_range, List.map_map]
    rfl
  have whole : (List.finRange vector.size).map column.element = vector.elements.toList := by
    apply List.ext_getElem
    · simp [Packed.size]
    · intro row _ _
      simp [Column.element, column]
  rw [gather?_rows column numbers, whole, Packed.ofElements]

theorem UnstableResult.first_column (outcome : UnstableResult projection (first :: others) result) :
    ∃ seen, gather? first projection = some seen ∧
      gather? first result = some seen.sort := by
  cases outcome with
  | @intro columns named positions _ _ table read arranged =>
    obtain ⟨column, rest, rfl, rfl, _⟩ :=
      List.map_eq_cons_iff.mp (Column.map_vector_ofVectors table)
    let moved := positions.map named.get
    have same := toInt_eq_row_of_mem_entries read
    have movedSame : ∀ entry ∈ moved, entry.element.toInt = entry.row.val := by
      intro entry member
      obtain ⟨position, _, rfl⟩ := List.mem_map.mp member
      exact same _ (List.get_mem named position)
    have before := gather?_rows column (rowNumbers_entries same)
    have after := gather?_rows column (rowNumbers_entries movedSame)
    rw [ofElements_map_entries read] at before
    rw [List.map_map] at after
    -- Of tuples that ascend the first cells ascend, so the cells are arranged with their rows.
    have images : Arranges Element.order
        (positions.map fun position => column.element (named.get position).row)
        ((List.finRange named.length).map fun position =>
          column.element (named.get position).row) :=
      (arranged.imp fun left right => Column.order_ne_gt_of_orderRows).map fun left right => rfl
    have inputs : (List.finRange named.length).map (fun position =>
        column.element (named.get position).row) = (named.map (·.row)).map column.element := by
      conv_rhs => rw [← List.map_get_finRange named]
      rw [List.map_map, List.map_map]
      rfl
    have outputs : positions.map (fun position => column.element (named.get position).row) =
        (moved.map (·.row)).map column.element := by
      rw [List.map_map, List.map_map]
      rfl
    rw [inputs, outputs] at images
    exact ⟨_, before, after.trans (congrArg some (Packed.sort_ofElements_of_arranges images).symm)⟩

/-- What sorted row numbers visit in the first column is, word for word, what a sort of the elements
visited before gives, however rows with equal tuples are placed. The identity visits the first
column itself, so it then visits the sorted column. -/
theorem sort_visits_first_column (succeeds : sort projection (first :: others) = .ok result) :
    UnstableResult projection (first :: others) result ∧
      ∃ seen, gather? first projection = some seen ∧
        (∀ left, UnstableResult projection (first :: others) left →
          gather? first left = some seen.sort) ∧
        (rowNumbers projection = (List.range first.size).map Int.ofNat → seen = first) := by
  have outcome := unstableResult_of_sort succeeds
  obtain ⟨seen, before, _⟩ := outcome.first_column
  refine ⟨outcome, seen, before, fun left another => ?_, fun identity => ?_⟩
  · obtain ⟨_, again, after⟩ := another.first_column
    rw [before] at again
    cases again
    exact after
  · rw [gather?_of_identity identity] at before
    exact (Option.some.inj before).symm

def signedFloats : Packed := ⟨.single, #[0x7fc00000, 0x80000000, 0x00000000, 0xffc00001]⟩

theorem sort_visits_signedFloats :
    ∃ seen, gather? signedFloats ⟨.uint8, #[2, 1, 3, 1]⟩ = some seen ∧
      gather? signedFloats ⟨.uint8, #[3, 1, 1, 2]⟩ = some seen.sort := by
  have succeeds : sort ⟨.uint8, #[2, 1, 3, 1]⟩ [signedFloats, ⟨.int8, #[0, 1, 2, 3]⟩] =
      .ok ⟨.uint8, #[3, 1, 1, 2]⟩ := by cbv
  obtain ⟨outcome, seen, before, after, _⟩ := sort_visits_first_column succeeds
  exact ⟨seen, before, after _ outcome⟩

end Projection
end PackedNumbers
