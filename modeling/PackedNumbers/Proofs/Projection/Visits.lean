import Mathlib
import PackedNumbers.Proofs.Order.Arrangement
import PackedNumbers.Proofs.Projection.Arguments

/-!
Sorted row numbers visit the rows of a table in ascending order. Nothing here depends on how rows
with equal tuples are placed, so the tuples visited are the same after every such sort.
-/
namespace PackedNumbers

theorem Column.transCmp_orderRows {α : Type} {rows : Nat} (columns : List (Column rows))
    (row : α → Fin rows) :
    Std.TransCmp fun left right => orderRows columns (row left) (row right) := by
  have same : (fun left right => orderRows columns (row left) (row right)) =
      compareOn fun item => (tuple columns (row item)).map Cell.key := by
    funext left right
    exact orderRows_eq_compareTuples columns (row left) (row right)
  rw [same]
  infer_instance

namespace Projection

variable {projection result : Packed} {vectors : List Packed}

/-- A vector that sorting may leave when nothing is known of the places of rows with equal tuples:
positions are arranged by the rows that their elements name, then elements are moved by position. -/
inductive UnstableResult (projection : Packed) (vectors : List Packed) : Packed → Prop
  | intro {columns : List (Column projection.size)}
      {named : List (Entry projection.code projection.size)} {positions : List (Fin named.length)}
      (some_vector : vectors ≠ []) (integer : projection.code.kind = .integer)
      (table : Column.ofVectors projection.size 0 vectors = .ok columns)
      (read : entries projection.size 0 projection.elements.toList = .ok named)
      (arranged : Arranges
        (fun left right => Column.orderRows columns (named.get left).row (named.get right).row)
        positions (List.finRange named.length)) :
      UnstableResult projection vectors
        (.ofElements (positions.map fun position => (named.get position).element))

theorem unstableResult_of_sort (succeeds : sort projection vectors = .ok result) :
    UnstableResult projection vectors result := by
  obtain ⟨someVector, integer, columns, named, table, read, rfl⟩ := sort_eq_ok_iff.mp succeeds
  let row (position : Fin named.length) : Fin projection.size := (named.get position).row
  let fine : Fin named.length → Fin named.length → Ordering :=
    compareLex (fun left right => Column.orderRows columns (row left) (row right)) (compareOn row)
  have trans := Column.transCmp_orderRows columns row
  have arranged : Arranges (fun left right => Column.orderRows columns (row left) (row right))
      ((List.finRange named.length).mergeSort fun left right => (fine left right).isLE)
      (List.finRange named.length) := by
    apply Arranges.mergeSort
    intro left right below
    exact Ordering.ne_gt_iff_isLE.mpr (Ordering.isLE_left_of_isLE_then below)
  have agrees : ∀ left ∈ List.finRange named.length, ∀ right ∈ List.finRange named.length,
      (fine left right).isLE = precedes columns (named.get left) (named.get right) := by
    intro left _ right _
    rfl
  -- Sorting entries moves them as sorting their positions does.
  have moved := List.map_mergeSort agrees
  rw [List.map_get_finRange] at moved
  rw [← moved, List.map_map]
  exact .intro someVector integer table read arranged

theorem ofElements_map_entries {named : List (Entry projection.code projection.size)}
    (read : entries projection.size 0 projection.elements.toList = .ok named) :
    Packed.ofElements (named.map (·.element)) = projection := by
  rw [map_element_entries read]
  rfl

theorem UnstableResult.rearranges (outcome : UnstableResult projection vectors result) :
    result.Rearranges projection := by
  cases outcome with
  | @intro columns named positions _ _ _ read arranged =>
    have moved : (positions.map named.get).Perm named := by
      have images := arranged.perm.map named.get
      rwa [List.map_get_finRange] at images
    have elements := moved.map fun entry => entry.element
    rw [map_element_entries read, List.map_map] at elements
    exact Packed.rearranges_mk_iff.mpr elements

def repeatedRows : Packed := ⟨.int32, #[3, 0, 3, 1]⟩

def pairs : List Packed :=
  [⟨.uint8, #[7, 7, 2, 7]⟩, ⟨.single, #[0x00000000, 0x80000000, 0x7fc00000, 0x80000000]⟩]

end Projection
end PackedNumbers
