import PackedNumbers.Packed

/-!
A vector of row numbers, sorted by the rows that they name in a table of columns.
-/
namespace PackedNumbers

structure Column (rows : Nat) where
  vector : Packed
  size_eq : vector.elements.size = rows

namespace Column

variable {rows : Nat}

theorem row_lt (column : Column rows) (row : Fin rows) :
    row.val < column.vector.elements.size := by
  rw [column.size_eq]
  exact row.isLt

def order (column : Column rows) (left right : Fin rows) : Ordering :=
  have left_inside := column.row_lt left
  have right_inside := column.row_lt right
  Element.order column.vector.elements[left.val] column.vector.elements[right.val]

def orderRows : List (Column rows) → Fin rows → Fin rows → Ordering
  | [], _, _ => .eq
  | column :: columns, left, right =>
    (column.order left right).then (orderRows columns left right)

def ofVectors (rows position : Nat) : List Packed → Except Fault (List (Column rows))
  | [] => .ok []
  | vector :: vectors =>
    if size_eq : vector.elements.size = rows then do
      let columns ← ofVectors rows (position + 1) vectors
      return ⟨vector, size_eq⟩ :: columns
    else .error (.argument (.columnSize position vector.size rows))

end Column

namespace Projection

variable {code : TypeCode} {rows : Nat}

structure Entry (code : TypeCode) (rows : Nat) where
  element : Element code
  row : Fin rows

def entries (rows position : Nat) : List (Element code) → Except Fault (List (Entry code rows))
  | [] => .ok []
  | element :: elements =>
    let number := element.toInt
    if inside : 0 ≤ number ∧ number.toNat < rows then do
      let rest ← entries rows (position + 1) elements
      return ⟨element, ⟨number.toNat, inside.2⟩⟩ :: rest
    else .error (.argument (.rowOutside number position rows))

def precedes (columns : List (Column rows)) (left right : Entry code rows) : Bool :=
  ((Column.orderRows columns left.row right.row).then (compare left.row right.row)).isLE

/-- Sorts row numbers by the rows that they name. Arguments are judged in order: some column, an
integer code, column sizes, row numbers. All of them are judged before the only write. -/
def sortInPlace (vectors : List Packed) : Packed.Update Unit := do
  let projection ← getThe Packed
  if vectors.isEmpty then throw (.argument .noColumns)
  else if projection.code.kind = .float then throw (.kind projection.code .integer .float)
  else
    let columns ← Column.ofVectors projection.size 0 vectors
    let entries ← entries projection.size 0 projection.elements.toList
    set (Packed.ofElements ((entries.mergeSort (precedes columns)).map (·.element)))

def sort (projection : Packed) (vectors : List Packed) : Except Fault Packed :=
  projection.changed (sortInPlace vectors)

end Projection
end PackedNumbers
