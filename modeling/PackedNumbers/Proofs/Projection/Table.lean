import PackedNumbers.Projection
import PackedNumbers.Proofs.Element.Key

/-!
Vectors as the columns of a table: its cells, the tuple in each row, and the tuples that a list of
row numbers visits. Rows are compared as the lists of their cells' keys.
-/
namespace PackedNumbers

structure Cell where
  code : TypeCode
  element : Element code
  deriving DecidableEq, Repr

def Cell.key (cell : Cell) : Int := cell.element.key

theorem Cell.ext_key {left right : Cell} (sameCode : left.code = right.code)
    (sameKey : left.key = right.key) : left = right := by
  cases left with
  | mk leftCode leftElement =>
    cases right with
    | mk rightCode rightElement =>
      cases sameCode
      exact congrArg (Cell.mk leftCode) (Element.key_injective sameKey)

theorem Cell.eq_of_keys_eq {left right : List Cell} (codes : left.map code = right.map code)
    (keys : left.map key = right.map key) : left = right := by
  induction left generalizing right with
  | nil => exact (List.map_eq_nil_iff.mp codes.symm).symm
  | cons first left ih =>
    cases right with
    | nil => cases codes
    | cons second right =>
      obtain ⟨sameCode, otherCodes⟩ := List.cons.inj codes
      obtain ⟨sameKey, otherKeys⟩ := List.cons.inj keys
      rw [ext_key sameCode sameKey, ih otherCodes otherKeys]

def Packed.element? (vector : Packed) (row : Int) : Option (Element vector.code) :=
  if row < 0 then none else vector.elements[row.toNat]?

namespace Projection

def rowNumbers (projection : Packed) : List Int := projection.elements.toList.map Element.toInt

def compareTuples (left right : List Cell) : Ordering :=
  compare (left.map Cell.key) (right.map Cell.key)

theorem mapM_eq_some_iff {α β : Type} {items : List α} {partly : α → Option β}
    {results : List β} :
    items.mapM partly = some results ↔ items.map partly = results.map some := by
  induction items generalizing results with
  | nil => cases results <;> simp
  | cons item items ih =>
    rw [List.mapM_cons, List.map_cons]
    simp only [Option.bind_eq_bind, Option.bind_eq_some_iff, ih, Option.pure_def, Option.some_inj]
    constructor
    · rintro ⟨first, found, rest, others, rfl⟩
      rw [found, others, List.map_cons]
    · intro same
      cases results with
      | nil => cases same
      | cons result results =>
        obtain ⟨found, others⟩ := List.cons.inj same
        exact ⟨result, found, results, others, rfl⟩

end Projection

namespace Column

variable {rows : Nat}

def cell (column : Column rows) (row : Fin rows) : Cell :=
  have inside := column.row_lt row
  ⟨column.vector.code, column.vector.elements[row.val]⟩

def element (column : Column rows) (row : Fin rows) : Element column.vector.code :=
  have inside := column.row_lt row
  column.vector.elements[row.val]

theorem element?_eq_some_element (column : Column rows) (row : Fin rows) :
    column.vector.element? row.val = some (column.element row) := by
  have forward : ¬ (row.val : Int) < 0 := Int.not_lt.mpr (Int.natCast_nonneg row.val)
  rw [Packed.element?, if_neg forward, Int.toNat_natCast]
  exact Array.getElem?_eq_getElem (column.row_lt row)

def tuple (columns : List (Column rows)) (row : Fin rows) : List Cell :=
  columns.map (·.cell row)

theorem order_eq_compare (column : Column rows) (left right : Fin rows) :
    column.order left right = compare (column.cell left).key (column.cell right).key :=
  rfl

theorem orderRows_eq_compareTuples (columns : List (Column rows)) (left right : Fin rows) :
    orderRows columns left right =
      Projection.compareTuples (tuple columns left) (tuple columns right) := by
  induction columns with
  | nil => rfl
  | cons column columns ih =>
    rw [orderRows, order_eq_compare, ih]
    exact List.compare_cons_cons.symm

theorem map_vector_ofVectors {position : Nat} {vectors : List Packed}
    {columns : List (Column rows)} (made : ofVectors rows position vectors = .ok columns) :
    columns.map Column.vector = vectors := by
  induction vectors generalizing position columns with
  | nil =>
    cases made
    rfl
  | cons vector vectors ih =>
    rw [ofVectors] at made
    split at made
    · cases later : ofVectors rows (position + 1) vectors with
      | error fault =>
        rw [later] at made
        cases made
      | ok rest =>
        rw [later] at made
        cases made
        rw [List.map_cons, ih later]
    · cases made

theorem ofVectors_exists {vectors : List Packed} (position : Nat)
    (sizes : ∀ vector ∈ vectors, vector.size = rows) :
    ∃ columns, ofVectors rows position vectors = .ok columns := by
  induction vectors generalizing position with
  | nil => exact ⟨[], rfl⟩
  | cons vector vectors ih =>
    obtain ⟨rest, later⟩ := ih (position + 1) fun other member =>
      sizes other (List.mem_cons_of_mem vector member)
    have size : vector.elements.size = rows := sizes vector List.mem_cons_self
    rw [ofVectors, dif_pos size, later]
    exact ⟨_, rfl⟩

theorem exists_ofVectors_iff {position : Nat} {vectors : List Packed} :
    (∃ columns, ofVectors rows position vectors = .ok columns) ↔
      ∀ vector ∈ vectors, vector.size = rows := by
  constructor
  · rintro ⟨columns, made⟩ vector member
    rw [← map_vector_ofVectors made] at member
    obtain ⟨column, _, rfl⟩ := List.mem_map.mp member
    exact column.size_eq
  · exact ofVectors_exists position

end Column
end PackedNumbers
