import PackedNumbers.Proofs.History.Operation

/-!
How a projection sort judges its arguments: what it accepts, which fault it names when several are
there, and that the comparisons of an accepted sort read nothing outside of the columns.
-/
namespace PackedNumbers

structure FirstOffence {α : Type} (fine : α → Prop) (items : List α) (position : Nat) (item : α) :
    Prop where
  found : items[position]? = some item
  offends : ¬ fine item
  earlier : ∀ before < position, ∀ other, items[before]? = some other → fine other

namespace FirstOffence

variable {α : Type} {fine : α → Prop} {head item : α} {items : List α} {position : Nat}

theorem cons_iff_of_fine (passes : fine head) :
    FirstOffence fine (head :: items) position item ↔
      ∃ later, position = later + 1 ∧ FirstOffence fine items later item := by
  constructor
  · rintro ⟨found, offends, earlier⟩
    cases position with
    | zero =>
      rw [List.getElem?_cons_zero, Option.some_inj] at found
      rw [← found] at offends
      exact absurd passes offends
    | succ later =>
      refine ⟨later, rfl, found, offends, fun before within other => ?_⟩
      exact earlier (before + 1) (Nat.succ_lt_succ within) other
  · rintro ⟨later, rfl, found, offends, earlier⟩
    refine ⟨found, offends, fun before within other seen => ?_⟩
    cases before with
    | zero =>
      rw [List.getElem?_cons_zero, Option.some_inj] at seen
      rwa [← seen]
    | succ before => exact earlier before (Nat.lt_of_succ_lt_succ within) other seen

theorem cons_iff_of_offends (offends : ¬ fine head) :
    FirstOffence fine (head :: items) position item ↔ position = 0 ∧ item = head := by
  constructor
  · intro first
    cases position with
    | zero => exact ⟨rfl, (Option.some.inj first.found).symm⟩
    | succ later => exact absurd (first.earlier 0 (Nat.succ_pos later) head rfl) offends
  · rintro ⟨rfl, rfl⟩
    exact ⟨rfl, offends, fun before within => absurd within (Nat.not_lt_zero before)⟩

theorem exists_cons_of_fine (fine : α → Prop) (passes : fine head)
    {property : Nat → α → Prop} :
    (∃ place item, FirstOffence fine (head :: items) place item ∧ property place item) ↔
      ∃ place item, FirstOffence fine items place item ∧ property (place + 1) item := by
  constructor
  · rintro ⟨_, item, first, held⟩
    obtain ⟨place, rfl, later⟩ := (cons_iff_of_fine passes).mp first
    exact ⟨place, item, later, held⟩
  · rintro ⟨place, item, later, held⟩
    exact ⟨place + 1, item, (cons_iff_of_fine passes).mpr ⟨place, rfl, later⟩, held⟩

theorem exists_cons_of_offends (fine : α → Prop) (offends : ¬ fine head)
    {property : Nat → α → Prop} :
    (∃ place item, FirstOffence fine (head :: items) place item ∧ property place item) ↔
      property 0 head := by
  constructor
  · rintro ⟨_, _, first, held⟩
    obtain ⟨rfl, rfl⟩ := (cons_iff_of_offends offends).mp first
    exact held
  · intro held
    exact ⟨0, head, (cons_iff_of_offends offends).mpr ⟨rfl, rfl⟩, held⟩

theorem not_exists_nil {property : Nat → α → Prop} :
    ¬ ∃ place item, FirstOffence fine [] place item ∧ property place item := by
  rintro ⟨_, _, first, _⟩
  cases first.found

end FirstOffence

variable {rows position : Nat} {fault : Fault}

theorem bind_pure_eq_error_iff {ε α β : Type} {first : Except ε α} {next : α → β} {fault : ε} :
    (first >>= fun value => pure (next value)) = .error fault ↔ first = .error fault := by
  simp [Projection.bind_eq_error_iff, pure, Except.pure]

theorem Column.ofVectors_eq_error_iff {vectors : List Packed} :
    ofVectors rows position vectors = .error fault ↔
      ∃ place vector, FirstOffence (·.size = rows) vectors place vector ∧
        fault = .argument (.columnSize (position + place) vector.size rows) := by
  induction vectors generalizing position with
  | nil => exact iff_of_false (fun impossible => nomatch impossible) FirstOffence.not_exists_nil
  | cons vector vectors ih =>
    rw [ofVectors]
    split
    · next size_eq =>
      rw [bind_pure_eq_error_iff, ih,
        FirstOffence.exists_cons_of_fine (fun other : Packed => other.size = rows) size_eq]
      simp only [Nat.add_assoc, Nat.add_comm 1]
    · next differs =>
      rw [FirstOffence.exists_cons_of_offends (fun other : Packed => other.size = rows) differs,
        Except.error.injEq, eq_comm]
      rfl

namespace Projection

variable {projection : Packed} {vectors : List Packed}

def NamesRow (rows : Nat) (number : Int) : Prop := 0 ≤ number ∧ number < rows

theorem namesRow_iff {number : Int} : NamesRow rows number ↔ 0 ≤ number ∧ number.toNat < rows := by
  rw [NamesRow]
  omega

theorem entries_eq_error_iff {code : TypeCode} {elements : List (Element code)} :
    (entries rows position elements : Except Fault (List (Entry code rows))) = .error fault ↔
      ∃ place row, FirstOffence (NamesRow rows) (elements.map Element.toInt) place row ∧
        fault = .argument (.rowOutside row (position + place) rows) := by
  induction elements generalizing position with
  | nil => exact iff_of_false (fun impossible => nomatch impossible) FirstOffence.not_exists_nil
  | cons element elements ih =>
    rw [entries, List.map_cons]
    split
    · next inside =>
      rw [bind_pure_eq_error_iff, ih,
        FirstOffence.exists_cons_of_fine (NamesRow rows) (namesRow_iff.mpr inside)]
      simp only [Nat.add_assoc, Nat.add_comm 1]
    · next outside =>
      rw [FirstOffence.exists_cons_of_offends (NamesRow rows) (mt namesRow_iff.mp outside),
        Except.error.injEq, eq_comm]
      rfl

/-- The fault that is named of those in the arguments: no column, row numbers that are floats, the
first column of another size, the first row number that names no row. -/
inductive FirstFault (projection : Packed) (vectors : List Packed) : Fault → Prop
  | noColumns (none : vectors = []) : FirstFault projection vectors (.argument .noColumns)
  | float (some_vector : vectors ≠ []) (float : projection.code = .single) :
      FirstFault projection vectors (.kind .single .integer .float)
  | columnSize {position : Nat} {vector : Packed} (some_vector : vectors ≠ [])
      (integer : projection.code ≠ .single)
      (first : FirstOffence (·.size = projection.size) vectors position vector) :
      FirstFault projection vectors
        (.argument (.columnSize position vector.size projection.size))
  | rowOutside {position : Nat} {row : Int} (some_vector : vectors ≠ [])
      (integer : projection.code ≠ .single)
      (sizes : ∀ vector ∈ vectors, vector.size = projection.size)
      (first : FirstOffence (NamesRow projection.size) (rowNumbers projection) position row) :
      FirstFault projection vectors (.argument (.rowOutside row position projection.size))

theorem kind_eq_integer_iff {code : TypeCode} : code.kind = .integer ↔ code ≠ .single := by
  cases code <;> decide

theorem sort_of_float (some_vector : vectors ≠ []) (float : projection.code = .single) :
    sort projection vectors = .error (.kind .single .integer .float) := by
  cases vectors with
  | nil => exact absurd rfl some_vector
  | cons vector vectors =>
    cases projection with
    | mk code elements =>
      cases float
      rfl

theorem sort_eq_error_iff_of_integer (some_vector : vectors ≠ [])
    (integer : projection.code ≠ .single) :
    sort projection vectors = .error fault ↔
      Column.ofVectors projection.size 0 vectors = .error fault ∨
        (∃ columns, Column.ofVectors projection.size 0 vectors = .ok columns) ∧
          entries projection.size 0 projection.elements.toList = .error fault := by
  rw [sort_eq]
  simp only [List.isEmpty_iff, some_vector, if_false, kind_eq_integer_iff.mpr integer, reduceCtorEq,
    bind_eq_error_iff, pure, Except.pure, and_false, exists_false, or_false, exists_and_right]

theorem sort_eq_error_iff :
    sort projection vectors = .error fault ↔ FirstFault projection vectors fault := by
  by_cases none : vectors = []
  · rw [none]
    constructor
    · intro failed
      cases failed
      exact .noColumns rfl
    · intro first
      cases first with
      | noColumns => rfl
      | float some_vector | columnSize some_vector | rowOutside some_vector =>
        exact absurd rfl some_vector
  by_cases float : projection.code = .single
  · rw [sort_of_float none float]
    constructor
    · intro same
      cases same
      exact .float none float
    · intro first
      cases first with
      | noColumns empty => exact absurd empty none
      | float => rfl
      | columnSize _ integer | rowOutside _ integer => exact absurd float integer
  · rw [sort_eq_error_iff_of_integer none float, Column.ofVectors_eq_error_iff,
      Column.exists_ofVectors_iff, entries_eq_error_iff]
    simp only [Nat.zero_add]
    constructor
    · rintro (⟨place, vector, first, rfl⟩ | ⟨sizes, place, row, first, rfl⟩)
      · exact .columnSize none float first
      · exact .rowOutside none float sizes first
    · intro first
      cases first with
      | noColumns empty => exact absurd empty none
      | float _ same => exact absurd same float
      | columnSize _ _ first => exact .inl ⟨_, _, first, rfl⟩
      | rowOutside _ _ sizes first => exact .inr ⟨sizes, _, _, first, rfl⟩

theorem FirstFault.category_eq (first : FirstFault projection vectors fault) :
    fault.category = if vectors ≠ [] ∧ projection.code = .single then .type else .value := by
  cases first with
  | noColumns none =>
    rw [if_neg fun both => both.1 none]
    rfl
  | float some_vector float =>
    rw [if_pos ⟨some_vector, float⟩]
    rfl
  | columnSize _ integer | rowOutside _ integer =>
    rw [if_neg fun both => integer both.2]
    rfl

/-- The comparison of two rows with every access checked: nothing if it reads outside of a column
before the rows are told apart. -/
def compareRows? : List Packed → Int → Int → Option Ordering
  | [], _, _ => some .eq
  | vector :: vectors, left, right => do
    let leftElement ← vector.element? left
    let rightElement ← vector.element? right
    match leftElement.order rightElement with
    | .eq => compareRows? vectors left right
    | decided => some decided

def comparePositions? (projection : Packed) (vectors : List Packed) (left right : Nat) :
    Option Ordering := do
  let leftRow ← (rowNumbers projection)[left]?
  let rightRow ← (rowNumbers projection)[right]?
  compareRows? vectors leftRow rightRow

theorem compareRows?_eq_some (columns : List (Column rows)) (left right : Fin rows) :
    compareRows? (columns.map Column.vector) left.val right.val =
      some (Column.orderRows columns left right) := by
  induction columns with
  | nil => rfl
  | cons column columns ih =>
    rw [List.map_cons, compareRows?, Column.element?_eq_some_element,
      Column.element?_eq_some_element, ih]
    change (match column.order left right with
      | .eq => some (Column.orderRows columns left right)
      | decided => some decided) = some ((column.order left right).then _)
    cases column.order left right <;> rfl

theorem Accepted.compares (accepted : Accepted projection vectors) :
    ∃ columns named, Column.ofVectors projection.size 0 vectors = .ok columns ∧
      entries projection.size 0 projection.elements.toList = .ok named ∧
      named.length = projection.size ∧
      ∀ first last : Fin named.length, comparePositions? projection vectors first last =
        some (Column.orderRows columns (named.get first).row (named.get last).row) := by
  obtain ⟨columns, table⟩ := Column.ofVectors_exists 0 accepted.sizes
  obtain ⟨named, read⟩ := entries_exists 0 accepted.inside
  have size := congrArg List.length (map_element_entries read)
  rw [List.length_map] at size
  have numbers := rowNumbers_entries (toInt_eq_row_of_mem_entries read)
  rw [ofElements_map_entries read, List.map_map] at numbers
  have number_at (position : Fin named.length) :
      (rowNumbers projection)[position.val]? = some ((named.get position).row.val : Int) := by
    rw [numbers, List.getElem?_map, List.getElem?_eq_getElem position.isLt]
    rfl
  refine ⟨columns, named, table, read, size, fun first last => ?_⟩
  rw [comparePositions?, number_at first, number_at last, ← Column.map_vector_ofVectors table]
  exact compareRows?_eq_some columns (named.get first).row (named.get last).row

/-- A sort by rows succeeds exactly for the arguments it accepts, and refuses all others with the
fault that comes first: there is no column, the row numbers are floats, a column has another size, a
number names no row; of the columns and of the numbers it names the first. The columns are only
read, and a refused sort leaves the row numbers as they were. The comparison that an accepted sort
goes by reads inside of the row numbers and the columns, whichever positions it is asked about. -/
theorem sort_decides_arguments (projection : Packed) (vectors : List Packed) :
    ((∃ sorted, sort projection vectors = .ok sorted) ↔ Accepted projection vectors) ∧
      (∀ fault, sort projection vectors = .error fault ↔ FirstFault projection vectors fault) ∧
      (∀ fault, FirstFault projection vectors fault →
        projection.perform (.sortRows vectors) = (.refused fault, projection) ∧
          fault.category = if vectors ≠ [] ∧ projection.code = .single then .type else .value) ∧
      (Accepted projection vectors →
        ∃ columns named, Column.ofVectors projection.size 0 vectors = .ok columns ∧
          entries projection.size 0 projection.elements.toList = .ok named ∧
          named.length = projection.size ∧
          ∀ first last : Fin named.length, comparePositions? projection vectors first last =
            some (Column.orderRows columns (named.get first).row (named.get last).row)) := by
  refine ⟨exists_sort_eq_ok_iff, fun fault => sort_eq_error_iff, fun fault first => ⟨?_, ?_⟩,
    Accepted.compares⟩
  · rw [Packed.perform, call_sortInPlace, sort_eq_error_iff.mpr first]
    rfl
  · exact first.category_eq

def strayRows : Packed := ⟨.int16, #[1, 3, 0xffff]⟩

def fullColumn : Packed := ⟨.uint8, #[9, 9, 4]⟩

def shortColumn : Packed := ⟨.single, #[0x7fc00000]⟩

theorem sort_decides_strayRows :
    strayRows.perform (.sortRows [fullColumn, shortColumn, shortColumn]) =
        (.refused (.argument (.columnSize 1 1 3)), strayRows) ∧
      strayRows.perform (.sortRows [fullColumn]) =
        (.refused (.argument (.rowOutside 3 1 3)), strayRows) ∧
      ∀ first < repeatedRows.size, ∀ last < repeatedRows.size, ∃ ordering,
        comparePositions? repeatedRows pairs first last = some ordering := by
  obtain ⟨_, columnFaults, columnRefusals, _⟩ :=
    sort_decides_arguments strayRows [fullColumn, shortColumn, shortColumn]
  obtain ⟨_, rowFaults, rowRefusals, _⟩ := sort_decides_arguments strayRows [fullColumn]
  obtain ⟨acceptance, _, _, comparisons⟩ := sort_decides_arguments repeatedRows pairs
  have accepted : Accepted repeatedRows pairs :=
    acceptance.mp ⟨⟨.int32, #[1, 3, 3, 0]⟩, by cbv⟩
  obtain ⟨_, _, _, _, size, compares⟩ := comparisons accepted
  refine ⟨(columnRefusals _ ((columnFaults _).mp ?_)).1, (rowRefusals _ ((rowFaults _).mp ?_)).1,
    ?_⟩
  · cbv
  · cbv
  · intro first firstInside last lastInside
    rw [← size] at firstInside lastInside
    exact ⟨_, compares ⟨first, firstInside⟩ ⟨last, lastInside⟩⟩

end Projection
end PackedNumbers
