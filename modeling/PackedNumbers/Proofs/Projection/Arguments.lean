import PackedNumbers.Proofs.Projection.Table
import PackedNumbers.Proofs.Words

/-!
What the arguments of a projection sort are read as, and when they are accepted.
-/
namespace PackedNumbers.Projection

variable {code : TypeCode} {rows : Nat}

theorem entries_cons_eq_ok {position : Nat} {element : Element code}
    {elements : List (Element code)} {named : List (Entry code rows)}
    (made : entries rows position (element :: elements) = .ok named) :
    ∃ (inside : 0 ≤ element.toInt ∧ element.toInt.toNat < rows) (rest : List (Entry code rows)),
      entries rows (position + 1) elements = .ok rest ∧
        named = ⟨element, ⟨element.toInt.toNat, inside.2⟩⟩ :: rest := by
  rw [entries] at made
  split at made
  · next inside =>
    cases later : entries rows (position + 1) elements with
    | error fault =>
      rw [later] at made
      cases made
    | ok rest =>
      rw [later] at made
      cases made
      exact ⟨inside, rest, rfl, rfl⟩
  · cases made

theorem map_element_entries {position : Nat} {elements : List (Element code)}
    {named : List (Entry code rows)} (made : entries rows position elements = .ok named) :
    named.map (·.element) = elements := by
  induction elements generalizing position named with
  | nil =>
    cases made
    rfl
  | cons element elements ih =>
    obtain ⟨_, rest, later, rfl⟩ := entries_cons_eq_ok made
    rw [List.map_cons, ih later]

theorem toInt_eq_row_of_mem_entries {position : Nat} {elements : List (Element code)}
    {named : List (Entry code rows)} (made : entries rows position elements = .ok named) :
    ∀ entry ∈ named, entry.element.toInt = entry.row.val := by
  induction elements generalizing position named with
  | nil =>
    cases made
    intro entry member
    cases member
  | cons element elements ih =>
    obtain ⟨inside, rest, later, rfl⟩ := entries_cons_eq_ok made
    intro entry member
    rcases List.mem_cons.mp member with rfl | tail
    · exact (Int.toNat_of_nonneg inside.1).symm
    · exact ih later entry tail

theorem rowNumbers_entries {named : List (Entry code rows)}
    (same : ∀ entry ∈ named, entry.element.toInt = entry.row.val) :
    rowNumbers (.ofElements (named.map (·.element))) =
      (named.map (·.row)).map fun row => (row.val : Int) := by
  change (named.map (·.element)).map Element.toInt = _
  rw [List.map_map, List.map_map]
  exact List.map_congr_left same

theorem inside_of_entries {position : Nat} {elements : List (Element code)}
    {named : List (Entry code rows)} (made : entries rows position elements = .ok named) :
    ∀ element ∈ elements, 0 ≤ element.toInt ∧ element.toInt.toNat < rows := by
  intro element member
  rw [← map_element_entries made] at member
  obtain ⟨entry, inNamed, rfl⟩ := List.mem_map.mp member
  rw [toInt_eq_row_of_mem_entries made entry inNamed]
  exact ⟨Int.natCast_nonneg _, entry.row.isLt⟩

theorem entries_exists {elements : List (Element code)} (position : Nat)
    (inside : ∀ element ∈ elements, 0 ≤ element.toInt ∧ element.toInt.toNat < rows) :
    ∃ named, entries rows position elements = .ok named := by
  induction elements generalizing position with
  | nil => exact ⟨[], rfl⟩
  | cons element elements ih =>
    obtain ⟨rest, later⟩ := ih (position + 1) fun other member =>
      inside other (List.mem_cons_of_mem element member)
    rw [entries, dif_pos (inside element List.mem_cons_self), later]
    exact ⟨_, rfl⟩

theorem bind_eq_ok_iff {ε α β : Type} {first : Except ε α} {next : α → Except ε β} {result : β} :
    (first >>= next) = .ok result ↔ ∃ value, first = .ok value ∧ next value = .ok result := by
  cases first with
  | error fault => simp [bind, Except.bind]
  | ok value => simp [bind, Except.bind]

theorem bind_eq_error_iff {ε α β : Type} {first : Except ε α} {next : α → Except ε β} {fault : ε} :
    (first >>= next) = .error fault ↔
      first = .error fault ∨ ∃ value, first = .ok value ∧ next value = .error fault := by
  cases first with
  | error other => simp [bind, Except.bind]
  | ok value => simp [bind, Except.bind]

theorem sort_eq (projection : Packed) (vectors : List Packed) :
    sort projection vectors =
      if vectors.isEmpty then .error (.argument .noColumns)
      else if projection.code.kind = .float then .error (.kind projection.code .integer .float)
      else do
        let columns ← Column.ofVectors projection.size 0 vectors
        let named ← entries projection.size 0 projection.elements.toList
        return .ofElements ((named.mergeSort (precedes columns)).map (·.element)) := by
  rw [sort, sortInPlace, Packed.changed_read, apply_ite projection.changed,
    apply_ite projection.changed]
  simp only [Packed.changed_judge]
  rfl

theorem sort_eq_ok_iff {projection sorted : Packed} {vectors : List Packed} :
    sort projection vectors = .ok sorted ↔
      vectors ≠ [] ∧ projection.code.kind = .integer ∧
        ∃ columns named, Column.ofVectors projection.size 0 vectors = .ok columns ∧
          entries projection.size 0 projection.elements.toList = .ok named ∧
          sorted = .ofElements ((named.mergeSort (precedes columns)).map (·.element)) := by
  rw [sort_eq]
  cases vectors with
  | nil =>
    constructor
    · intro impossible
      cases impossible
    · intro accepted
      exact absurd rfl accepted.1
  | cons vector vectors =>
    cases kind : projection.code.kind with
    | float =>
      constructor
      · intro impossible
        cases impossible
      · intro accepted
        cases accepted.2.1
    | integer =>
      simp only [List.isEmpty_cons, Bool.false_eq_true, if_false, reduceCtorEq, ne_eq,
        not_false_eq_true, true_and, bind_eq_ok_iff, exists_and_left, pure, Except.pure,
        Except.ok.injEq, @eq_comm _ _ sorted]

/-- The arguments that a sort accepts: some vector, all of one size with the row numbers, and row
numbers that are rows. -/
structure Accepted (projection : Packed) (vectors : List Packed) : Prop where
  some_vector : vectors ≠ []
  integer : projection.code.kind = .integer
  sizes : ∀ vector ∈ vectors, vector.size = projection.size
  inside : ∀ element ∈ projection.elements.toList,
    0 ≤ element.toInt ∧ element.toInt.toNat < projection.size

theorem exists_sort_eq_ok_iff {projection : Packed} {vectors : List Packed} :
    (∃ sorted, sort projection vectors = .ok sorted) ↔ Accepted projection vectors := by
  constructor
  · rintro ⟨sorted, succeeds⟩
    obtain ⟨someVector, integer, columns, named, table, read, _⟩ := sort_eq_ok_iff.mp succeeds
    exact ⟨someVector, integer, Column.exists_ofVectors_iff.mp ⟨columns, table⟩,
      inside_of_entries read⟩
  · rintro ⟨someVector, integer, sizes, inside⟩
    obtain ⟨columns, table⟩ := Column.ofVectors_exists 0 sizes
    obtain ⟨named, read⟩ := entries_exists 0 inside
    exact ⟨_, sort_eq_ok_iff.mpr ⟨someVector, integer, columns, named, table, read, rfl⟩⟩

end PackedNumbers.Projection
