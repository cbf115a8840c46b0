import PackedNumbers.Proofs.Order.Floats

/-!
The runs that counting writes: each lies within the cells and starts where the last one ended, and
together they take every cell once. What they leave is what any sort by comparison leaves.
-/
namespace PackedNumbers.Counting

variable {code : TypeCode}

def filled (elements : Array (Element code)) (place : Nat) : Filling code :=
  fill (tally elements) ⟨elements, 0⟩ place

def start (elements : Array (Element code)) (place : Nat) : Nat := (filled elements place).position

def count (elements : Array (Element code)) (place : Nat) : Nat := (tally elements).getD place 0

theorem filled_succ (elements : Array (Element code)) (place : Nat) :
    filled elements (place + 1) =
      run (ofSlot code place) (count elements place) (filled elements place) := by
  rw [filled, fill, List.range_succ, List.foldl_append]
  rfl

theorem position_run (element : Element code) (count : Nat) (filling : Filling code) :
    (run element count filling).position = filling.position + count := by
  induction count generalizing filling with
  | zero => rfl
  | succ count ih => rw [run, ih, Nat.add_assoc, Nat.add_comm 1]

theorem size_run (element : Element code) (count : Nat) (filling : Filling code) :
    (run element count filling).cells.size = filling.cells.size := by
  induction count generalizing filling with
  | zero => rfl
  | succ count ih => rw [run, ih, Array.size_setIfInBounds]

theorem getElem?_run (element : Element code) (count : Nat) (filling : Filling code) {cell : Nat}
    (inside : cell < filling.cells.size) :
    (run element count filling).cells[cell]? =
      if filling.position ≤ cell ∧ cell < filling.position + count then some element
      else filling.cells[cell]? := by
  induction count generalizing filling with
  | zero =>
    rw [run, if_neg]
    omega
  | succ count ih =>
    rw [run, ih _ (by rwa [Array.size_setIfInBounds]), Array.getElem?_setIfInBounds]
    dsimp only
    by_cases here : filling.position = cell
    · rw [if_neg (by omega), if_pos here, if_pos (by omega), if_pos (by omega)]
    · rw [if_neg here]
      congr 1
      rw [eq_iff_iff]
      omega

theorem start_succ (elements : Array (Element code)) (place : Nat) :
    start elements (place + 1) = start elements place + count elements place := by
  rw [start, filled_succ, position_run]
  rfl

theorem size_filled (elements : Array (Element code)) (place : Nat) :
    (filled elements place).cells.size = elements.size := by
  induction place with
  | zero => rfl
  | succ place ih => rw [filled_succ, size_run, ih]

/-- The invariant of the filling, as a number: so many elements have a slot below. -/
theorem start_eq (elements : Array (Element code)) {place : Nat} (bound : place ≤ slots code) :
    start elements place = (elements.toList.filter (slot · < place)).length := by
  rw [start, filled, (Filled.fill elements bound).position_eq,
    (buckets_perm elements.toList place).length_eq]

theorem start_le_size (elements : Array (Element code)) {place : Nat} (bound : place ≤ slots code) :
    start elements place ≤ elements.size := by
  rw [start_eq elements bound]
  exact List.length_filter_le _ _

theorem start_slots (elements : Array (Element code)) :
    start elements (slots code) = elements.size := by
  have whole := (Filled.fill elements (Nat.le_refl (slots code))).position_eq
  rw [(buckets_slots_perm elements.toList).length_eq] at whole
  exact whole

/-- Stretches that each start where the last one ended leave no cell out and take none twice. -/
theorem flatMap_range'_start (elements : Array (Element code)) (place : Nat) :
    (List.range place).flatMap
        (fun slot => List.range' (start elements slot) (count elements slot)) =
      List.range (start elements place) := by
  induction place with
  | zero => rfl
  | succ place ih =>
    rw [List.range_succ, List.flatMap_append, List.flatMap_singleton, ih, start_succ,
      List.range_eq_range', List.range_eq_range']
    have joined := @List.range'_append_1 0 (start elements place) (count elements place)
    rwa [Nat.zero_add] at joined

/-- The runs of all slots, laid into the cells one behind the other. -/
structure Tiled (elements : Array (Element code)) : Prop where
  inside : ∀ place < slots code, start elements place + count elements place ≤ elements.size
  written : ∀ place < slots code, ∀ cell < elements.size,
    (filled elements (place + 1)).cells[cell]? =
      if start elements place ≤ cell ∧ cell < start elements place + count elements place then
        some (ofSlot code place)
      else (filled elements place).cells[cell]?
  once : (List.range (slots code)).flatMap
    (fun place => List.range' (start elements place) (count elements place)) =
      List.range elements.size
  last : start elements (slots code) = elements.size

theorem tiled (elements : Array (Element code)) : Tiled elements where
  inside := by
    intro place below
    rw [← start_succ]
    exact start_le_size elements below
  written := by
    intro place _ cell inside
    rw [filled_succ]
    exact getElem?_run _ _ _ (by rwa [size_filled])
  once := by rw [flatMap_range'_start, start_slots]
  last := start_slots elements

theorem arranges_iff_eq_sort (integer : code.kind = .integer) {elements : Array (Element code)}
    {sorted : List (Element code)} :
    Arranges Element.order sorted elements.toList ↔ sorted = (sort elements).toList := by
  have counted := arranges_sort integer elements
  constructor
  · intro arranged
    exact Arranges.unique (fun _ _ _ _ => Element.order_antisymm) arranged counted (.refl _)
  · rintro rfl
    exact counted

theorem pairwise_sort (elements : Array (Element code)) :
    (sort elements).toList.Pairwise fun left right => left.toInt ≤ right.toInt := by
  rw [toList_sort]
  exact pairwise_buckets elements.toList (slots code)

def NegativesFirst (sorted : List (Element code)) : Prop :=
  ∃ negatives naturals, sorted = negatives ++ naturals ∧
    (∀ element ∈ negatives, element.toInt < 0) ∧ (∀ element ∈ naturals, 0 ≤ element.toInt) ∧
    negatives.Pairwise (fun left right => left.toInt ≤ right.toInt) ∧
    naturals.Pairwise fun left right => left.toInt ≤ right.toInt

theorem negativesFirst_sort (elements : Array (Element code)) :
    NegativesFirst (sort elements).toList := by
  have ascending := pairwise_sort elements
  have early : (sort elements).toList.Pairwise fun left right =>
      decide (right.toInt < 0) = true → decide (left.toInt < 0) = true := by
    apply ascending.imp
    intro left right below late
    rw [decide_eq_true_iff] at late ⊢
    omega
  have cut := filter_append_filter_of_pairwise early
  refine ⟨_, _, cut.symm, ?_, ?_, ascending.filter _, ascending.filter _⟩
  · intro element member
    exact of_decide_eq_true (List.mem_filter.mp member).2
  · intro element member
    have late := (List.mem_filter.mp member).2
    rw [Bool.not_eq_true', decide_eq_false_iff_not] at late
    exact Int.not_lt.mp late

theorem slots_of_byte (byte : code.width = 1) : slots code = 256 := by
  rw [slots, TypeCode.bits, byte]
  rfl

theorem least_of_byte (byte : code.width = 1) : code.least = if code.signed then -128 else 0 := by
  cases code <;> first | rfl | cases byte

theorem slot_eq_of_byte (byte : code.width = 1) (element : Element code) :
    slot element < 256 ∧ (slot element : Int) = element.toInt + if code.signed then 128 else 0 := by
  have below := slot_lt element
  have placed := least_add_slot element
  rw [slots_of_byte byte] at below
  rw [least_of_byte byte] at placed
  refine ⟨below, ?_⟩
  split
  · next signed =>
    rw [if_pos signed] at placed
    omega
  · next unsigned =>
    rw [if_neg unsigned] at placed
    omega

/-- Bytes are sorted by counting. Every byte has one of 256 slots, signed ones shifted by 128 and
back; the runs of the slots stay within the cells, end with the last one and write each cell once;
and they leave what a sort by comparison leaves, negative numbers first. -/
theorem sort_tiles_cells (byte : code.width = 1) (elements : Array (Element code)) :
    (Packed.mk code elements).sort = ⟨code, sort elements⟩ ∧ slots code = 256 ∧
      (∀ element : Element code, slot element < 256 ∧
        (slot element : Int) = element.toInt + (if code.signed then 128 else 0) ∧
        ofSlot code (slot element) = element) ∧
      Tiled elements ∧
      (∀ sorted, Arranges Element.order sorted elements.toList ↔ sorted = (sort elements).toList) ∧
      NegativesFirst (sort elements).toList := by
  refine ⟨?_, slots_of_byte byte, fun element => ?_, tiled elements, fun sorted => ?_,
    negativesFirst_sort elements⟩
  · rw [Packed.sort, if_pos byte]
  · obtain ⟨below, placed⟩ := slot_eq_of_byte byte element
    exact ⟨below, placed, ofSlot_slot element⟩
  · exact arranges_iff_eq_sort (TypeCode.integer_of_byte byte)

def extremeBytes : Array (Element .int8) := #[0x7f, 0x80, 0x00, 0xff, 0x7f, 0x80]

theorem sort_extremeBytes :
    TypeCode.int8.width = 1 ∧
      start extremeBytes 255 + count extremeBytes 255 = extremeBytes.size ∧
      (sort extremeBytes).toList = [0x80, 0x80, 0xff, 0x00, 0x7f, 0x7f] := by
  have byte : TypeCode.int8.width = 1 := rfl
  obtain ⟨_, size, _, tiles, only, _⟩ := sort_tiles_cells byte extremeBytes
  have last := tiles.last
  rw [size, start_succ] at last
  exact ⟨byte, last, ((only [0x80, 0x80, 0xff, 0x00, 0x7f, 0x7f]).mp
    ⟨by decide, by decide⟩).symm⟩

end PackedNumbers.Counting
