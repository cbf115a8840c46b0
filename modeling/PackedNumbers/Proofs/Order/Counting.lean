import PackedNumbers.Order.Counting
import PackedNumbers.Proofs.Element.Key
import PackedNumbers.Proofs.Order.Arrangement

/-!
Counting leaves the buckets of the elements, one for each slot in ascending order. The invariant of
the writing is that the cells before the position hold the buckets written so far.
-/
namespace PackedNumbers.Counting

variable {code : TypeCode} {elements written : List (Element code)} {filling : Filling code}

theorem least_add_slot (element : Element code) : code.least + slot element = element.toInt := by
  have least := element.least_le_toInt
  unfold slot
  omega

theorem slot_lt (element : Element code) : slot element < slots code := by
  have placed := least_add_slot element
  have greatest := element.toInt_le_greatest
  have size := code.range_size
  unfold slots
  omega

theorem ofSlot_slot (element : Element code) : ofSlot code (slot element) = element := by
  rw [ofSlot, least_add_slot, Element.ofInt_toInt]

def buckets (elements : List (Element code)) (count : Nat) : List (Element code) :=
  (List.range count).flatMap fun place => elements.filter (slot · = place)

theorem buckets_succ (elements : List (Element code)) (count : Nat) :
    buckets elements (count + 1) = buckets elements count ++ elements.filter (slot · = count) := by
  rw [buckets, List.range_succ, List.flatMap_append, List.flatMap_singleton]
  rfl

theorem buckets_perm (elements : List (Element code)) (count : Nat) :
    (buckets elements count).Perm (elements.filter (slot · < count)) := by
  induction count with
  | zero => simp [buckets]
  | succ count ih =>
    have below : (elements.filter (slot · < count + 1)).filter (slot · < count) =
        elements.filter (slot · < count) := by
      rw [List.filter_filter]
      apply List.filter_congr
      intro element _
      simp only [← Bool.decide_and, decide_eq_decide]
      omega
    have last : (elements.filter (slot · < count + 1)).filter (fun x => !decide (slot x < count)) =
        elements.filter (slot · = count) := by
      rw [List.filter_filter]
      apply List.filter_congr
      intro element _
      simp only [← decide_not, ← Bool.decide_and, decide_eq_decide]
      omega
    have parts := List.filter_append_perm (fun element => decide (slot element < count))
      (elements.filter (slot · < count + 1))
    rw [below, last] at parts
    rw [buckets_succ]
    exact (ih.append_right _).trans parts

theorem buckets_slots_perm (elements : List (Element code)) :
    (buckets elements (slots code)).Perm elements := by
  have whole : elements.filter (slot · < slots code) = elements := by
    rw [List.filter_eq_self]
    intro element _
    exact decide_eq_true (slot_lt element)
  have perm := buckets_perm elements (slots code)
  rwa [whole] at perm

theorem bucket_eq_replicate (elements : List (Element code)) (place : Nat) :
    elements.filter (slot · = place) =
      List.replicate (elements.countP (slot · = place)) (ofSlot code place) := by
  rw [List.eq_replicate_iff]
  constructor
  · exact List.countP_eq_length_filter.symm
  · intro element member
    have placed : slot element = place := of_decide_eq_true (List.mem_filter.mp member).2
    rw [← placed, ofSlot_slot]

theorem pairwise_buckets (elements : List (Element code)) (count : Nat) :
    (buckets elements count).Pairwise fun left right => left.toInt ≤ right.toInt := by
  have placed : ∀ place, ∀ element ∈ elements.filter (slot · = place),
      element.toInt = code.least + place := by
    intro place element member
    rw [← of_decide_eq_true (List.mem_filter.mp member).2, least_add_slot]
  rw [buckets, List.pairwise_flatMap]
  constructor
  · intro place _
    apply List.pairwise_of_forall_mem_list
    intro left inLeft right inRight
    exact Int.le_of_eq ((placed place left inLeft).trans (placed place right inRight).symm)
  · apply List.pairwise_lt_range.imp
    intro place later before left inLeft right inRight
    rw [placed place left inLeft, placed later right inRight]
    omega

theorem getD_modify (counts : Array Nat) {place : Nat} (inside : place < counts.size)
    (other : Nat) :
    (counts.modify other (· + 1)).getD place 0 =
      counts.getD place 0 + if other = place then 1 else 0 := by
  have still : place < (counts.modify other (· + 1)).size := by rwa [Array.size_modify]
  rw [Array.getD_eq_getD_getElem?, Array.getD_eq_getD_getElem?, Array.getElem?_eq_getElem still,
    Array.getElem?_eq_getElem inside, Option.getD_some, Option.getD_some, Array.getElem_modify]
  split <;> rfl

theorem getD_foldl_modify (elements : List (Element code)) (counts : Array Nat) {place : Nat}
    (inside : place < counts.size) :
    (elements.foldl (fun counts element => counts.modify (slot element) (· + 1)) counts).getD
        place 0 = counts.getD place 0 + elements.countP (slot · = place) := by
  induction elements generalizing counts with
  | nil => rfl
  | cons element elements ih =>
    have still : place < (counts.modify (slot element) (· + 1)).size := by
      rwa [Array.size_modify]
    rw [List.foldl_cons, ih _ still, getD_modify counts inside, List.countP_cons]
    simp only [decide_eq_true_eq]
    omega

theorem getD_tally (elements : Array (Element code)) {place : Nat} (inside : place < slots code) :
    (tally elements).getD place 0 = elements.toList.countP (slot · = place) := by
  have room : place < (Array.replicate (slots code) 0).size := by rwa [Array.size_replicate]
  rw [tally, ← Array.foldl_toList, getD_foldl_modify _ _ room]
  simp [inside]

/-- The cells before the position hold what is written, and the others what they held before. -/
structure Filled (old written : List (Element code)) (filling : Filling code) : Prop where
  cells_eq : filling.cells.toList = written ++ old.drop written.length
  position_eq : filling.position = written.length

namespace Filled

variable {old : List (Element code)}

theorem write (filled : Filled old written filling) (room : written.length < old.length)
    (element : Element code) :
    Filled old (written ++ [element])
      ⟨filling.cells.setIfInBounds filling.position element, filling.position + 1⟩ where
  cells_eq := by
    rw [Array.toList_setIfInBounds, filled.cells_eq, filled.position_eq,
      List.set_append_right _ _ (Nat.le_refl _), Nat.sub_self, List.drop_eq_getElem_cons room,
      List.set_cons_zero, List.length_append, List.length_singleton, List.append_assoc,
      List.singleton_append]
  position_eq := by
    rw [filled.position_eq, List.length_append, List.length_singleton]

theorem run (filled : Filled old written filling) {count : Nat}
    (room : written.length + count ≤ old.length) (element : Element code) :
    Filled old (written ++ List.replicate count element) (run element count filling) := by
  induction count generalizing written filling with
  | zero =>
    rw [List.replicate_zero, List.append_nil]
    exact filled
  | succ count ih =>
    have next := filled.write (by omega) element
    have rest := ih next (by simp only [List.length_append, List.length_singleton]; omega)
    rwa [List.append_assoc, List.singleton_append, ← List.replicate_succ] at rest

theorem fill (elements : Array (Element code)) {count : Nat} (bound : count ≤ slots code) :
    Filled elements.toList (buckets elements.toList count)
      (fill (tally elements) ⟨elements, 0⟩ count) := by
  induction count with
  | zero => exact ⟨rfl, rfl⟩
  | succ count ih =>
    -- Buckets are made of the elements, so the next run ends within the cells.
    have room : (buckets elements.toList (count + 1)).length ≤ elements.toList.length := by
      rw [(buckets_perm elements.toList (count + 1)).length_eq]
      exact List.length_filter_le _ _
    rw [buckets_succ, bucket_eq_replicate, List.length_append, List.length_replicate] at room
    have next := (ih (Nat.le_of_succ_le bound)).run room (ofSlot code count)
    rw [← getD_tally elements bound] at next
    rw [buckets_succ, bucket_eq_replicate, ← getD_tally elements bound, Counting.fill,
      List.range_succ, List.foldl_append, List.foldl_cons, List.foldl_nil]
    exact next

end Filled

theorem toList_sort (elements : Array (Element code)) :
    (sort elements).toList = buckets elements.toList (slots code) := by
  have filled := Filled.fill elements (Nat.le_refl (slots code))
  rw [sort, filled.cells_eq, (buckets_slots_perm elements.toList).length_eq, List.drop_length,
    List.append_nil]

theorem arranges_sort (integer : code.kind = .integer) (elements : Array (Element code)) :
    Arranges Element.order (sort elements).toList elements.toList where
  perm := by
    rw [toList_sort]
    exact buckets_slots_perm elements.toList
  ordered := by
    rw [toList_sort]
    apply (pairwise_buckets elements.toList (slots code)).imp
    intro left right below
    rwa [Element.order_ne_gt_iff, Element.key_of_integer left integer,
      Element.key_of_integer right integer]

end PackedNumbers.Counting
