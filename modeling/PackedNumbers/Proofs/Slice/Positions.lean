import PackedNumbers.Packed
import PackedNumbers.Proofs.Span.Words

/-!
Which elements a slice takes: those whose positions lie between its bounds, in order.
-/
namespace PackedNumbers

theorem map_fst_filter_zipIdx {α : Type} (items : List α) (offset first last : Nat) :
    ((items.zipIdx offset).filter fun item => first ≤ item.2 ∧ item.2 < last).map Prod.fst =
      (items.take (last - offset)).drop (first - offset) := by
  induction items generalizing offset with
  | nil => simp
  | cons item items ih =>
    rw [List.zipIdx_cons, List.filter_cons]
    rcases Nat.lt_or_ge offset last with here | past
    · have taken : last - offset = last - (offset + 1) + 1 := by omega
      rw [taken, List.take_succ_cons]
      rcases Nat.lt_or_ge offset first with early | reached
      · have dropped : first - offset = first - (offset + 1) + 1 := by omega
        have left_out : ¬ (first ≤ offset ∧ offset < last) := by omega
        rw [dropped, List.drop_succ_cons, ← ih, if_neg (by simpa using left_out)]
      · have all_left : first - offset = 0 := by omega
        have none_dropped : first - (offset + 1) = 0 := by omega
        rw [if_pos (by simpa using ⟨reached, here⟩), List.map_cons, ih, all_left, none_dropped,
          List.drop_zero, List.drop_zero]
    · have none_taken : last - offset = 0 := by omega
      have none_later : last - (offset + 1) = 0 := by omega
      have left_out : ¬ (first ≤ offset ∧ offset < last) := by omega
      rw [if_neg (by simpa using left_out), ih, none_taken, none_later, List.take_zero,
        List.take_zero, List.drop_nil, List.drop_nil]

namespace Packed

def within (vector : Packed) (first last : Int) : List (Element vector.code) :=
  (vector.elements.toList.zipIdx.filter fun item => first ≤ item.2 ∧ item.2 < last).map Prod.fst

def copy? (vector : Packed) (span : Span) : Option Packed :=
  if span.start ≤ span.stop ∧ span.stop ≤ vector.size then
    some ⟨vector.code, vector.elements.extract span.start span.stop⟩
  else none

theorem slice_eq_ofElements (vector : Packed) (start stop : Option Int) :
    vector.slice start stop = ofElements ((vector.elements.toList.take
      (Span.resolve start stop vector.size).stop).drop
        (Span.resolve start stop vector.size).start) := by
  have same : (vector.slice start stop).elements = ((vector.elements.toList.take
      (Span.resolve start stop vector.size).stop).drop
        (Span.resolve start stop vector.size).start).toArray := by
    apply Array.toList_inj.mp
    rw [toList_slice, List.drop_take]
    rfl
  exact congrArg (Packed.mk vector.code) same

theorem within_eq (vector : Packed) {start stop : Option Int} {span : Span}
    (between : Span.Between start stop vector.size span) :
    vector.within (Span.place 0 vector.size start) (Span.place vector.size vector.size stop) =
      (vector.elements.toList.take span.stop).drop span.start := by
  have kept : ∀ item : Element vector.code × Nat,
      decide (Span.place 0 vector.size start ≤ item.2 ∧
        item.2 < Span.place vector.size vector.size stop) =
      decide (span.start ≤ item.2 ∧ item.2 < span.stop) := by
    intro item
    have first := between.start_eq
    have last := between.stop_eq
    rw [decide_eq_decide]
    omega
  rw [within, funext kept, map_fst_filter_zipIdx, Nat.sub_zero, Nat.sub_zero]

theorem copy?_resolve (vector : Packed) (start stop : Option Int) :
    vector.copy? (Span.resolve start stop vector.size) = some (vector.slice start stop) :=
  if_pos ⟨Span.resolve_start_le start stop vector.size, Span.resolve_stop_le start stop vector.size⟩

/-- A slice takes the elements from the place of one bound to the place of the other and leaves
their words as they are. The span it copies lies between the bounds, is in order and inside, and
comes out the same in words of 64 bits, so the copy reads nothing outside the vector. -/
theorem slice_takes_positions (vector : Packed) :
    (∀ start stop : Option Int,
      vector.slice start stop = ofElements (vector.within (Span.place 0 vector.size start)
        (Span.place vector.size vector.size stop))) ∧
      (∀ (start stop : Option Int) (size : Nat),
        Span.Between start stop size (Span.resolve start stop size)) ∧
      (∀ (start stop : Option Int64) (size : UInt64),
        Span.ofWords (Span.resolveWords start stop size) =
          Span.resolve (start.map Int64.toInt) (stop.map Int64.toInt) size.toNat) ∧
      ∀ (start stop : Option Int64) (size : UInt64), size.toNat = vector.size →
        vector.copy? (Span.ofWords (Span.resolveWords start stop size)) =
          some (vector.slice (start.map Int64.toInt) (stop.map Int64.toInt)) := by
  refine ⟨?_, Span.between_resolve, Span.ofWords_resolveWords, ?_⟩
  · intro start stop
    rw [slice_eq_ofElements, within_eq vector (Span.between_resolve start stop vector.size)]
  · intro start stop size sized
    rw [Span.ofWords_resolveWords, sized]
    exact copy?_resolve vector _ _

def fourBytes : Packed := ⟨.uint8, #[10, 20, 30, 40]⟩

theorem slice_fourBytes :
    fourBytes.slice (some (-3)) (some 9) = ofElements (fourBytes.within 1 4) ∧
      fourBytes.copy? (Span.ofWords (Span.resolveWords (some .minValue) (some (-1)) 4)) =
        some (fourBytes.slice (some Int64.minValue.toInt) (some (-1))) ∧
      fourBytes.slice (some Int64.minValue.toInt) (some (-1)) = ⟨.uint8, #[10, 20, 30]⟩ := by
  obtain ⟨takes, _, _, copies⟩ := slice_takes_positions fourBytes
  exact ⟨takes (some (-3)) (some 9), copies (some .minValue) (some (-1)) 4 rfl, by decide⟩

end Packed
end PackedNumbers
