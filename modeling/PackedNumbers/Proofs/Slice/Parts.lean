import PackedNumbers.Proofs.Slice.Positions

/-!
How slices fit together: two that meet at a cut make up the vector, and a slice of a slice is one
slice.
-/
namespace PackedNumbers

theorem drop_take_drop_take {α : Type} (items : List α) {start stop last : Nat} (first : Nat)
    (inside : start + last ≤ stop) :
    (((items.take stop).drop start).take last).drop first =
      (items.take (start + last)).drop (start + first) := by
  rw [List.take_drop, List.take_take, Nat.min_eq_left inside, List.drop_drop]

namespace Packed

theorem slice_until (vector : Packed) (cut : Int) :
    vector.slice none (some cut) =
      ofElements (vector.elements.toList.take (Span.clamp cut vector.size)) := by
  rw [slice_eq_ofElements, Span.resolve_none_some, List.drop_zero]

theorem slice_from (vector : Packed) (cut : Int) :
    vector.slice (some cut) none =
      ofElements (vector.elements.toList.drop (Span.clamp cut vector.size)) := by
  have whole : vector.elements.toList.take vector.size = vector.elements.toList :=
    List.take_of_length_le (Nat.le_refl _)
  rw [slice_eq_ofElements, Span.resolve_some_none, whole]

/-- The inner bounds are resolved in the slice, and then counted from where the vector starts. -/
theorem slice_slice (vector : Packed) (start stop innerStart innerStop : Option Int) :
    let outer := Span.resolve start stop vector.size
    let inner := Span.resolve innerStart innerStop outer.size
    (vector.slice start stop).slice innerStart innerStop =
      vector.slice (some ((outer.start + inner.start : Nat) : Int))
        (some ((outer.start + inner.stop : Nat) : Int)) := by
  intro outer inner
  obtain ⟨ordered, nested, inside⟩ :=
    Span.resolve_nested start stop innerStart innerStop vector.size
  calc
    _ = ofElements ((((vector.elements.toList.take outer.stop).drop outer.start).take
          inner.stop).drop inner.start) := by
      rw [slice_eq_ofElements, size_slice, slice_eq_ofElements vector]
      rfl
    _ = ofElements ((vector.elements.toList.take (outer.start + inner.stop)).drop
          (outer.start + inner.start)) := by
      rw [drop_take_drop_take _ _ nested]
    _ = _ := by
      rw [slice_eq_ofElements, Span.resolve_natCast ordered (Nat.le_trans nested inside)]

/-- Cutting a vector anywhere loses no element and repeats none, wherever the cut is clamped to. A
slice of a slice is the slice between the inner positions moved by the outer start, and these are
positions of the vector. -/
theorem slices_split_and_nest (vector : Packed) :
    (∀ cut : Int, ∃ before after : List (Element vector.code),
      vector.slice none (some cut) = ofElements before ∧
        vector.slice (some cut) none = ofElements after ∧
        before ++ after = vector.elements.toList) ∧
      ∀ start stop innerStart innerStop : Option Int,
        let outer := Span.resolve start stop vector.size
        let inner := Span.resolve innerStart innerStop outer.size
        (vector.slice start stop).slice innerStart innerStop =
            vector.slice (some ((outer.start + inner.start : Nat) : Int))
              (some ((outer.start + inner.stop : Nat) : Int)) ∧
          outer.start + inner.start ≤ outer.start + inner.stop ∧
          outer.start + inner.stop ≤ outer.stop ∧ outer.stop ≤ vector.size := by
  constructor
  · intro cut
    exact ⟨_, _, vector.slice_until cut, vector.slice_from cut, List.take_append_drop ..⟩
  · intro start stop innerStart innerStop outer inner
    exact ⟨vector.slice_slice start stop innerStart innerStop,
      Span.resolve_nested start stop innerStart innerStop vector.size⟩

example : (fourBytes.slice (some 1) none).slice (some (-2)) (some 9) =
    fourBytes.slice (some 2) (some 4) := by decide

end Packed
end PackedNumbers
