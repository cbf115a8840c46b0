import PackedNumbers.Cursor

/-!
What a cursor has still to read, as a list: reading in front takes its head, reading behind takes
its last element.
-/
namespace PackedNumbers.Cursor

def remaining (cursor : Cursor) : List Scalar :=
  (cursor.vector.scalars.take cursor.back).drop cursor.front

theorem remaining_ofPacked (vector : Packed) : (ofPacked vector).remaining = vector.scalars := by
  have whole : (ofPacked vector).back = vector.scalars.length := by
    rw [Packed.length_scalars]
    rfl
  rw [remaining, whole, ofPacked, List.take_length, List.drop_zero]

@[simp] theorem length_remaining (cursor : Cursor) : cursor.remaining.length = cursor.left := by
  have inside := cursor.back_le
  simp only [remaining, left, List.length_drop, List.length_take, Packed.length_scalars,
    Packed.size]
  omega

theorem remaining_eq_nil {cursor : Cursor} (met : cursor.back ≤ cursor.front) :
    cursor.remaining = [] := by
  apply List.eq_nil_of_length_eq_zero
  rw [length_remaining]
  exact Nat.sub_eq_zero_of_le met

theorem next_cases (cursor : Cursor) :
    (∃ scalar rest, cursor.front < cursor.back ∧ cursor.next = (some scalar, rest) ∧
      cursor.remaining = scalar :: rest.remaining ∧
      rest.front = cursor.front + 1 ∧ rest.back = cursor.back) ∨
    (cursor.back ≤ cursor.front ∧ cursor.next = (none, cursor)) := by
  rcases Nat.lt_or_ge cursor.front cursor.back with apart | met
  · left
    have inside : cursor.front < cursor.vector.elements.size :=
      Nat.lt_of_lt_of_le apart cursor.back_le
    have present : cursor.front < (cursor.vector.scalars.take cursor.back).length := by
      simp only [List.length_take, Packed.length_scalars, Packed.size]
      omega
    refine ⟨cursor.vector.elements[cursor.front].toScalar,
      { cursor with front := cursor.front + 1 }, apart, dif_pos apart, ?_, rfl, rfl⟩
    rw [remaining, List.drop_eq_getElem_cons present]
    simp [remaining, Packed.scalars]
  · exact .inr ⟨met, dif_neg (Nat.not_lt_of_le met)⟩

theorem nextBack_cases (cursor : Cursor) :
    (∃ scalar rest, cursor.front < cursor.back ∧ cursor.nextBack = (some scalar, rest) ∧
      cursor.remaining = rest.remaining ++ [scalar] ∧
      rest.front = cursor.front ∧ rest.back + 1 = cursor.back) ∨
    (cursor.back ≤ cursor.front ∧ cursor.nextBack = (none, cursor)) := by
  rcases Nat.lt_or_ge cursor.front cursor.back with apart | met
  · left
    have within := cursor.back_le
    have inside : cursor.back - 1 < cursor.vector.elements.size := by omega
    have present : cursor.back - 1 < cursor.vector.scalars.length := by
      rw [Packed.length_scalars]
      exact inside
    have last : cursor.back - 1 + 1 = cursor.back := by omega
    have before : cursor.front ≤ (cursor.vector.scalars.take (cursor.back - 1)).length := by
      rw [List.length_take]
      omega
    refine ⟨cursor.vector.elements[cursor.back - 1].toScalar,
      { cursor with back := cursor.back - 1, back_le := Nat.le_of_lt inside }, apart,
      dif_pos apart, ?_, rfl, last⟩
    have split : cursor.vector.scalars.take cursor.back =
        cursor.vector.scalars.take (cursor.back - 1) ++
          [cursor.vector.scalars[cursor.back - 1]] := by
      rw [List.take_append_getElem present, last]
    rw [remaining, split, List.drop_append_of_le_length before]
    simp [remaining, Packed.scalars]
  · exact .inr ⟨met, dif_neg (Nat.not_lt_of_le met)⟩

theorem go_drain (count : Nat) (cursor : Cursor) (counted : cursor.left = count) :
    drain.go count cursor = cursor.remaining := by
  induction count generalizing cursor with
  | zero =>
    rw [remaining_eq_nil (Nat.le_of_sub_eq_zero counted)]
    rfl
  | succ count ih =>
    rcases next_cases cursor with ⟨scalar, rest, _, read, taken, front, back⟩ | ⟨met, _⟩
    · have fewer : rest.left = count := by
        simp only [left] at counted ⊢
        omega
      rw [drain.go, read, taken, ← ih rest fewer]
    · simp only [left] at counted
      omega

theorem drain_eq_remaining (cursor : Cursor) : cursor.drain = cursor.remaining :=
  go_drain cursor.left cursor rfl

theorem go_drainBack (count : Nat) (cursor : Cursor) (counted : cursor.left = count) :
    drainBack.go count cursor = cursor.remaining.reverse := by
  induction count generalizing cursor with
  | zero =>
    rw [remaining_eq_nil (Nat.le_of_sub_eq_zero counted)]
    rfl
  | succ count ih =>
    rcases nextBack_cases cursor with ⟨scalar, rest, _, read, taken, front, back⟩ | ⟨met, _⟩
    · have fewer : rest.left = count := by
        simp only [left] at counted ⊢
        omega
      rw [drainBack.go, read, taken, List.reverse_append, ← ih rest fewer]
      rfl
    · simp only [left] at counted
      omega

theorem drainBack_eq_reverse (cursor : Cursor) : cursor.drainBack = cursor.remaining.reverse :=
  go_drainBack cursor.left cursor rfl

end PackedNumbers.Cursor
