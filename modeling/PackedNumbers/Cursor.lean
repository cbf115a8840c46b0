import PackedNumbers.Packed

/-!
Reading a vector from both ends at once.
-/
namespace PackedNumbers

/-- The elements from `front` up to, not including, `back` are still to be read. -/
structure Cursor where
  vector : Packed
  front : Nat
  back : Nat
  back_le : back ≤ vector.elements.size

namespace Cursor

def ofPacked (vector : Packed) : Cursor := ⟨vector, 0, vector.elements.size, Nat.le_refl _⟩

def left (cursor : Cursor) : Nat := cursor.back - cursor.front

def next (cursor : Cursor) : Option Scalar × Cursor :=
  if some_left : cursor.front < cursor.back then
    have inside : cursor.front < cursor.vector.elements.size :=
      Nat.lt_of_lt_of_le some_left cursor.back_le
    (some cursor.vector.elements[cursor.front].toScalar,
      { cursor with front := cursor.front + 1 })
  else (none, cursor)

def nextBack (cursor : Cursor) : Option Scalar × Cursor :=
  if some_left : cursor.front < cursor.back then
    have inside : cursor.back - 1 < cursor.vector.elements.size := by
      have := cursor.back_le
      omega
    (some cursor.vector.elements[cursor.back - 1].toScalar,
      { cursor with back := cursor.back - 1, back_le := Nat.le_of_lt inside })
  else (none, cursor)

def drain (cursor : Cursor) : List Scalar :=
  go cursor.left cursor
where
  go : Nat → Cursor → List Scalar
    | 0, _ => []
    | left + 1, cursor =>
      match cursor.next with
      | (some scalar, rest) => scalar :: go left rest
      | (none, _) => []

def drainBack (cursor : Cursor) : List Scalar :=
  go cursor.left cursor
where
  go : Nat → Cursor → List Scalar
    | 0, _ => []
    | left + 1, cursor =>
      match cursor.nextBack with
      | (some scalar, rest) => scalar :: go left rest
      | (none, _) => []

end Cursor
end PackedNumbers
