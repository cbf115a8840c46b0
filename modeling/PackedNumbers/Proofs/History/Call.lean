import PackedNumbers.Projection

/-!
Calls that are judged before they write. A call is followed step by step: as long as only verdicts
and reads come before its write, a refusal leaves the vector as it was.
-/
namespace PackedNumbers

namespace Packed

/-- Refused, the call leaves the vector as it was. -/
def Judged (update : Update Unit) : Prop :=
  ∀ (vector after : Packed) (fault : Fault),
    vector.call update = (.error fault, after) → after = vector

theorem judged_throw (fault : Fault) : Judged (throw fault) := by
  rintro vector _ _ ⟨⟩
  rfl

theorem judged_write (after : Packed) : Judged (set after) := by
  rintro vector _ _ ⟨⟩

theorem judged_read {next : Packed → Update Unit} (judged : ∀ vector, Judged (next vector)) :
    Judged (getThe Packed >>= next) :=
  fun vector => judged vector vector

theorem judged_judge {Value : Type} {next : Value → Update Unit} (verdict : Except Fault Value)
    (judged : ∀ value, Judged (next value)) : Judged (liftM verdict >>= next) := by
  cases verdict with
  | ok value => exact judged value
  | error fault => exact judged_throw fault

theorem Judged.call_eq {update : Update Unit} (judged : Judged update) (vector : Packed) :
    vector.call update =
      match vector.changed update with
      | .ok after => (.ok (), after)
      | .error fault => (.error fault, vector) := by
  unfold changed
  cases ended : vector.call update with
  | mk verdict after =>
    cases verdict with
    | ok => rfl
    | error fault => rw [judged vector after fault ended]

theorem judged_appendInPlace (scalar : Scalar) : Judged (appendInPlace scalar) := by
  apply judged_read
  intro vector
  apply judged_judge
  intro _
  exact judged_write _

theorem call_appendInPlace (vector : Packed) (scalar : Scalar) :
    vector.call (appendInPlace scalar) =
      match vector.append scalar with
      | .ok after => (.ok (), after)
      | .error fault => (.error fault, vector) :=
  (judged_appendInPlace scalar).call_eq vector

end Packed

namespace Projection

open Packed

theorem judged_sortInPlace (vectors : List Packed) : Judged (sortInPlace vectors) := by
  apply judged_read
  intro projection
  split
  · exact judged_throw _
  · split
    · exact judged_throw _
    · apply judged_judge
      intro columns
      apply judged_judge
      intro named
      exact judged_write _

theorem call_sortInPlace (projection : Packed) (vectors : List Packed) :
    projection.call (sortInPlace vectors) =
      match sort projection vectors with
      | .ok sorted => (.ok (), sorted)
      | .error fault => (.error fault, projection) :=
  (judged_sortInPlace vectors).call_eq projection

end Projection
end PackedNumbers
