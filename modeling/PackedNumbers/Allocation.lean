import PackedNumbers.Packed

/-!
A vector in a store that has room for a promised number of elements.
-/
namespace PackedNumbers

/-- Why a call gives no result: it is refused with a fault, or it panics and does not return. -/
inductive Stop
  | fault (fault : Fault)
  | capacityOverflow
  deriving DecidableEq, Repr

theorem mapError_eq_ok_iff {ε ε' α : Type} {name : ε → ε'} {result : Except ε α} {value : α} :
    result.mapError name = .ok value ↔ result = .ok value := by
  cases result with
  | error =>
    constructor <;>
      · intro impossible
        cases impossible
  | ok =>
    constructor <;>
      · intro same
        cases same
        rfl

structure Allocation where
  vector : Packed
  capacity : Nat
  deriving DecidableEq, Repr

namespace Allocation

def ofPacked (vector : Packed) : Allocation := ⟨vector, vector.size⟩

def mostBytes : Nat := 2 ^ 63 - 1

/-- An empty vector with room for a number of elements. Room for more bytes than a store can take
is not refused: asking for it is a panic. -/
def withCapacity (code : TypeCode) (capacity : Nat) : Except Stop Allocation :=
  if capacity * code.width ≤ mostBytes then .ok ⟨.empty code, capacity⟩
  else .error .capacityOverflow

def reserve (allocation : Allocation) (capacity : Nat) : Allocation :=
  { allocation with capacity := max allocation.capacity capacity }

/-- Replaces the vector; room is added where it is needed and never given back. -/
def update (allocation : Allocation) (vector : Packed) : Allocation :=
  ⟨vector, max allocation.capacity vector.size⟩

def append (allocation : Allocation) (scalar : Scalar) : Except Fault Allocation := do
  return allocation.update (← allocation.vector.append scalar)

def clear (allocation : Allocation) : Allocation := allocation.update allocation.vector.clear

def hasRoom (allocation : Allocation) (count : Nat) : Bool := count ≤ allocation.capacity

end Allocation
end PackedNumbers
