import PackedNumbers.Packed
import PackedNumbers.Source

/-!
Vectors made of scalars read one at a time.
-/
namespace PackedNumbers.Packed

def appendAll (vector : Packed) (source : Source) : Except Fault Packed :=
  match source.feed (check vector.code) add vector with
  | (_, some fault) => .error fault
  | (filled, none) => .ok filled

/-- The vector of all scalars, or the fault of the first one refused. Nothing after that one is
read. -/
def collect (code : TypeCode) (source : Source) : Except Fault Packed :=
  (empty code).appendAll source

theorem position_lt (vector : Packed) (position : Fin vector.elements.size) :
    position.val < vector.elements.size :=
  position.isLt

def source (vector : Packed) : Source where
  size := vector.elements.size
  read position :=
    have inside := vector.position_lt position
    vector.elements[position.val].toScalar

end PackedNumbers.Packed
