import PackedNumbers.TypeCode
import PackedNumbers.FloatFormat

/-!
The number that crosses the boundary of a vector: a 64-bit integer or the word of a double.
-/
namespace PackedNumbers

inductive Scalar
  | int (value : Int64)
  | float (word : BitVec 64)
  deriving DecidableEq, Repr

namespace Scalar

def kind : Scalar → Kind
  | int _ => .integer
  | float _ => .float

def asInt? : Scalar → Option Int64
  | int value => some value
  | float _ => none

def asFloat? : Scalar → Option (BitVec 64)
  | float word => some word
  | int _ => none

def equals : Scalar → Scalar → Bool
  | int left, int right => left == right
  | float left, float right => FloatFormat.double.equals left right
  | _, _ => false

end Scalar
end PackedNumbers
