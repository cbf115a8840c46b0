import PackedNumbers.Scalar
import PackedNumbers.FloatFormat.Rounding

/-!
The stored word of one element: how it is read, ordered, widened and narrowed.
-/
namespace PackedNumbers

abbrev TypeCode.bits (code : TypeCode) : Nat := 8 * code.width

abbrev Element (code : TypeCode) := BitVec code.bits

def TypeCode.least (code : TypeCode) : Int := if code.signed then -2 ^ (code.bits - 1) else 0

def TypeCode.greatest (code : TypeCode) : Int :=
  if code.signed then 2 ^ (code.bits - 1) - 1 else 2 ^ code.bits - 1

def TypeCode.clamp (code : TypeCode) (value : Int) : Int :=
  max code.least (min value code.greatest)

namespace Element

variable {code : TypeCode}

def toInt (element : Element code) : Int :=
  if code.signed then BitVec.toInt element else BitVec.toNat element

def toScalar (element : Element code) : Scalar :=
  match code.kind with
  | .integer => .int (Int64.ofInt element.toInt)
  | .float =>
    .float (SignMagnitude.word 64 (SignMagnitude.negative element)
      (FloatFormat.single.convert .double (SignMagnitude.magnitude element)))

/-- The word for a scalar, checked or not. An integer code keeps the low bits of an integer, and
the whole part of a double as far as the code reaches; a float code rounds to nearest. -/
def ofScalar (code : TypeCode) (scalar : Scalar) : Element code :=
  match code.kind, scalar with
  | .integer, .int value => BitVec.ofInt code.bits value.toInt
  | .integer, .float word => BitVec.ofInt code.bits (code.clamp (FloatFormat.double.toInt word))
  | .float, .int value =>
    SignMagnitude.word code.bits (value.toInt < 0) (FloatFormat.single.ofNat value.toInt.natAbs)
  | .float, .float word =>
    SignMagnitude.word code.bits (SignMagnitude.negative word)
      (FloatFormat.double.convert .single (SignMagnitude.magnitude word))

/-- The place of a word in the order of its code: the integer itself, or the total order of
floats. Different words have different keys. -/
def key (element : Element code) : Int :=
  match code.kind with
  | .integer => element.toInt
  | .float => SignMagnitude.rank element

def order (left right : Element code) : Ordering := compare left.key right.key

def equals (left right : Element code) : Bool :=
  match code.kind with
  | .integer => left == right
  | .float => FloatFormat.single.equals left right

end Element
end PackedNumbers
