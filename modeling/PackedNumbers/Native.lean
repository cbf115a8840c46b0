import PackedNumbers.Element

/-!
Values of the caller's own types, handed over where a scalar is expected.
-/
namespace PackedNumbers

inductive Native
  | int8 (value : Int8)
  | uint8 (value : UInt8)
  | int16 (value : Int16)
  | uint16 (value : UInt16)
  | int32 (value : Int32)
  | uint32 (value : UInt32)
  | int64 (value : Int64)
  | single (word : BitVec 32)
  | double (word : BitVec 64)
  deriving Repr

def Native.ofElement : {code : TypeCode} → Element code → Native
  | .int8, element => .int8 (.ofBitVec element)
  | .uint8, element => .uint8 (.ofBitVec element)
  | .int16, element => .int16 (.ofBitVec element)
  | .uint16, element => .uint16 (.ofBitVec element)
  | .int32, element => .int32 (.ofBitVec element)
  | .uint32, element => .uint32 (.ofBitVec element)
  | .single, element => .single element

def Scalar.ofNative : Native → Scalar
  | .int8 value => .int value.toInt64
  | .uint8 value => .int (.ofNat value.toNat)
  | .int16 value => .int value.toInt64
  | .uint16 value => .int (.ofNat value.toNat)
  | .int32 value => .int value.toInt64
  | .uint32 value => .int (.ofNat value.toNat)
  | .int64 value => .int value
  | .single word => .float (FloatFormat.widen word)
  | .double word => .float word

end PackedNumbers
