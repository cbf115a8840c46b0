/-!
The seven element codes: name, tag, byte width, kind and integer domain.
-/
namespace PackedNumbers

inductive Kind
  | integer
  | float
  deriving DecidableEq, Repr

def Kind.name : Kind → String
  | .integer => "integer"
  | .float => "float"

inductive TypeCode
  | int8
  | uint8
  | int16
  | uint16
  | int32
  | uint32
  | single
  deriving DecidableEq, Repr

structure Domain where
  least : Int
  greatest : Int
  deriving DecidableEq, Repr

def Domain.contains (domain : Domain) (value : Int) : Bool :=
  domain.least ≤ value && value ≤ domain.greatest

namespace TypeCode

def all : List TypeCode := [int8, uint8, int16, uint16, int32, uint32, single]

theorem mem_all (code : TypeCode) : code ∈ all := by cases code <;> decide

def name : TypeCode → String
  | int8 => "i8"
  | uint8 => "u8"
  | int16 => "i16"
  | uint16 => "u16"
  | int32 => "i32"
  | uint32 => "u32"
  | single => "f"

def ofName? (text : String) : Option TypeCode := all.find? (·.name == text)

theorem ofName?_name (code : TypeCode) : ofName? code.name = some code := by
  cases code <;> decide

def tag : TypeCode → UInt8
  | int8 => 0
  | uint8 => 1
  | int16 => 2
  | uint16 => 3
  | int32 => 4
  | uint32 => 5
  | single => 6

def ofTag? (byte : UInt8) : Option TypeCode := all.find? (·.tag == byte)

theorem ofTag?_tag (code : TypeCode) : ofTag? code.tag = some code := by
  cases code <;> decide

def width : TypeCode → Nat
  | int8 | uint8 => 1
  | int16 | uint16 => 2
  | int32 | uint32 | single => 4

theorem width_pos (code : TypeCode) : 0 < code.width := by cases code <;> decide

def kind : TypeCode → Kind
  | single => .float
  | _ => .integer

def signed : TypeCode → Bool
  | int8 | int16 | int32 => true
  | _ => false

def domain : TypeCode → Option Domain
  | int8 => some ⟨-128, 127⟩
  | uint8 => some ⟨0, 255⟩
  | int16 => some ⟨-32768, 32767⟩
  | uint16 => some ⟨0, 65535⟩
  | int32 => some ⟨-2147483648, 2147483647⟩
  | uint32 => some ⟨0, 4294967295⟩
  | single => none

def inDomain (code : TypeCode) (value : Int) : Bool :=
  match code.domain with
  | some domain => domain.contains value
  | none => true

end TypeCode
end PackedNumbers
