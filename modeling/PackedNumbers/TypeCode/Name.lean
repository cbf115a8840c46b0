import PackedNumbers.Text.Quoted
import PackedNumbers.TypeCode

/-!
Codes read from their names.
-/
namespace PackedNumbers

structure UnknownCode where
  name : String
  deriving DecidableEq, Repr

def UnknownCode.message (unknown : UnknownCode) : String :=
  "unknown type code: " ++ Text.quoted unknown.name

def TypeCode.parse (name : String) : Except UnknownCode TypeCode :=
  match ofName? name with
  | some code => .ok code
  | none => .error ⟨name⟩

end PackedNumbers
