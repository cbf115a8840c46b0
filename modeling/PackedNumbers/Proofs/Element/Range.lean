import PackedNumbers.Element

/-!
The integers that words of a code are read as: they fill the domain of the code, and the word is the
integer's low bits.
-/
namespace PackedNumbers

theorem TypeCode.domain_of_integer {code : TypeCode} (integer : code.kind = .integer) :
    code.domain = some ⟨code.least, code.greatest⟩ := by
  cases code <;> first | rfl | cases integer

theorem TypeCode.domain_of_float {code : TypeCode} (float : code.kind = .float) :
    code.domain = none := by
  cases code <;> first | rfl | cases float

theorem TypeCode.range_le (code : TypeCode) : -2 ^ 63 ≤ code.least ∧ code.greatest < 2 ^ 63 := by
  cases code <;> decide

theorem TypeCode.range_size (code : TypeCode) :
    code.greatest - code.least + 1 = (2 ^ code.bits : Nat) := by
  cases code <;> decide

namespace TypeCode

variable {code : TypeCode} {value : Int}

theorem zero_bounds (code : TypeCode) : code.least ≤ 0 ∧ 0 ≤ code.greatest := by
  cases code <;> decide

theorem least_le_greatest (code : TypeCode) : code.least ≤ code.greatest :=
  Int.le_trans code.zero_bounds.1 code.zero_bounds.2

theorem clamp_bounds (code : TypeCode) (value : Int) :
    code.least ≤ code.clamp value ∧ code.clamp value ≤ code.greatest := by
  have ends := code.least_le_greatest
  unfold clamp
  omega

theorem clamp_of_le_least (below : value ≤ code.least) : code.clamp value = code.least := by
  have ends := code.least_le_greatest
  unfold clamp
  omega

theorem clamp_of_greatest_le (above : code.greatest ≤ value) :
    code.clamp value = code.greatest := by
  have ends := code.least_le_greatest
  unfold clamp
  omega

theorem clamp_of_bounds (least : code.least ≤ value) (greatest : value ≤ code.greatest) :
    code.clamp value = value := by
  unfold clamp
  omega

theorem clamp_mono {other : Int} (below : value ≤ other) : code.clamp value ≤ code.clamp other := by
  unfold clamp
  omega

end TypeCode

namespace Element

variable {code : TypeCode}

theorem least_le_toInt (element : Element code) : code.least ≤ element.toInt := by
  unfold TypeCode.least Element.toInt
  split
  · exact BitVec.le_toInt element
  · exact Int.natCast_nonneg _

theorem toInt_le_greatest (element : Element code) : element.toInt ≤ code.greatest := by
  unfold TypeCode.greatest Element.toInt
  split
  · have below := @BitVec.toInt_lt _ element
    omega
  · have below : (element.toNat : Int) < 2 ^ code.bits := by exact_mod_cast element.isLt
    omega

theorem ofInt_toInt (element : Element code) : BitVec.ofInt code.bits element.toInt = element := by
  unfold Element.toInt
  split
  · exact BitVec.ofInt_toInt
  · rw [BitVec.ofInt_natCast, BitVec.ofNat_toNat, BitVec.setWidth_eq]

end Element
end PackedNumbers
