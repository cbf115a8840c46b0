import PackedNumbers.Proofs.Check.Verdict
import PackedNumbers.Proofs.FloatFormat.Widening

/-!
Elements as scalars: the code takes back every scalar that it gives out, and narrows it to the word
it came from.
-/
namespace PackedNumbers

namespace SignMagnitude

variable {width magnitude : Nat}

theorem toNat_word (sign : Bool) (room : magnitude < 2 ^ width) :
    (word (width + 1) sign magnitude).toNat = (if sign then 2 ^ width else 0) + magnitude := by
  have bound : (if sign then 2 ^ width else 0) + magnitude < 2 ^ (width + 1) := by
    rw [Nat.pow_succ]
    split <;> omega
  rw [word, Nat.add_sub_cancel, BitVec.toNat_ofNat, Nat.mod_eq_of_lt bound]

theorem negative_word (sign : Bool) (room : magnitude < 2 ^ width) :
    negative (word (width + 1) sign magnitude) = sign := by
  rw [negative, BitVec.msb_eq_decide, toNat_word sign room, Nat.add_sub_cancel]
  cases sign <;> simp [room]

theorem magnitude_word (sign : Bool) (room : magnitude < 2 ^ width) :
    SignMagnitude.magnitude (word (width + 1) sign magnitude) = magnitude := by
  rw [SignMagnitude.magnitude, toNat_word sign room, Nat.add_sub_cancel]
  cases sign <;> simp [Nat.mod_eq_of_lt room]

end SignMagnitude

namespace Element

variable {code : TypeCode}

theorem toScalar_of_integer (integer : code.kind = .integer) (element : Element code) :
    element.toScalar = .int (Int64.ofInt element.toInt) := by
  rw [toScalar, integer]

theorem toInt_ofInt_toInt (element : Element code) :
    (Int64.ofInt element.toInt).toInt = element.toInt := by
  obtain ⟨least, greatest⟩ := code.range_le
  apply Int64.toInt_ofInt_of_le
  · exact Int.le_trans least element.least_le_toInt
  · exact Int.lt_of_le_of_lt element.toInt_le_greatest greatest

theorem check_toScalar (element : Element code) : check code element.toScalar = .ok () := by
  cases kind : code.kind with
  | integer =>
    rw [toScalar_of_integer kind, check_int_eq_ok_iff kind, toInt_ofInt_toInt]
    exact ⟨element.least_le_toInt, element.toInt_le_greatest⟩
  | float =>
    unfold toScalar
    rw [kind]
    exact check_float kind _

/-- A float that is no NaN, or the NaN with the quiet bit alone, of either sign. -/
def Plain (element : Element code) : Prop :=
  code.kind = .float → FloatFormat.single.isNaN element →
    element.toNat = 0x7fc00000 ∨ element.toNat = 0xffc00000

instance (element : Element code) : Decidable element.Plain :=
  inferInstanceAs (Decidable (code.kind = .float → FloatFormat.single.isNaN element = true →
    element.toNat = 0x7fc00000 ∨ element.toNat = 0xffc00000))

theorem Plain.magnitude {element : Element .single} (plain : element.Plain) :
    SignMagnitude.magnitude element ≤ FloatFormat.single.infinity ∨
      SignMagnitude.magnitude element = FloatFormat.single.quietNaN := by
  rcases Nat.lt_or_ge FloatFormat.single.infinity (SignMagnitude.magnitude element) with
    nan | within
  · right
    rcases plain rfl (decide_eq_true nan) with positive | negative
    · rw [SignMagnitude.magnitude, positive]
      rfl
    · rw [SignMagnitude.magnitude, negative]
      rfl
  · exact .inl within

theorem ofScalar_toScalar_single {element : Element .single} (plain : element.Plain) :
    ofScalar .single element.toScalar = element := by
  obtain ⟨room, back⟩ := FloatFormat.convert_convert plain.magnitude
  let widened := FloatFormat.single.convert .double (SignMagnitude.magnitude element)
  let sign := SignMagnitude.negative element
  calc
    _ = SignMagnitude.word TypeCode.single.bits
        (SignMagnitude.negative (SignMagnitude.word 64 sign widened))
        (FloatFormat.double.convert .single
          (SignMagnitude.magnitude (SignMagnitude.word 64 sign widened))) := rfl
    _ = SignMagnitude.word TypeCode.single.bits sign (SignMagnitude.magnitude element) := by
      rw [SignMagnitude.negative_word sign room, SignMagnitude.magnitude_word sign room, back]
    _ = element := SignMagnitude.word_negative_magnitude element

theorem ofScalar_toScalar {element : Element code} (plain : element.Plain) :
    ofScalar code element.toScalar = element := by
  cases kind : code.kind with
  | integer =>
    unfold ofScalar
    rw [toScalar_of_integer kind, kind]
    simp only [toInt_ofInt_toInt, ofInt_toInt]
  | float =>
    cases code with
    | single => exact ofScalar_toScalar_single plain
    | _ => cases kind

end Element
end PackedNumbers
