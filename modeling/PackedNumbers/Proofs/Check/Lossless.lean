import PackedNumbers.Packed
import PackedNumbers.Proofs.Element.Narrowing

/-!
The check lets through exactly the integers that a code stores without loss. It is all that stands
before narrowing, which wraps, and before the conversions between kinds, which are never reached.
-/
namespace PackedNumbers

variable {code : TypeCode} {scalar : Scalar}

namespace Element

theorem toScalar_ofScalar_int_iff (integer : code.kind = .integer) {value : Int64} :
    (ofScalar code (.int value)).toScalar = .int value ↔
      code.least ≤ value.toInt ∧ value.toInt ≤ code.greatest := by
  rw [toScalar_of_integer integer]
  constructor
  · intro same
    have number : (ofScalar code (.int value)).toInt = value.toInt := by
      rw [← toInt_ofInt_toInt, Scalar.int.inj same]
    rw [← number]
    exact ⟨least_le_toInt _, toInt_le_greatest _⟩
  · rintro ⟨least, greatest⟩
    rw [ofScalar_int integer, toInt_ofInt least greatest, Int64.ofInt_toInt]

theorem exists_bounds (code : TypeCode) : ∃ first last : Element code,
    first.toInt = code.least ∧ last.toInt = code.greatest := by
  have least_le := code.least_le_greatest
  exact ⟨_, _, toInt_ofInt (Int.le_refl _) least_le, toInt_ofInt least_le (Int.le_refl _)⟩

/-- The word for a scalar of the kind of the code. There is none where the kinds differ. -/
def ofOwnKind? (code : TypeCode) (scalar : Scalar) : Option (Element code) :=
  match code.kind, scalar with
  | .integer, .int value => some (BitVec.ofInt code.bits value.toInt)
  | .float, .float word =>
    some (SignMagnitude.word code.bits (SignMagnitude.negative word)
      (FloatFormat.double.convert .single (SignMagnitude.magnitude word)))
  | _, _ => none

theorem ofOwnKind?_of_kind_eq (same : scalar.kind = code.kind) :
    ofOwnKind? code scalar = some (ofScalar code scalar) := by
  unfold ofOwnKind? ofScalar
  rw [← same]
  cases scalar <;> rfl

end Element

namespace Packed

/-- `append` without the conversions between kinds; nothing where one of them would be needed. -/
def appendOwnKind? (vector : Packed) (scalar : Scalar) : Option (Except Fault Packed) :=
  match check vector.code scalar with
  | .error fault => some (.error fault)
  | .ok () => (Element.ofOwnKind? vector.code scalar).map fun element => .ok (vector.push element)

theorem appendOwnKind?_eq_some (vector : Packed) (scalar : Scalar) :
    vector.appendOwnKind? scalar = some (vector.append scalar) := by
  rw [appendOwnKind?, append_eq]
  cases judged : check vector.code scalar with
  | error fault => rfl
  | ok =>
    rw [Element.ofOwnKind?_of_kind_eq (kind_eq_of_taken judged)]
    rfl

end Packed

/-- The check of an integer code takes exactly the integers that narrowing and widening give back,
and refuses any other with the least and the greatest number that a word of the code has. A scalar
of the other kind is refused for its kind, so appending never converts between kinds. -/
theorem check_admits_lossless (code : TypeCode) :
    (code.kind = .integer → ∃ first last : Element code,
      (∀ element : Element code, first.toInt ≤ element.toInt ∧ element.toInt ≤ last.toInt) ∧
        ∀ value : Int64,
          (check code (.int value) = .ok () ↔
            (Element.ofScalar code (.int value)).toScalar = .int value) ∧
          (check code (.int value) ≠ .ok () → check code (.int value) =
            .error (.range code value.toInt first.toInt last.toInt))) ∧
      (∀ scalar, scalar.kind ≠ code.kind →
        check code scalar = .error (.kind code code.kind scalar.kind)) ∧
      ∀ (elements : Array (Element code)) scalar,
        Packed.appendOwnKind? ⟨code, elements⟩ scalar =
          some (Packed.append ⟨code, elements⟩ scalar) := by
  refine ⟨?_, fun scalar => check_of_kind_ne, fun elements => Packed.appendOwnKind?_eq_some _⟩
  intro integer
  obtain ⟨first, last, least, greatest⟩ := Element.exists_bounds code
  refine ⟨first, last, fun element => ?_, fun value => ⟨?_, fun refused => ?_⟩⟩
  · rw [least, greatest]
    exact ⟨element.least_le_toInt, element.toInt_le_greatest⟩
  · rw [check_int_eq_ok_iff integer, Element.toScalar_ofScalar_int_iff integer]
  · rw [ne_eq, check_int_eq_ok_iff integer] at refused
    rw [check_int integer, if_neg refused, least, greatest]

/-- An integer that wraps, and a NaN, which integers have no place for. -/
theorem check_admits_lossless_wrapped :
    check .int8 (.int 200) ≠ .ok () ∧
      (Element.ofScalar .int8 (.int 200)).toScalar ≠ .int 200 ∧
      check .int8 (.float 0x7ff8000000000000) = .error (.kind .int8 .integer .float) := by
  obtain ⟨integers, kinds, _⟩ := check_admits_lossless .int8
  obtain ⟨_, _, _, values⟩ := integers rfl
  have refused : check .int8 (.int 200) ≠ .ok () := fun taken => nomatch taken
  exact ⟨refused, fun same => refused ((values 200).1.mpr same), kinds _ (by decide)⟩

end PackedNumbers
