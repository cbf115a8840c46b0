import Mathlib.Data.List.Forall2
import PackedNumbers.Native
import PackedNumbers.Packed
import PackedNumbers.Proofs.Equality.Widened

/-!
The scalar that shows an element, told by its number alone: the same integer, or the double at the
place of the single. Reading a vector gives such a scalar, and so does handing over the element as a
value of its own type.
-/
namespace PackedNumbers

namespace FloatFormat

/-- A double for a float word: of the same sign, a NaN for a NaN, and for any other word at its
place on the line. -/
structure Widens {width : Nat} (word : BitVec width) (wide : BitVec 64) : Prop where
  negative_eq : SignMagnitude.negative wide = SignMagnitude.negative word
  isNaN_eq : double.isNaN wide = single.isNaN word
  extended_eq : single.isNaN word = false → double.extended wide = single.extended word

theorem negative_widen (word : BitVec 32) :
    SignMagnitude.negative (widen word) = SignMagnitude.negative word := by
  cases nan : single.isNaN word with
  | false => exact (widen_parts nan).1
  | true =>
    have beyond : single.infinity < SignMagnitude.magnitude word := of_decide_eq_true nan
    have below := (convertNaN_bounds single double (by decide) (SignMagnitude.magnitude word)).2
    rw [widen, convert, if_pos beyond]
    exact @SignMagnitude.negative_word 63 _ _ (Nat.lt_of_lt_of_le below (by decide))

theorem widens_widen (word : BitVec 32) : Widens word (widen word) :=
  ⟨negative_widen word, isNaN_widen_eq word, extended_widen⟩

theorem Widens.unique {width : Nat} {word : BitVec width} {wide other : BitVec 64}
    (number : single.isNaN word = false) (one : Widens word wide) (two : Widens word other) :
    wide = other := by
  have wideNumber : double.isNaN wide = false := one.isNaN_eq.trans number
  have otherNumber : double.isNaN other = false := two.isNaN_eq.trans number
  have places : double.extended wide = double.extended other :=
    (one.extended_eq number).trans (two.extended_eq number).symm
  have numbers :=
    (@number_eq_iff_extended_eq double 63 _ _ (by decide) wideNumber otherNumber).mpr places
  rcases SignMagnitude.number_eq_iff.mp numbers with same | ⟨zero, otherZero⟩
  · exact same
  · rw [← SignMagnitude.word_negative_magnitude wide, ← SignMagnitude.word_negative_magnitude other,
      one.negative_eq, two.negative_eq, zero, otherZero]

end FloatFormat

namespace Element

variable {code : TypeCode} {element : Element code} {scalar : Scalar}

/-- The scalar has the number of the element. -/
inductive Shows (element : Element code) : Scalar → Prop
  | integer {value : Int64} (integer : code.kind = .integer)
    (same : value.toInt = element.toInt) : Shows element (.int value)
  | float {wide : BitVec 64} (float : code.kind = .float)
    (widens : FloatFormat.Widens element wide) : Shows element (.float wide)

theorem shows_toScalar (element : Element code) : element.Shows element.toScalar := by
  cases kind : code.kind with
  | integer =>
    rw [toScalar_of_integer kind]
    exact .integer kind element.toInt_ofInt_toInt
  | float =>
    cases code <;> cases kind
    exact .float rfl (FloatFormat.widens_widen element)

theorem toScalar_eq_int (integer : code.kind = .integer) {value : Int64}
    (same : value.toInt = element.toInt) : .int value = element.toScalar := by
  rw [toScalar_of_integer integer, ← same, Int64.ofInt_toInt]

theorem Shows.eq_toScalar (shown : element.Shows scalar) (number : element.IsNumber) :
    scalar = element.toScalar := by
  have given := element.shows_toScalar
  cases shown with
  | integer integer same => exact toScalar_eq_int integer same
  | float float widens =>
    generalize element.toScalar = other at given
    cases given with
    | integer integer => exact absurd (float.symm.trans integer) (by decide)
    | float _ otherWidens => rw [widens.unique (number float) otherWidens]

theorem ofNative_ofElement (element : Element code) :
    Scalar.ofNative (.ofElement element) = element.toScalar := by
  cases code with
  | int8 => exact toScalar_eq_int rfl (Int8.toInt_toInt64 _)
  | int16 => exact toScalar_eq_int rfl (Int16.toInt_toInt64 _)
  | int32 => exact toScalar_eq_int rfl (Int32.toInt_toInt64 _)
  | uint8 | uint16 | uint32 =>
    exact toScalar_eq_int rfl (Int64.toInt_ofNat_of_lt (Nat.lt_trans element.isLt (by decide)))
  | single => rfl

end Element

theorem Packed.shown_scalars (vector : Packed) :
    List.Forall₂ Element.Shows vector.elements.toList vector.scalars := by
  rw [scalars, List.forall₂_map_right_iff, List.forall₂_same]
  intro element _
  exact element.shows_toScalar

end PackedNumbers
