import PackedNumbers.Packed
import PackedNumbers.Proofs.Element.Key

/-!
Equality as equality of numbers. A number is a place on one line where both zeros stand at the same
place; vectors are equal if they have one code, no NaN, and the same list of numbers.
-/
namespace PackedNumbers

namespace SignMagnitude

variable {width : Nat}

def number (word : BitVec width) : Int :=
  if negative word then -(magnitude word : Int) else magnitude word

/-- The total order refines the order of numbers: it only tells the two zeros apart. -/
theorem number_le_of_rank_le {left right : BitVec width} (below : rank left ≤ rank right) :
    number left ≤ number right := by
  unfold rank at below
  unfold number
  cases leftSign : negative left <;> cases rightSign : negative right <;>
    simp only [leftSign, rightSign, Bool.false_eq_true, if_true, if_false] at below ⊢ <;>
    omega

theorem number_eq_iff {left right : BitVec (width + 1)} :
    number left = number right ↔ left = right ∨ magnitude left = 0 ∧ magnitude right = 0 := by
  constructor
  · intro same
    by_cases signs : negative left = negative right
    · left
      have magnitudes : magnitude left = magnitude right := by
        unfold number at same
        rw [signs] at same
        split at same <;> omega
      rw [← word_negative_magnitude left, ← word_negative_magnitude right, signs, magnitudes]
    · right
      unfold number at same
      cases leftSign : negative left <;> cases rightSign : negative right <;>
        simp only [leftSign, rightSign, not_true_eq_false, Bool.false_eq_true, if_true,
          if_false] at same signs <;>
        omega
  · rintro (rfl | ⟨leftZero, rightZero⟩)
    · rfl
    · simp [number, leftZero, rightZero]

end SignMagnitude

theorem FloatFormat.equals_iff {width : Nat} (format : FloatFormat)
    {left right : BitVec (width + 1)} :
    format.equals left right = true ↔
      format.isNaN left = false ∧ format.isNaN right = false ∧
        SignMagnitude.number left = SignMagnitude.number right := by
  rw [SignMagnitude.number_eq_iff]
  simp [FloatFormat.equals, and_assoc]

namespace Element

variable {code : TypeCode} {left right element : Element code}

def number (element : Element code) : Int :=
  match code.kind with
  | .integer => element.toInt
  | .float => SignMagnitude.number element

def IsNumber (element : Element code) : Prop :=
  code.kind = .float → FloatFormat.single.isNaN element = false

theorem isNumber_of_integer (integer : code.kind = .integer) (element : Element code) :
    element.IsNumber := by
  intro float
  rw [integer] at float
  cases float

theorem number_le_of_key_le (below : left.key ≤ right.key) : left.number ≤ right.number := by
  unfold key at below
  unfold number
  cases kind : code.kind with
  | integer =>
    rw [kind] at below
    exact below
  | float =>
    rw [kind] at below
    exact SignMagnitude.number_le_of_rank_le below

theorem equals_iff :
    left.equals right = true ↔
      left.IsNumber ∧ right.IsNumber ∧ left.number = right.number := by
  cases kind : code.kind with
  | integer =>
    have first := isNumber_of_integer kind left
    have second := isNumber_of_integer kind right
    simp only [equals, number, kind, first, second, true_and, beq_iff_eq]
    exact ⟨congrArg toInt, toInt_injective⟩
  | float =>
    cases code <;> cases kind
    have judged := @FloatFormat.equals_iff 31 .single left right
    simp only [equals, number, IsNumber, TypeCode.kind, true_implies]
    exact judged

theorem isEqv_iff (lefts rights : List (Element code)) :
    lefts.isEqv rights equals = true ↔
      (∀ element ∈ lefts, element.IsNumber) ∧ (∀ element ∈ rights, element.IsNumber) ∧
        lefts.map number = rights.map number := by
  induction lefts generalizing rights with
  | nil => cases rights <;> simp
  | cons left lefts ih =>
    cases rights with
    | nil => simp
    | cons right rights =>
      rw [List.isEqv_cons_cons, Bool.and_eq_true, equals_iff, ih]
      simp only [List.forall_mem_cons, List.map_cons, List.cons.injEq]
      constructor
      · rintro ⟨⟨first, second, same⟩, firsts, seconds, all⟩
        exact ⟨⟨first, firsts⟩, ⟨second, seconds⟩, same, all⟩
      · rintro ⟨⟨first, firsts⟩, ⟨second, seconds⟩, same, all⟩
        exact ⟨⟨first, second, same⟩, firsts, seconds, all⟩

end Element

namespace Packed

def numbers (vector : Packed) : List Int := vector.elements.toList.map Element.number

def AllNumbers (vector : Packed) : Prop := ∀ element ∈ vector.elements.toList, element.IsNumber

/-- Equal vectors hold the same numbers under one code, and no NaN. -/
structure SameNumbers (left right : Packed) : Prop where
  code_eq : left.code = right.code
  left_numbers : left.AllNumbers
  right_numbers : right.AllNumbers
  numbers_eq : left.numbers = right.numbers

theorem equals_mk {code : TypeCode} (lefts rights : Array (Element code)) :
    equals ⟨code, lefts⟩ ⟨code, rights⟩ = lefts.toList.isEqv rights.toList Element.equals := by
  rw [Array.isEqv_toList, equals, view?_code ⟨code, rights⟩]

theorem equals_iff {left right : Packed} : left.equals right = true ↔ left.SameNumbers right := by
  by_cases same : left.code = right.code
  · cases left with
    | mk code lefts =>
      cases right with
      | mk rightCode rights =>
        cases same
        rw [equals_mk, Element.isEqv_iff]
        constructor
        · rintro ⟨leftNumbers, rightNumbers, numbers⟩
          exact ⟨rfl, leftNumbers, rightNumbers, numbers⟩
        · rintro ⟨_, leftNumbers, rightNumbers, numbers⟩
          exact ⟨leftNumbers, rightNumbers, numbers⟩
  · have differs : equals left right = false := by
      rw [equals, view?_eq_none (Ne.symm same)]
    rw [differs]
    constructor
    · intro impossible
      cases impossible
    · intro numbers
      exact absurd numbers.code_eq same

@[simp] theorem length_numbers (vector : Packed) : vector.numbers.length = vector.size := by
  simp [numbers, size]

theorem SameNumbers.size_eq {left right : Packed} (same : left.SameNumbers right) :
    left.size = right.size := by
  rw [← length_numbers, ← length_numbers, same.numbers_eq]

end Packed
end PackedNumbers
