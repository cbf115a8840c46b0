import PackedNumbers.Proofs.Cursor.Remaining
import PackedNumbers.Proofs.Equality.Widened
import PackedNumbers.Proofs.Record.RoundTrip
import PackedNumbers.Proofs.Words

/-!
Equal vectors, told from what is read of them: equal scalars place by place, one record for an
integer code, and for floats the same bit patterns but for the signs of zeros.
-/
namespace PackedNumbers

section Places

variable {α β : Type} {lefts rights : List α}

theorem isEqv_iff_places {same : α → α → Bool} :
    lefts.isEqv rights same = true ↔ lefts.length = rights.length ∧
      ∀ (place : Nat) left right, lefts[place]? = some left → rights[place]? = some right →
        same left right = true := by
  rw [List.isEqv_eq_decide]
  split
  · next sized =>
    rw [decide_eq_true_iff, and_iff_right sized]
    constructor
    · intro all place left right inLeft inRight
      obtain ⟨inside, rfl⟩ := List.getElem?_eq_some_iff.mp inLeft
      obtain ⟨_, rfl⟩ := List.getElem?_eq_some_iff.mp inRight
      exact all place inside
    · intro all place inside
      exact all place _ _ (List.getElem?_eq_getElem inside)
        (List.getElem?_eq_getElem (sized ▸ inside))
  · next differs =>
    constructor
    · intro impossible
      cases impossible
    · rintro ⟨sized, _⟩
      exact absurd sized differs

theorem map_eq_map_iff_places {image : α → β} (sized : lefts.length = rights.length) :
    lefts.map image = rights.map image ↔
      ∀ (place : Nat) left right, lefts[place]? = some left → rights[place]? = some right →
        image left = image right := by
  constructor
  · intro same place left right inLeft inRight
    have there := congrArg (·[place]?) same
    simpa [inLeft, inRight] using there
  · intro all
    apply List.ext_getElem
    · simpa using sized
    · intro place inLeft inRight
      rw [List.getElem_map, List.getElem_map]
      exact all place _ _ (List.getElem?_eq_getElem _) (List.getElem?_eq_getElem _)

end Places

def ZeroPattern (pattern : Nat) : Prop := pattern = 0x00000000 ∨ pattern = 0x80000000

namespace Element

variable {code : TypeCode}

theorem magnitude_eq_zero_iff {element : Element .single} :
    SignMagnitude.magnitude element = 0 ↔ ZeroPattern element.toNat := by
  have bound : element.toNat < 2 ^ 32 := element.isLt
  have low : SignMagnitude.magnitude element = element.toNat % 2 ^ 31 := rfl
  rw [low, ZeroPattern]
  omega

theorem number_eq_iff_patterns {left right : Element .single} :
    left.number = right.number ↔
      (left.toNat ≠ right.toNat → ZeroPattern left.toNat ∧ ZeroPattern right.toNat) := by
  have numbers : left.number = right.number ↔ left = right ∨
      SignMagnitude.magnitude left = 0 ∧ SignMagnitude.magnitude right = 0 :=
    @SignMagnitude.number_eq_iff 31 left right
  rw [numbers, magnitude_eq_zero_iff, magnitude_eq_zero_iff, ← BitVec.toNat_inj,
    Classical.or_iff_not_imp_left]

theorem number_injective_of_integer (integer : code.kind = .integer) :
    Function.Injective (number : Element code → Int) := by
  intro left right same
  unfold number at same
  rw [integer] at same
  exact toInt_injective same

theorem isEqv_map_toScalar (lefts rights : List (Element code)) :
    (lefts.map toScalar).isEqv (rights.map toScalar) Scalar.equals =
      lefts.isEqv rights equals := by
  induction lefts generalizing rights with
  | nil => cases rights <;> rfl
  | cons left lefts ih =>
    cases rights with
    | nil => rfl
    | cons right rights =>
      rw [List.map_cons, List.map_cons, List.isEqv_cons_cons, List.isEqv_cons_cons,
        equals_toScalar, ih]

end Element

namespace Packed

variable {first second third left right : Packed}

theorem SameNumbers.symm (same : left.SameNumbers right) : right.SameNumbers left :=
  ⟨same.code_eq.symm, same.right_numbers, same.left_numbers, same.numbers_eq.symm⟩

theorem SameNumbers.trans (one : first.SameNumbers second) (two : second.SameNumbers third) :
    first.SameNumbers third :=
  ⟨one.code_eq.trans two.code_eq, one.left_numbers, two.right_numbers,
    one.numbers_eq.trans two.numbers_eq⟩

theorem sameNumbers_self_iff {vector : Packed} :
    vector.SameNumbers vector ↔ vector.AllNumbers :=
  ⟨SameNumbers.left_numbers, fun all => ⟨rfl, all, all, rfl⟩⟩

theorem equals_iff_scalars :
    left.equals right = true ↔
      left.code = right.code ∧ left.scalars.isEqv right.scalars Scalar.equals = true := by
  constructor
  · intro same
    have codes := (equals_iff.mp same).code_eq
    refine ⟨codes, ?_⟩
    obtain ⟨code, lefts⟩ := left
    obtain ⟨_, rights⟩ := right
    cases codes
    rwa [scalars, scalars, Element.isEqv_map_toScalar, ← equals_mk]
  · rintro ⟨codes, same⟩
    obtain ⟨code, lefts⟩ := left
    obtain ⟨_, rights⟩ := right
    cases codes
    rwa [scalars, scalars, Element.isEqv_map_toScalar, ← equals_mk] at same

/-- Two codes never have the same words, and a word of an integer code is equal only to itself. -/
theorem equals_iff_eq_of_integer (integer : left.code.kind = .integer) :
    left.equals right = true ↔ left = right := by
  rw [equals_iff]
  constructor
  · rintro ⟨codes, _, _, numbers⟩
    obtain ⟨code, lefts⟩ := left
    obtain ⟨_, rights⟩ := right
    cases codes
    have injective := List.map_injective_iff.mpr (Element.number_injective_of_integer integer)
    exact congrArg (Packed.mk code) (Array.toList_inj.mp (injective numbers))
  · rintro rfl
    exact sameNumbers_self_iff.mpr fun element _ => Element.isNumber_of_integer integer element

theorem getElem?_words {vector : Packed} {place pattern : Nat} :
    vector.words[place]? = some pattern ↔
      ∃ element, vector.elements.toList[place]? = some element ∧ element.toNat = pattern := by
  rw [words, List.getElem?_map, Option.map_eq_some_iff]

theorem equals_iff_patterns (leftFloat : left.code = .single) (rightFloat : right.code = .single)
    (sized : left.size = right.size) :
    left.equals right = true ↔ left.AllNumbers ∧ right.AllNumbers ∧
      ∀ (place leftPattern rightPattern : Nat), left.words[place]? = some leftPattern →
        right.words[place]? = some rightPattern → leftPattern ≠ rightPattern →
          ZeroPattern leftPattern ∧ ZeroPattern rightPattern := by
  obtain ⟨code, lefts⟩ := left
  obtain ⟨other, rights⟩ := right
  subst leftFloat
  subst rightFloat
  have places : lefts.toList.map Element.number = rights.toList.map Element.number ↔ _ :=
    map_eq_map_iff_places sized
  simp only [Element.number_eq_iff_patterns] at places
  rw [equals_iff]
  constructor
  · rintro ⟨_, leftNumbers, rightNumbers, numbers⟩
    refine ⟨leftNumbers, rightNumbers, ?_⟩
    intro place leftPattern rightPattern inLeft inRight
    obtain ⟨leftElement, leftThere, rfl⟩ := getElem?_words.mp inLeft
    obtain ⟨rightElement, rightThere, rfl⟩ := getElem?_words.mp inRight
    exact places.mp numbers place leftElement rightElement leftThere rightThere
  · rintro ⟨leftNumbers, rightNumbers, patterns⟩
    refine ⟨rfl, leftNumbers, rightNumbers, places.mpr ?_⟩
    intro place leftElement rightElement leftThere rightThere
    exact patterns place _ _ (getElem?_words.mpr ⟨leftElement, leftThere, rfl⟩)
      (getElem?_words.mpr ⟨rightElement, rightThere, rfl⟩)

/-- Equality of vectors is equality of code, size and of every two scalars that walks meet at one
place, so singles are equal exactly if their doubles are. Under an integer code it is equality of
records. Between floats it allows no NaN, and other bits only where both are zeros. It is symmetric
and transitive, and a vector without a NaN, and no other, equals itself. -/
theorem equality_of_readings (left right : Packed) :
    (left.equals right = true ↔ left.code = right.code ∧ left.size = right.size ∧
      ∀ (place : Nat) leftScalar rightScalar,
        (Cursor.ofPacked left).drain[place]? = some leftScalar →
        (Cursor.ofPacked right).drain[place]? = some rightScalar →
          leftScalar.equals rightScalar = true) ∧
      (left.code.kind = .integer →
        (left.equals right = true ↔ Record.encode left = Record.encode right)) ∧
      (left.code = .single → right.code = .single → left.size = right.size →
        (left.equals right = true ↔ left.AllNumbers ∧ right.AllNumbers ∧
          ∀ (place leftPattern rightPattern : Nat), left.words[place]? = some leftPattern →
            right.words[place]? = some rightPattern → leftPattern ≠ rightPattern →
              ZeroPattern leftPattern ∧ ZeroPattern rightPattern)) ∧
      left.equals right = right.equals left ∧
      (∀ third : Packed, left.equals right = true → right.equals third = true →
        left.equals third = true) ∧
      (left.equals left = true ↔ left.AllNumbers) := by
  refine ⟨?_, ?_, equals_iff_patterns, ?_, ?_, ?_⟩
  · rw [equals_iff_scalars, isEqv_iff_places, length_scalars, length_scalars,
      Cursor.drain_eq_remaining, Cursor.drain_eq_remaining, Cursor.remaining_ofPacked,
      Cursor.remaining_ofPacked]
  · intro integer
    rw [equals_iff_eq_of_integer integer]
    exact ⟨congrArg Record.encode, Record.encode_injective⟩
  · rw [Bool.eq_iff_iff, equals_iff, equals_iff]
    exact ⟨SameNumbers.symm, SameNumbers.symm⟩
  · intro third one two
    rw [equals_iff] at one two ⊢
    exact one.trans two
  · rw [equals_iff, sameNumbers_self_iff]

def lowFloats : Packed := ⟨.single, #[0x80000000, 0x00000001, 0xff800000]⟩

def lowFloatsUnsigned : Packed := ⟨.single, #[0x00000000, 0x00000001, 0xff800000]⟩

theorem equality_of_lowFloats :
    lowFloats.size = lowFloatsUnsigned.size ∧ lowFloats.equals lowFloatsUnsigned = true ∧
      (∀ (place leftPattern rightPattern : Nat), lowFloats.words[place]? = some leftPattern →
        lowFloatsUnsigned.words[place]? = some rightPattern → leftPattern ≠ rightPattern →
          ZeroPattern leftPattern ∧ ZeroPattern rightPattern) ∧
      Record.encode lowFloats ≠ Record.encode lowFloatsUnsigned := by
  obtain ⟨_, _, patterns, _⟩ := equality_of_readings lowFloats lowFloatsUnsigned
  have same : lowFloats.equals lowFloatsUnsigned = true := by decide
  exact ⟨rfl, same, ((patterns rfl rfl rfl).mp same).2.2, by decide⟩

end Packed
end PackedNumbers
