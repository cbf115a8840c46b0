import PackedNumbers.Proofs.Element.Narrowing
import PackedNumbers.Proofs.Equality.Widened
import PackedNumbers.Proofs.Order.Canonical

/-!
Operations on equal vectors. Sorting places the two zeros apart, but the numbers of a sorted vector
are the ascending numbers of the vector, whatever the signs of its zeros.
-/
namespace PackedNumbers

def Scalar.IsNumber : Scalar → Prop
  | .int _ => True
  | .float word => FloatFormat.double.isNaN word = false

namespace Element

variable {code : TypeCode}

theorem isNumber_ofScalar {scalar : Scalar} (taken : check code scalar = .ok ())
    (isNumber : scalar.IsNumber) : (ofScalar code scalar).IsNumber := by
  cases kind : code.kind with
  | integer => exact isNumber_of_integer kind _
  | float =>
    cases code <;> cases kind
    obtain ⟨word, rfl⟩ := word_of_taken rfl taken
    intro _
    have within : SignMagnitude.magnitude word ≤ FloatFormat.double.infinity :=
      Nat.le_of_not_lt (of_decide_eq_false isNumber)
    have narrowed : FloatFormat.double.convert .single (SignMagnitude.magnitude word) ≤
        FloatFormat.single.infinity := FloatFormat.convert_le_infinity within
    have stored := SignMagnitude.magnitude_word (SignMagnitude.negative word)
      (FloatFormat.narrow_lt (.inl within))
    exact decide_eq_false (Nat.not_lt_of_le (Nat.le_trans (Nat.le_of_eq stored) narrowed))

end Element

namespace Packed

variable {left right : Packed}

theorem numbers_sort (vector : Packed) :
    vector.sort.numbers.Perm vector.numbers ∧ vector.sort.numbers.Pairwise (· ≤ ·) := by
  have arranged := Element.arranges_sortByKey vector.elements
  rw [sort_eq_sortByKey]
  refine ⟨arranged.perm.map _, ?_⟩
  rw [numbers, List.pairwise_map]
  apply arranged.ordered.imp
  intro first second below
  exact Element.number_le_of_key_le (Element.order_ne_gt_iff.mp below)

theorem allNumbers_sort {vector : Packed} (all : vector.AllNumbers) : vector.sort.AllNumbers := by
  rw [sort_eq_sortByKey]
  intro element member
  exact all element ((Element.arranges_sortByKey vector.elements).perm.subset member)

theorem SameNumbers.sort (same : left.SameNumbers right) : left.sort.SameNumbers right.sort where
  code_eq := same.code_eq
  left_numbers := allNumbers_sort same.left_numbers
  right_numbers := allNumbers_sort same.right_numbers
  numbers_eq := by
    -- Both are the ascending list of one multiset of numbers; signs of zeros do not show in it.
    obtain ⟨leftPerm, leftSorted⟩ := left.numbers_sort
    obtain ⟨rightPerm, rightSorted⟩ := right.numbers_sort
    have perm : left.sort.numbers.Perm right.sort.numbers := by
      rw [same.numbers_eq] at leftPerm
      exact leftPerm.trans rightPerm.symm
    exact perm.eq_of_pairwise (fun _ _ _ _ => Int.le_antisymm) leftSorted rightSorted

theorem numbers_slice (vector : Packed) (start stop : Option Int) :
    (vector.slice start stop).numbers =
      (vector.numbers.drop (Span.resolve start stop vector.size).start).take
        (Span.resolve start stop vector.size).size := by
  calc
    _ = ((vector.elements.toList.drop (Span.resolve start stop vector.size).start).take
        (Span.resolve start stop vector.size).size).map Element.number :=
      congrArg (List.map Element.number) (vector.toList_slice start stop)
    _ = _ := by
      rw [List.map_take, List.map_drop]
      rfl

theorem allNumbers_slice {vector : Packed} (all : vector.AllNumbers) (start stop : Option Int) :
    (vector.slice start stop).AllNumbers := by
  intro element member
  rw [toList_slice] at member
  exact all element (List.mem_of_mem_drop (List.mem_of_mem_take member))

theorem SameNumbers.slice (same : left.SameNumbers right) (start stop : Option Int) :
    (left.slice start stop).SameNumbers (right.slice start stop) where
  code_eq := same.code_eq
  left_numbers := allNumbers_slice same.left_numbers start stop
  right_numbers := allNumbers_slice same.right_numbers start stop
  numbers_eq := by rw [numbers_slice, numbers_slice, same.numbers_eq, same.size_eq]

theorem numbers_push (vector : Packed) (element : Element vector.code) :
    (vector.push element).numbers = vector.numbers ++ [element.number] := by
  simp [numbers, push]

theorem allNumbers_push_iff (vector : Packed) (element : Element vector.code) :
    (vector.push element).AllNumbers ↔ vector.AllNumbers ∧ element.IsNumber := by
  show (∀ other ∈ (vector.elements.push element).toList, other.IsNumber) ↔ _
  rw [Array.toList_push, List.forall_mem_append, List.forall_mem_singleton]
  rfl

theorem sameNumbers_push_iff {tag : TypeCode} {lefts rights : Array (Element tag)}
    {leftLast rightLast : Element tag} :
    SameNumbers (push ⟨tag, lefts⟩ leftLast) (push ⟨tag, rights⟩ rightLast) ↔
      SameNumbers ⟨tag, lefts⟩ ⟨tag, rights⟩ ∧ leftLast.equals rightLast = true := by
  constructor
  · intro same
    obtain ⟨leftAll, leftNumber⟩ := (allNumbers_push_iff ⟨tag, lefts⟩ _).mp same.left_numbers
    obtain ⟨rightAll, rightNumber⟩ := (allNumbers_push_iff ⟨tag, rights⟩ _).mp same.right_numbers
    have joined := same.numbers_eq
    rw [numbers_push, numbers_push] at joined
    obtain ⟨before, last⟩ := List.append_inj' joined rfl
    exact ⟨⟨rfl, leftAll, rightAll, before⟩,
      Element.equals_iff.mpr ⟨leftNumber, rightNumber, (List.cons.inj last).1⟩⟩
  · rintro ⟨same, last⟩
    obtain ⟨leftNumber, rightNumber, number⟩ := Element.equals_iff.mp last
    refine ⟨rfl, (allNumbers_push_iff ⟨tag, lefts⟩ _).mpr ⟨same.left_numbers, leftNumber⟩,
      (allNumbers_push_iff ⟨tag, rights⟩ _).mpr ⟨same.right_numbers, rightNumber⟩, ?_⟩
    rw [numbers_push, numbers_push, same.numbers_eq, number]

theorem SameNumbers.pop (same : left.SameNumbers right) :
    Option.Rel (fun first second => first.equals second = true) left.pop.1 right.pop.1 ∧
      left.pop.2.SameNumbers right.pop.2 := by
  cases empty : left.isEmpty with
  | true =>
    have none_left : right.isEmpty = true := by
      rw [isEmpty, ← same.size_eq]
      exact empty
    rw [eq_empty_of_isEmpty empty, eq_empty_of_isEmpty none_left] at same ⊢
    exact ⟨.none, same⟩
  | false =>
    have filled : right.isEmpty = false := by
      rw [isEmpty, ← same.size_eq]
      exact empty
    obtain ⟨⟨tag, lefts⟩, leftLast, rfl⟩ := exists_push empty
    obtain ⟨⟨other, rights⟩, rightLast, rfl⟩ := exists_push filled
    cases same.code_eq
    obtain ⟨kept, last⟩ := sameNumbers_push_iff.mp same
    rw [pop_push, pop_push]
    exact ⟨.some ((Element.equals_toScalar ..).trans last), kept⟩

theorem SameNumbers.append (same : left.SameNumbers right) (scalar : Scalar) :
    (∃ fault, left.append scalar = .error fault ∧ right.append scalar = .error fault) ∨
      ∃ leftAfter rightAfter, left.append scalar = .ok leftAfter ∧
        right.append scalar = .ok rightAfter ∧
        (scalar.IsNumber → leftAfter.SameNumbers rightAfter) := by
  obtain ⟨tag, lefts⟩ := left
  obtain ⟨other, rights⟩ := right
  cases same.code_eq
  cases judged : check tag scalar with
  | error fault =>
    left
    exact ⟨fault, append_eq_error_iff.mpr judged, append_eq_error_iff.mpr judged⟩
  | ok =>
    right
    refine ⟨_, _, append_eq_ok_iff.mpr ⟨judged, rfl⟩, append_eq_ok_iff.mpr ⟨judged, rfl⟩, ?_⟩
    intro isNumber
    have stored := Element.isNumber_ofScalar judged isNumber
    exact sameNumbers_push_iff.mpr ⟨same, Element.equals_iff.mpr ⟨stored, stored, rfl⟩⟩

/-- Equal vectors stay equal under every operation: sorted, cut, without their last elements, which
are equal scalars, and with a scalar added that is no NaN. The same scalars are refused, with the
same fault. -/
theorem equals_operations (same : left.equals right = true) :
    left.sort.equals right.sort = true ∧
      (∀ start stop, (left.slice start stop).equals (right.slice start stop) = true) ∧
      (Option.Rel (fun first second => first.equals second = true) left.pop.1 right.pop.1 ∧
        left.pop.2.equals right.pop.2 = true) ∧
      ∀ scalar,
        (∃ fault, left.append scalar = .error fault ∧ right.append scalar = .error fault) ∨
          ∃ leftAfter rightAfter, left.append scalar = .ok leftAfter ∧
            right.append scalar = .ok rightAfter ∧
            (scalar.IsNumber → leftAfter.equals rightAfter = true) := by
  rw [equals_iff] at same
  simp only [equals_iff]
  exact ⟨same.sort, same.slice, same.pop, same.append⟩

def zeros : Packed := ⟨.single, #[0x80000000, 0x3f800000, 0x00000000, 0xbf800000]⟩

def negatedZeros : Packed := ⟨.single, #[0x00000000, 0x3f800000, 0x80000000, 0xbf800000]⟩

theorem equals_operations_zeros :
    zeros.equals negatedZeros = true ∧ zeros ≠ negatedZeros ∧
      zeros.sort.equals negatedZeros.sort = true ∧
      (zeros.slice (some 1) none).equals (negatedZeros.slice (some 1) none) = true ∧
      zeros.pop.2.equals negatedZeros.pop.2 = true := by
  have same : zeros.equals negatedZeros = true := by decide
  obtain ⟨sorted, cut, ⟨_, popped⟩, _⟩ := equals_operations same
  exact ⟨same, by decide, sorted, cut (some 1) none, popped⟩

end Packed
end PackedNumbers
