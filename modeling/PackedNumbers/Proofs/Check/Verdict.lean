import PackedNumbers.Check
import PackedNumbers.Proofs.Element.Range

/-!
What the check says of a scalar. Nothing else opens it.
-/
namespace PackedNumbers

variable {code : TypeCode} {scalar : Scalar}

theorem check_int (integer : code.kind = .integer) (value : Int64) :
    check code (.int value) =
      if code.least ≤ value.toInt ∧ value.toInt ≤ code.greatest then .ok ()
      else .error (.range code value.toInt code.least code.greatest) := by
  unfold check
  rw [TypeCode.domain_of_integer integer]
  simp only [Domain.contains, Bool.and_eq_true, decide_eq_true_eq]

theorem check_int_eq_ok_iff (integer : code.kind = .integer) {value : Int64} :
    check code (.int value) = .ok () ↔ code.least ≤ value.toInt ∧ value.toInt ≤ code.greatest := by
  rw [check_int integer]
  split
  · next inside => exact iff_of_true rfl inside
  · next outside => exact iff_of_false (fun impossible => nomatch impossible) outside

theorem check_float (float : code.kind = .float) (word : BitVec 64) :
    check code (.float word) = .ok () := by
  unfold check
  rw [TypeCode.domain_of_float float]

theorem check_of_kind_ne (differs : scalar.kind ≠ code.kind) :
    check code scalar = .error (.kind code code.kind scalar.kind) := by
  unfold check
  cases kind : code.kind with
  | integer =>
    rw [TypeCode.domain_of_integer kind]
    cases scalar with
    | int value => exact absurd kind.symm differs
    | float word => rfl
  | float =>
    rw [TypeCode.domain_of_float kind]
    cases scalar with
    | int value => rfl
    | float word => exact absurd kind.symm differs

theorem kind_eq_of_taken (taken : check code scalar = .ok ()) : scalar.kind = code.kind := by
  by_cases same : scalar.kind = code.kind
  · exact same
  · rw [check_of_kind_ne same] at taken
    cases taken

theorem value_of_taken (integer : code.kind = .integer) (taken : check code scalar = .ok ()) :
    ∃ value, scalar = .int value ∧ code.least ≤ value.toInt ∧ value.toInt ≤ code.greatest := by
  cases scalar with
  | int value => exact ⟨value, rfl, (check_int_eq_ok_iff integer).mp taken⟩
  | float word => cases (kind_eq_of_taken taken).trans integer

theorem word_of_taken (float : code.kind = .float) (taken : check code scalar = .ok ()) :
    ∃ word, scalar = .float word := by
  cases scalar with
  | int value => cases (kind_eq_of_taken taken).trans float
  | float word => exact ⟨word, rfl⟩

end PackedNumbers
