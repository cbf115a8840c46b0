import PackedNumbers.Fault
import PackedNumbers.Scalar

/-!
Which scalars a vector of a code takes.
-/
namespace PackedNumbers

/-- A scalar is taken if its kind is the kind of the code and, for an integer code, it lies in the
domain. The kind is judged first. -/
def check (code : TypeCode) (scalar : Scalar) : Except Fault Unit :=
  match code.domain, scalar with
  | some domain, .int value =>
    if domain.contains value.toInt then .ok ()
    else .error (.range code value.toInt domain.least domain.greatest)
  | none, .float _ => .ok ()
  | _, _ => .error (.kind code code.kind scalar.kind)

end PackedNumbers
