import PackedNumbers.Decimal.Style
import PackedNumbers.Scalar

/-!
Scalars as text for people.
-/
namespace PackedNumbers.Scalar

/-- Doubles are positional from `1e-4` to below `1e16`, a half goes up, and an exponent has no
plus sign. -/
def style : Decimal.Style := ⟨-4, 15, .upward, []⟩

def intText (value : Int) : List Char :=
  if value < 0 then '-' :: Nat.toDigits 10 value.natAbs else Nat.toDigits 10 value.natAbs

def floatText (word : BitVec 64) : List Char :=
  let magnitude := SignMagnitude.magnitude word
  if FloatFormat.double.infinity < magnitude then ['N', 'a', 'N']
  else if magnitude = FloatFormat.double.infinity then
    if SignMagnitude.negative word then ['-', 'i', 'n', 'f'] else ['i', 'n', 'f']
  else style.finite word

def text : Scalar → String
  | int value => .ofList (intText value.toInt)
  | float word => .ofList (floatText word)

end PackedNumbers.Scalar
