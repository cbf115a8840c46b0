import PackedNumbers.FloatFormat

/-!
Rounding of exact quotients to magnitudes: to nearest, ties to the even magnitude.
-/
namespace PackedNumbers

def nearestEven (numerator denominator : Nat) : Nat :=
  let quotient := numerator / denominator
  let twice := 2 * (numerator % denominator)
  if denominator < twice ∨ twice = denominator ∧ quotient % 2 = 1 then quotient + 1
  else quotient

namespace FloatFormat

/-- The magnitude nearest to `numerator / denominator` units. Above the least binade the grid is
`2 ^ step` units wide, and a significand that rounds up to the next power of two carries into the
exponent field by itself. -/
def round (format : FloatFormat) (numerator denominator : Nat) : Nat :=
  let step := (numerator / denominator).log2 - format.fractionBits
  min (step * 2 ^ format.fractionBits + nearestEven numerator (denominator * 2 ^ step))
    format.infinity

def ofNat (format : FloatFormat) (number : Nat) : Nat := format.round (number * 2 ^ format.scale) 1

/-- A NaN of another format: the top fraction bits stay and the quiet bit is set. -/
def convertNaN (source target : FloatFormat) (magnitude : Nat) : Nat :=
  let fraction := magnitude % 2 ^ source.fractionBits
  let moved := fraction * 2 ^ target.fractionBits / 2 ^ source.fractionBits
  target.infinity + (moved ||| 2 ^ (target.fractionBits - 1))

def convert (source target : FloatFormat) (magnitude : Nat) : Nat :=
  if source.infinity < magnitude then convertNaN source target magnitude
  else if magnitude = source.infinity then target.infinity
  else target.round (source.units magnitude * 2 ^ target.scale) (2 ^ source.scale)

def widen (word : BitVec 32) : BitVec 64 :=
  SignMagnitude.word 64 (SignMagnitude.negative word)
    (single.convert double (SignMagnitude.magnitude word))

end FloatFormat
end PackedNumbers
