import PackedNumbers.Power

/-!
Binary floats as words: a sign bit over a magnitude, and what a magnitude counts.
-/
namespace PackedNumbers

namespace SignMagnitude

variable {width : Nat}

def negative (word : BitVec width) : Bool := word.msb

def magnitude (word : BitVec width) : Nat := word.toNat % 2 ^ (width - 1)

def word (width : Nat) (negative : Bool) (magnitude : Nat) : BitVec width :=
  BitVec.ofNat width ((if negative then 2 ^ (width - 1) else 0) + magnitude)

/-- The place of a word in the total order: negative words first and larger magnitudes farther
from zero, so different words have different ranks. -/
def rank (word : BitVec width) : Int :=
  if negative word then -(magnitude word : Int) - 1 else magnitude word

theorem magnitude_lt (word : BitVec width) : magnitude word < 2 ^ (width - 1) :=
  Nat.mod_lt _ (Nat.two_pow_pos _)

theorem toNat_eq (word : BitVec (width + 1)) :
    word.toNat = (if negative word then 2 ^ width else 0) + magnitude word := by
  have bound := word.isLt
  rw [Nat.pow_succ] at bound
  have split := Nat.div_add_mod word.toNat (2 ^ width)
  have quotient : word.toNat / 2 ^ width < 2 := Nat.div_lt_of_lt_mul (by omega)
  rw [negative, BitVec.msb_eq_decide]
  simp only [magnitude, Nat.add_sub_cancel, decide_eq_true_eq]
  split
  · next large =>
    have : word.toNat / 2 ^ width = 1 := by
      have := Nat.div_pos large (Nat.two_pow_pos width)
      omega
    rw [this] at split
    omega
  · next small => rw [Nat.mod_eq_of_lt (by omega), Nat.zero_add]

theorem word_negative_magnitude (bits : BitVec (width + 1)) :
    word (width + 1) (negative bits) (magnitude bits) = bits := by
  apply BitVec.eq_of_toNat_eq
  simp only [word, BitVec.toNat_ofNat, Nat.add_sub_cancel]
  rw [← toNat_eq, Nat.mod_eq_of_lt bits.isLt]

end SignMagnitude

/-- A binary interchange format: exponent field over fraction field, below a sign bit. -/
structure FloatFormat where
  exponentBits : Nat
  fractionBits : Nat
  deriving DecidableEq, Repr

namespace FloatFormat

def single : FloatFormat := ⟨8, 23⟩
def double : FloatFormat := ⟨11, 52⟩

/-- The magnitude of infinity: finite magnitudes lie below it and NaNs above. -/
def infinity (format : FloatFormat) : Nat :=
  (2 ^ format.exponentBits - 1) * 2 ^ format.fractionBits

/-- A unit, the least positive number of the format, is `2 ^ -scale`. -/
def scale (format : FloatFormat) : Nat :=
  2 ^ (format.exponentBits - 1) - 2 + format.fractionBits

/-- How many units a magnitude stands for. At `infinity` it is the unit count at which the next
binade would start. -/
def units (format : FloatFormat) (magnitude : Nat) : Nat :=
  let exponent := magnitude / 2 ^ format.fractionBits
  let fraction := magnitude % 2 ^ format.fractionBits
  if exponent = 0 then fraction
  else (2 ^ format.fractionBits + fraction) * 2 ^ (exponent - 1)

variable {width : Nat}

def isNaN (format : FloatFormat) (word : BitVec width) : Bool :=
  format.infinity < SignMagnitude.magnitude word

def equals (format : FloatFormat) (left right : BitVec width) : Bool :=
  !format.isNaN left && !format.isNaN right &&
    (left == right ||
      SignMagnitude.magnitude left == 0 && SignMagnitude.magnitude right == 0)

def truncate (format : FloatFormat) (magnitude : Nat) : Nat :=
  format.units magnitude / 2 ^ format.scale

def toInt (format : FloatFormat) (word : BitVec width) : Int :=
  let whole : Int := format.truncate (SignMagnitude.magnitude word)
  if format.isNaN word then 0 else if SignMagnitude.negative word then -whole else whole

end FloatFormat
end PackedNumbers
