import PackedNumbers.FloatFormat

/-!
The shortest decimal that reads back as a given magnitude.
-/
namespace PackedNumbers

/-- The number `significand * 10 ^ exponent`. -/
structure Decimal where
  significand : Nat
  exponent : Int
  deriving DecidableEq, Repr

inductive Tie
  | upward
  | toEven
  deriving DecidableEq, Repr

namespace Decimal

/-- The doubled ends of the numbers that read back as one magnitude. -/
structure Interval where
  lower : Nat
  upper : Nat
  closed : Bool
  deriving DecidableEq, Repr

def Interval.contains (interval : Interval) (number : Nat) : Bool :=
  if interval.closed then interval.lower ≤ 2 * number && 2 * number ≤ interval.upper
  else interval.lower < 2 * number && 2 * number < interval.upper

/-- A magnitude's number is a whole multiple of `10 ^ -scale`; this is the multiple. -/
def exact (format : FloatFormat) (magnitude : Nat) : Nat :=
  format.units magnitude * 5 ^ format.scale

/-- Numbers nearer to this magnitude than to its neighbours, as multiples of `10 ^ -scale`. The
ends read back as the even one of the two magnitudes that they lie between. -/
def interval (format : FloatFormat) (magnitude : Nat) : Interval where
  lower := exact format (magnitude - 1) + exact format magnitude
  upper := exact format magnitude + exact format (magnitude + 1)
  closed := magnitude % 2 == 0

/-- The better of the two multiples of `step` around `number` that lie in the interval, if any,
as a count of steps. -/
def nearest? (tie : Tie) (interval : Interval) (number step : Nat) : Option Nat :=
  let below := number / step
  let above := below + 1
  match interval.contains (below * step), interval.contains (above * step) with
  | false, false => none
  | true, false => some below
  | false, true => some above
  | true, true =>
    match compare (number - below * step) (above * step - number), tie with
    | .lt, _ => some below
    | .gt, _ => some above
    | .eq, .upward => some above
    | .eq, .toEven => some (if below % 2 = 0 then below else above)

/-- Tries ever finer decimal grids, from steps of `10 ^ place` on; the number itself lies on the
last one. Gives a count of steps and the place of the step. -/
def search (tie : Tie) (interval : Interval) (number : Nat) : (place : Nat) → Nat × Nat
  | 0 => (number, 0)
  | place + 1 =>
    match nearest? tie interval number (10 ^ (place + 1)) with
    | some count => (count, place + 1)
    | none => search tie interval number place

/-- The decimal of fewest digits that reads back as a positive magnitude, and of those the
nearest. -/
def shortest (tie : Tie) (format : FloatFormat) (magnitude : Nat) : Decimal :=
  let number := exact format magnitude
  let (significand, place) :=
    search tie (interval format magnitude) number (Nat.toDigits 10 number).length
  ⟨significand, place - format.scale⟩

end Decimal
end PackedNumbers
