import PackedNumbers.Decimal

/-!
Decimals as text: positional near one, with an exponent far from it.
-/
namespace PackedNumbers.Decimal

/-- The leading digit's exponent is at least `leastPoint` and at most `greatestPoint` where a
number is written without an exponent. -/
structure Style where
  leastPoint : Int
  greatestPoint : Int
  tie : Tie
  plus : List Char
  deriving DecidableEq, Repr

def positional (digits : List Char) (exponent : Int) : List Char :=
  let whole := digits.length + exponent
  if 0 ≤ exponent then digits ++ List.replicate exponent.toNat '0' ++ ['.', '0']
  else if 0 < whole then digits.take whole.toNat ++ '.' :: digits.drop whole.toNat
  else '0' :: '.' :: (List.replicate (-whole).toNat '0' ++ digits)

def scientific (style : Style) (digits : List Char) (leading : Int) : List Char :=
  let fraction := digits.drop 1
  let mark := if leading < 0 then ['-'] else style.plus
  digits.take 1 ++ (if fraction.isEmpty then [] else '.' :: fraction) ++
    'e' :: (mark ++ Nat.toDigits 10 leading.natAbs)

def text (style : Style) (decimal : Decimal) : List Char :=
  let digits := Nat.toDigits 10 decimal.significand
  let leading := digits.length + decimal.exponent - 1
  if style.leastPoint ≤ leading ∧ leading ≤ style.greatestPoint then
    positional digits decimal.exponent
  else scientific style digits leading

def Style.finite (style : Style) (word : BitVec 64) : List Char :=
  let magnitude := SignMagnitude.magnitude word
  let digits :=
    if magnitude = 0 then ['0', '.', '0']
    else text style (shortest style.tie .double magnitude)
  if SignMagnitude.negative word then '-' :: digits else digits

end PackedNumbers.Decimal
