/-!
Literals of numbers: digits, a point with digits, an exponent.
-/
namespace PackedNumbers.Literal

def digit? (char : Char) : Option Nat :=
  if '0' ≤ char ∧ char ≤ '9' then some (char.toNat - '0'.toNat) else none

def digits : List Char → List Nat × List Char
  | [] => ([], [])
  | char :: text =>
    match digit? char with
    | some digit =>
      let (more, rest) := digits text
      (digit :: more, rest)
    | none => ([], char :: text)

def fraction? : List Char → Option (List Nat × List Char)
  | '.' :: text =>
    let (found, rest) := digits text
    if found.isEmpty then none else some (found, rest)
  | text => some ([], text)

def exponent? : List Char → Option (Option Int × List Char)
  | mark :: text =>
    if mark = 'e' ∨ mark = 'E' then
      let (isNegative, text) :=
        match text with
        | '-' :: text => (true, text)
        | '+' :: text => (false, text)
        | text => (false, text)
      let (found, rest) := digits text
      let size : Int := (found.foldl (fun size digit => size * 10 + digit) 0 : Nat)
      if found.isEmpty then none else some (some (if isNegative then -size else size), rest)
    else some (none, mark :: text)
  | [] => some (none, [])

end PackedNumbers.Literal
