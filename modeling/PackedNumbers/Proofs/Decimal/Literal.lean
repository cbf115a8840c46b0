import PackedNumbers.Decimal.Literal

/-!
Literals: a text of digits with a point and an exponent is read as the number that its parts stand
for, and what follows it is left.
-/
namespace PackedNumbers

namespace Literal

def digitValue (char : Char) : Nat := char.toNat - '0'.toNat

theorem digit?_of_isDigit {char : Char} (digit : char.isDigit) :
    digit? char = some (digitValue char) := by
  rw [Char.isDigit, Bool.and_eq_true, decide_eq_true_eq, decide_eq_true_eq] at digit
  exact if_pos digit

theorem isDigit_of_mem_toDigits {number : Nat} {char : Char}
    (member : char ∈ Nat.toDigits 10 number) : char.isDigit :=
  Nat.isDigit_of_mem_toDigits (by decide) (by decide) member

/-- A text that goes on with none of the given characters, nor with a digit. -/
def StopsAt (marks : List Char) (text : List Char) : Prop :=
  ∀ char ∈ text.head?, digit? char = none ∧ char ∉ marks

theorem StopsAt.mono {marks more text : List Char} (stops : StopsAt more text)
    (within : marks ⊆ more) : StopsAt marks text := by
  intro char first
  obtain ⟨other, unmarked⟩ := stops char first
  exact ⟨other, fun marked => unmarked (within marked)⟩

theorem stopsAt_nil (marks : List Char) : StopsAt marks [] := by
  intro char first
  cases first

theorem stopsAt_cons {marks text : List Char} {char : Char} (other : digit? char = none)
    (unmarked : char ∉ marks) : StopsAt marks (char :: text) := by
  intro first same
  rw [List.head?_cons, Option.mem_some] at same
  subst same
  exact ⟨other, unmarked⟩

theorem digits_append {chars text : List Char} (all : ∀ char ∈ chars, char.isDigit)
    (stops : StopsAt [] text) : digits (chars ++ text) = (chars.map digitValue, text) := by
  induction chars with
  | nil =>
    cases text with
    | nil => rfl
    | cons char text =>
      have other := (stops char rfl).1
      simp only [List.nil_append, digits, other, List.map_nil]
  | cons char chars ih =>
    have digit := digit?_of_isDigit (all char List.mem_cons_self)
    have rest := ih fun other member => all other (List.mem_cons_of_mem char member)
    simp only [List.cons_append, digits, digit, rest, List.map_cons]

theorem foldl_map_digitValue (chars : List Char) :
    (chars.map digitValue).foldl (fun size digit => size * 10 + digit) 0 =
      Nat.ofDigitChars 10 chars 0 := by
  rw [List.foldl_map, Nat.ofDigitChars_eq_foldl]
  congr 1
  funext size char
  rw [Nat.mul_comm]
  rfl

end Literal

/-- A number as a text spells it: digits, digits behind a point if any, and an exponent if any, with
what stands before an exponent that is not negative. -/
structure Literal where
  isNegative : Bool
  whole : List Char
  fraction : List Char
  exponent : Option Int
  plus : List Char

namespace Literal

def fractionText (literal : Literal) : List Char :=
  if literal.fraction.isEmpty then [] else '.' :: literal.fraction

def exponentText (literal : Literal) : List Char :=
  match literal.exponent with
  | none => []
  | some exponent =>
    'e' :: ((if exponent < 0 then ['-'] else literal.plus) ++ Nat.toDigits 10 exponent.natAbs)

def unsignedText (literal : Literal) : List Char :=
  literal.whole ++ (literal.fractionText ++ literal.exponentText)

def text (literal : Literal) : List Char :=
  if literal.isNegative then '-' :: literal.unsignedText else literal.unsignedText

structure Valid (literal : Literal) : Prop where
  whole_digits : ∀ char ∈ literal.whole, char.isDigit
  fraction_digits : ∀ char ∈ literal.fraction, char.isDigit
  some_whole : literal.whole ≠ []
  leading : literal.whole.head? ≠ some '0' ∨ literal.whole.length = 1
  plus_eq : literal.plus = [] ∨ literal.plus = ['+']

variable {literal : Literal} {rest : List Char}

theorem stopsAt_exponentText (literal : Literal) (stops : StopsAt ['.', 'e', 'E'] rest) :
    StopsAt ['.'] (literal.exponentText ++ rest) := by
  unfold exponentText
  split
  · exact stops.mono (by decide)
  · exact stopsAt_cons (by decide) (by decide)

theorem stopsAt_fractionText (literal : Literal) (stops : StopsAt ['.', 'e', 'E'] rest) :
    StopsAt [] (literal.fractionText ++ (literal.exponentText ++ rest)) := by
  unfold fractionText
  split
  · exact (stopsAt_exponentText literal stops).mono (by decide)
  · exact stopsAt_cons (by decide) (by decide)

theorem fraction?_fractionText (valid : literal.Valid) (stops : StopsAt ['.'] rest) :
    fraction? (literal.fractionText ++ rest) = some (literal.fraction.map digitValue, rest) := by
  unfold fractionText
  split
  · next none =>
    rw [List.isEmpty_iff] at none
    rw [none, List.nil_append, List.map_nil]
    cases rest with
    | nil => rfl
    | cons char rest =>
      have unmarked := (stops char rfl).2
      rw [List.mem_singleton] at unmarked
      unfold fraction?
      split
      · next same =>
        cases same
        exact absurd rfl unmarked
      · rfl
  · next some_fraction =>
    have found := digits_append valid.fraction_digits (stops.mono (List.nil_subset _))
    simp only [List.cons_append, fraction?, found, List.isEmpty_map, some_fraction]
    rfl

theorem exponent?_unsigned {text : List Char} {found : List Nat}
    (unmarked : text.head? ≠ some '-' ∧ text.head? ≠ some '+')
    (read : digits text = (found, rest)) (some_digits : found.isEmpty = false) :
    exponent? ('e' :: text) =
      some (some ((found.foldl (fun size digit => size * 10 + digit) 0 : Nat) : Int), rest) := by
  rw [exponent?, if_pos (.inl rfl)]
  · simp only [read, some_digits, Bool.false_eq_true, if_false]
  · rintro after rfl
    exact unmarked.1 rfl
  · rintro after rfl
    exact unmarked.2 rfl

theorem exponent?_exponentText (valid : literal.Valid) (stops : StopsAt ['.', 'e', 'E'] rest) :
    exponent? (literal.exponentText ++ rest) = some (literal.exponent, rest) := by
  unfold exponentText
  split
  · next absent =>
    rw [absent, List.nil_append]
    cases rest with
    | nil => rfl
    | cons char rest =>
      have unmarked := (stops char rfl).2
      have other : ¬ (char = 'e' ∨ char = 'E') := by
        rintro (rfl | rfl) <;> exact unmarked (by decide)
      unfold exponent?
      exact if_neg other
  · next exponent present =>
    have found : digits (Nat.toDigits 10 exponent.natAbs ++ rest) = _ :=
      digits_append (fun _ => isDigit_of_mem_toDigits) (stops.mono (List.nil_subset _))
    have some_digits : (Nat.toDigits 10 exponent.natAbs).isEmpty = false :=
      List.isEmpty_eq_false_iff.mpr Nat.toDigits_ne_nil
    have size := foldl_map_digitValue (Nat.toDigits 10 exponent.natAbs)
    rw [Nat.ofDigitChars_ten_toDigits] at size
    rw [present]
    split
    · next negative =>
      simp only [List.cons_append, List.nil_append, exponent?, true_or, if_true, found,
        List.isEmpty_map, some_digits, size, Bool.false_eq_true, if_false]
      have back : -(exponent.natAbs : Int) = exponent := by omega
      rw [back]
    · next natural =>
      have back : (exponent.natAbs : Int) = exponent := by omega
      rcases valid.plus_eq with none | plus
      · have unmarked : ∀ mark : Char, ¬ mark.isDigit →
            (Nat.toDigits 10 exponent.natAbs ++ rest).head? ≠ some mark := by
          intro mark other first
          rw [List.head?_append, List.head?_eq_some_head Nat.toDigits_ne_nil, Option.some_or,
            Option.some_inj] at first
          rw [← first] at other
          exact other (isDigit_of_mem_toDigits (List.head_mem _))
        have read := exponent?_unsigned ⟨unmarked '-' (by decide), unmarked '+' (by decide)⟩ found
          (by rwa [List.isEmpty_map])
        rw [size, back] at read
        rw [none]
        exact read
      · simp only [plus, List.cons_append, List.nil_append, exponent?, true_or, if_true, found,
          List.isEmpty_map, some_digits, size, Bool.false_eq_true, if_false, back]

theorem Valid.head?_unsignedText (valid : literal.Valid) (rest : List Char) :
    (literal.unsignedText ++ rest).head? ≠ some '-' := by
  have all := valid.whole_digits
  cases shape : literal.whole with
  | nil => exact absurd shape valid.some_whole
  | cons char chars =>
    rw [shape] at all
    intro marked
    rw [unsignedText, shape, List.cons_append, List.cons_append, List.head?_cons] at marked
    have digit := all char List.mem_cons_self
    rw [Option.some.inj marked] at digit
    exact absurd digit (by decide)

end Literal
end PackedNumbers
