import PackedNumbers.Proofs.Decimal.Literal
import PackedNumbers.Proofs.Decimal.Shortest
import PackedNumbers.Scalar.Text

/-!
The texts of decimals as literals, and the decimals that such literals are read as.
-/
namespace PackedNumbers

namespace Literal

theorem isDigit_of_mem_zeros (count : Nat) {char : Char}
    (member : char ∈ List.replicate count '0') : char.isDigit := by
  rw [List.eq_of_mem_replicate member]
  decide

theorem head?_toDigits {number : Nat} (positive : 0 < number) :
    (Nat.toDigits 10 number).head? ≠ some '0' := by
  induction number using Nat.strongRecOn with
  | ind number ih =>
    rw [Nat.toDigits_eq_if (by decide)]
    split
    · next small =>
      have all : ∀ digit < 10, 0 < digit → [Nat.digitChar digit].head? ≠ some '0' := by decide
      exact all number small positive
    · next large =>
      have first := ih (number / 10) (by omega) (by omega)
      rwa [List.head?_append, List.head?_eq_some_head Nat.toDigits_ne_nil, Option.some_or,
        ← List.head?_eq_some_head]

structure Spells (literal : Literal) (decimal : Decimal) : Prop where
  valid : literal.Valid
  significand_eq :
    Nat.ofDigitChars 10 (literal.whole ++ literal.fraction) 0 = decimal.significand
  exponent_eq : literal.exponent.getD 0 - literal.fraction.length = decimal.exponent
  marked : (literal.fraction.isEmpty && literal.exponent.isNone) = false

theorem valid_integer (isNegative : Bool) (number : Nat) :
    Literal.Valid ⟨isNegative, Nat.toDigits 10 number, [], none, []⟩ where
  whole_digits := fun _ member => isDigit_of_mem_toDigits member
  fraction_digits := fun _ member => absurd member List.not_mem_nil
  some_whole := Nat.toDigits_ne_nil
  leading := by
    rcases Nat.eq_zero_or_pos number with rfl | positive
    · exact .inr rfl
    · exact .inl (head?_toDigits positive)
  plus_eq := .inl rfl

end Literal

namespace Decimal

open Literal

variable {style : Style} {decimal : Decimal}

def Style.Positional (style : Style) (decimal : Decimal) : Prop :=
  let leading := (Nat.toDigits 10 decimal.significand).length + decimal.exponent - 1
  style.leastPoint ≤ leading ∧ leading ≤ style.greatestPoint

instance (style : Style) (decimal : Decimal) : Decidable (style.Positional decimal) :=
  inferInstanceAs (Decidable (_ ∧ _))

/-- A decimal with the digits that are written for it: a whole number without an exponent goes on
to the zero behind its point. -/
def written (style : Style) (decimal : Decimal) : Decimal :=
  if style.Positional decimal ∧ 0 ≤ decimal.exponent then
    ⟨decimal.significand * 10 ^ (decimal.exponent.toNat + 1), -1⟩
  else decimal

variable {significand : Nat} {isNegative : Bool}

theorem spells_split (isNegative : Bool) (positive : 0 < significand) {point : Nat}
    (exponent : Option Int) {plus : List Char} (plus_eq : plus = [] ∨ plus = ['+'])
    (some_whole : 0 < point)
    (marked : point < (Nat.toDigits 10 significand).length ∨ exponent.isSome) :
    Spells ⟨isNegative, (Nat.toDigits 10 significand).take point,
        (Nat.toDigits 10 significand).drop point, exponent, plus⟩
      ⟨significand, exponent.getD 0 - ((Nat.toDigits 10 significand).length - point : Nat)⟩ where
  valid := {
    whole_digits := fun _ member => isDigit_of_mem_toDigits (List.mem_of_mem_take member)
    fraction_digits := fun _ member => isDigit_of_mem_toDigits (List.mem_of_mem_drop member)
    some_whole := by
      rw [Ne, List.take_eq_nil_iff, not_or]
      exact ⟨Nat.ne_of_gt some_whole, Nat.toDigits_ne_nil⟩
    leading := by
      left
      rw [List.head?_take, if_neg (Nat.ne_of_gt some_whole)]
      exact head?_toDigits positive
    plus_eq }
  significand_eq := by
    rw [List.take_append_drop, Nat.ofDigitChars_ten_toDigits]
  exponent_eq := by rw [List.length_drop]
  marked := by
    rw [Bool.and_eq_false_iff, List.isEmpty_eq_false_iff, Ne, List.drop_eq_nil_iff,
      Option.isNone_eq_false_iff]
    exact marked.imp Nat.not_le_of_lt id

theorem spells_whole (positive : 0 < significand) (zeros : Nat) :
    Spells ⟨isNegative, Nat.toDigits 10 significand ++ List.replicate zeros '0', ['0'], none, []⟩
      ⟨significand * 10 ^ (zeros + 1), -1⟩ where
  valid := {
    whole_digits := by
      intro char member
      rcases List.mem_append.mp member with digit | zero
      · exact isDigit_of_mem_toDigits digit
      · exact isDigit_of_mem_zeros _ zero
    fraction_digits := fun _ member => isDigit_of_mem_zeros 1 member
    some_whole := List.append_ne_nil_of_left_ne_nil Nat.toDigits_ne_nil _
    leading := by
      left
      rw [List.head?_append, List.head?_eq_some_head Nat.toDigits_ne_nil, Option.some_or,
        ← List.head?_eq_some_head]
      exact head?_toDigits positive
    plus_eq := .inl rfl }
  significand_eq := by
    have zero : ['0'] = List.replicate 1 '0' := rfl
    rw [List.append_assoc, zero, List.replicate_append_replicate, Nat.ofDigitChars_append,
      Nat.ofDigitChars_ten_toDigits, Nat.ofDigitChars_replicate_zero, Nat.mul_comm]
  exponent_eq := rfl
  marked := rfl

theorem spells_below_one (isNegative : Bool) (significand zeros : Nat) :
    Spells ⟨isNegative, ['0'], List.replicate zeros '0' ++ Nat.toDigits 10 significand, none, []⟩
      ⟨significand, -(zeros + (Nat.toDigits 10 significand).length : Nat)⟩ where
  valid := {
    whole_digits := fun _ member => isDigit_of_mem_zeros 1 member
    fraction_digits := by
      intro char member
      rcases List.mem_append.mp member with zero | digit
      · exact isDigit_of_mem_zeros _ zero
      · exact isDigit_of_mem_toDigits digit
    some_whole := List.cons_ne_nil _ _
    leading := .inr rfl
    plus_eq := .inl rfl }
  significand_eq := by
    have zero : ['0'] = List.replicate 1 '0' := rfl
    rw [← List.append_assoc, zero, List.replicate_append_replicate, Nat.ofDigitChars_append,
      Nat.ofDigitChars_replicate_zero, Nat.mul_zero, Nat.ofDigitChars_ten_toDigits]
  exponent_eq := by
    rw [List.length_append, List.length_replicate, Option.getD_none, Int.zero_sub]
  marked := by
    rw [Bool.and_eq_false_iff, List.isEmpty_eq_false_iff]
    exact .inl (List.append_ne_nil_of_right_ne_nil _ Nat.toDigits_ne_nil)

theorem unsignedText_of_fraction {whole fraction : List Char} (some_fraction : fraction ≠ []) :
    (⟨isNegative, whole, fraction, none, []⟩ : Literal).unsignedText =
      whole ++ '.' :: fraction := by
  simp only [Literal.unsignedText, Literal.fractionText, Literal.exponentText,
    List.isEmpty_eq_false_iff.mpr some_fraction, Bool.false_eq_true, if_false, List.append_nil]

theorem exists_spells_fractional (isNegative : Bool) (positive : 0 < significand) {exponent : Int}
    (fractional : exponent < 0) :
    ∃ literal : Literal, literal.isNegative = isNegative ∧
      literal.unsignedText = positional (Nat.toDigits 10 significand) exponent ∧
      Spells literal ⟨significand, exponent⟩ := by
  have part : ¬ 0 ≤ exponent := Int.not_le.mpr fractional
  by_cases above : 0 < (Nat.toDigits 10 significand).length + exponent
  · obtain ⟨point, placed⟩ := Int.eq_ofNat_of_zero_le (Int.le_of_lt above)
    have some_whole : 0 < point := by omega
    have spells := spells_split isNegative positive none (.inl rfl) some_whole (.inl (by omega))
    have exponent_eq : (none : Option Int).getD 0 -
        ((Nat.toDigits 10 significand).length - point : Nat) = exponent := by
      rw [Option.getD_none]
      omega
    rw [exponent_eq] at spells
    refine ⟨_, rfl, ?_, spells⟩
    rw [unsignedText_of_fraction, positional, if_neg part, if_pos above, placed, Int.toNat_natCast]
    rw [Ne, List.drop_eq_nil_iff]
    omega
  · obtain ⟨zeros, placed⟩ := Int.eq_ofNat_of_zero_le
      (Int.neg_nonneg_of_nonpos (Int.not_lt.mp above))
    have spells := spells_below_one isNegative significand zeros
    have exponent_eq : -((zeros + (Nat.toDigits 10 significand).length : Nat) : Int) =
        exponent := by
      omega
    rw [exponent_eq] at spells
    refine ⟨_, rfl, ?_, spells⟩
    rw [unsignedText_of_fraction (List.append_ne_nil_of_right_ne_nil _ Nat.toDigits_ne_nil),
      positional, if_neg part, if_neg above, placed, Int.toNat_natCast]
    rfl

theorem exists_spells_scientific (isNegative : Bool)
    (plus_eq : style.plus = [] ∨ style.plus = ['+']) (positive : 0 < significand) (exponent : Int) :
    ∃ literal : Literal, literal.isNegative = isNegative ∧
      literal.unsignedText = scientific style (Nat.toDigits 10 significand)
        ((Nat.toDigits 10 significand).length + exponent - 1) ∧
      Spells literal ⟨significand, exponent⟩ := by
  have some_digits : 0 < (Nat.toDigits 10 significand).length := Nat.length_toDigits_pos
  have spells := spells_split isNegative positive
    (some ((Nat.toDigits 10 significand).length + exponent - 1)) plus_eq Nat.one_pos (.inr rfl)
  have exponent_eq : (some ((Nat.toDigits 10 significand).length + exponent - 1)).getD 0 -
      ((Nat.toDigits 10 significand).length - 1 : Nat) = exponent := by
    rw [Option.getD_some]
    omega
  rw [exponent_eq] at spells
  refine ⟨_, rfl, ?_, spells⟩
  simp only [Literal.unsignedText, Literal.fractionText, Literal.exponentText, scientific,
    List.append_assoc]

theorem exists_spells (isNegative : Bool) (plus_eq : style.plus = [] ∨ style.plus = ['+'])
    (positive : 0 < decimal.significand) :
    ∃ literal : Literal, literal.isNegative = isNegative ∧
      literal.unsignedText = text style decimal ∧ Spells literal (written style decimal) := by
  by_cases plain : style.Positional decimal
  · have same : text style decimal =
        positional (Nat.toDigits 10 decimal.significand) decimal.exponent := if_pos plain
    rw [same]
    rcases Int.lt_or_le decimal.exponent 0 with fractional | whole
    · have shown : written style decimal = decimal :=
        if_neg fun both => Int.not_le.mpr fractional both.2
      rw [shown]
      exact exists_spells_fractional isNegative positive fractional
    · have shown : written style decimal =
          ⟨decimal.significand * 10 ^ (decimal.exponent.toNat + 1), -1⟩ := if_pos ⟨plain, whole⟩
      rw [shown]
      refine ⟨_, rfl, ?_, spells_whole positive _⟩
      rw [unsignedText_of_fraction (List.cons_ne_nil _ _), positional, if_pos whole]
  · have same : text style decimal =
        scientific style (Nat.toDigits 10 decimal.significand)
          ((Nat.toDigits 10 decimal.significand).length + decimal.exponent - 1) := if_neg plain
    have shown : written style decimal = decimal := if_neg fun both => plain both.1
    rw [same, shown]
    exact exists_spells_scientific isNegative plus_eq positive decimal.exponent

def Style.shown (style : Style) (word : BitVec 64) : Decimal :=
  if SignMagnitude.magnitude word = 0 then ⟨0, -1⟩
  else (shortest style.tie .double (SignMagnitude.magnitude word)).written style

theorem exists_spells_finite (plus_eq : style.plus = [] ∨ style.plus = ['+']) (word : BitVec 64) :
    ∃ literal : Literal, literal.isNegative = SignMagnitude.negative word ∧
      literal.text = style.finite word ∧ Spells literal (style.shown word) := by
  have spelled : ∃ literal : Literal, literal.isNegative = SignMagnitude.negative word ∧
      literal.unsignedText = (if SignMagnitude.magnitude word = 0 then ['0', '.', '0'] else
        text style (shortest style.tie .double (SignMagnitude.magnitude word))) ∧
      Spells literal (style.shown word) := by
    by_cases zero : SignMagnitude.magnitude word = 0
    · rw [Style.shown, if_pos zero, if_pos zero]
      exact ⟨_, rfl, rfl, spells_below_one _ 0 0⟩
    · rw [Style.shown, if_neg zero, if_neg zero]
      obtain ⟨_, hits⟩ := exists_hits_shortest (Nat.pos_of_ne_zero zero) style.tie
      exact exists_spells _ plus_eq hits.positive
  obtain ⟨literal, sign, text, spells⟩ := spelled
  refine ⟨literal, sign, ?_, spells⟩
  rw [Literal.text, sign, text, Style.finite]

end Decimal

theorem Scalar.intText_eq (value : Int) :
    intText value = Literal.text
      ⟨decide (value < 0), Nat.toDigits 10 value.natAbs, [], none, []⟩ := by
  have digits : Literal.unsignedText
      ⟨decide (value < 0), Nat.toDigits 10 value.natAbs, [], none, []⟩ =
        Nat.toDigits 10 value.natAbs := List.append_nil _
  rw [Literal.text, digits, intText]
  simp only [decide_eq_true_eq]

end PackedNumbers
