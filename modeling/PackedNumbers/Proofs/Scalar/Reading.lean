import PackedNumbers.Proofs.Decimal.Shown
import PackedNumbers.Proofs.Equality.Operations

/-!
Texts of scalars read back: a text with a point or an exponent as the double nearest to its decimal,
and any other as an integer.
-/
namespace PackedNumbers

namespace Decimal

open Literal

/-- Reads digits to the end of a text, with a point and an exponent where it has them. -/
def unsigned? (text : List Char) : Option Decimal := do
  let (whole, text) := Literal.digits text
  let (fraction, text) ← fraction? text
  let (exponent, text) ← exponent? text
  if whole.isEmpty || !text.isEmpty then none
  else some ⟨(whole ++ fraction).foldl (fun size digit => size * 10 + digit) 0,
    exponent.getD 0 - fraction.length⟩

def read? : List Char → Option (Bool × Decimal)
  | '-' :: text => (unsigned? text).map (true, ·)
  | text => (unsigned? text).map (false, ·)

variable {literal : Literal} {decimal : Decimal}

theorem unsigned?_unsignedText (valid : literal.Valid) :
    unsigned? literal.unsignedText =
      some ⟨Nat.ofDigitChars 10 (literal.whole ++ literal.fraction) 0,
        literal.exponent.getD 0 - literal.fraction.length⟩ := by
  have stops := stopsAt_nil ['.', 'e', 'E']
  have whole := digits_append valid.whole_digits (literal.stopsAt_fractionText stops)
  have fraction := Literal.fraction?_fractionText valid (literal.stopsAt_exponentText stops)
  have exponent := Literal.exponent?_exponentText valid stops
  have some_whole : literal.whole.isEmpty = false := List.isEmpty_eq_false_iff.mpr valid.some_whole
  rw [List.append_nil] at whole fraction exponent
  simp only [unsigned?, Literal.unsignedText, whole, fraction, exponent, Option.bind_eq_bind,
    Option.bind_some, List.isEmpty_map, some_whole, List.isEmpty_nil, Bool.not_true, Bool.or_false,
    Bool.false_eq_true, if_false, ← List.map_append, foldl_map_digitValue, List.length_map]

theorem read?_text (valid : literal.Valid) :
    read? literal.text =
      some (literal.isNegative, ⟨Nat.ofDigitChars 10 (literal.whole ++ literal.fraction) 0,
        literal.exponent.getD 0 - literal.fraction.length⟩) := by
  cases sign : literal.isNegative
  · have unmarked := valid.head?_unsignedText []
    rw [List.append_nil] at unmarked
    rw [Literal.text, sign, if_neg Bool.false_ne_true, read?, unsigned?_unsignedText valid]
    · rfl
    · rintro rest same
      rw [same] at unmarked
      exact unmarked rfl
  · rw [Literal.text, sign, if_pos rfl, read?, unsigned?_unsignedText valid]
    rfl

theorem read?_spells (spells : Spells literal decimal) :
    read? literal.text = some (literal.isNegative, decimal) := by
  rw [read?_text spells.valid, spells.significand_eq, spells.exponent_eq]

theorem read?_finite (style : Style) (plus_eq : style.plus = [] ∨ style.plus = ['+'])
    (word : BitVec 64) :
    read? (style.finite word) = some (SignMagnitude.negative word, style.shown word) := by
  obtain ⟨literal, sign, text, spells⟩ := exists_spells_finite plus_eq word
  rw [← text, read?_spells spells, sign]

theorem mem_text_of_spells (spells : Spells literal decimal) :
    '.' ∈ literal.text ∨ 'e' ∈ literal.text := by
  have unsigned : ∀ char ∈ literal.unsignedText, char ∈ literal.text := by
    intro char member
    rw [Literal.text]
    split
    · exact List.mem_cons_of_mem _ member
    · exact member
  apply Or.imp (unsigned _) (unsigned _)
  have marked := spells.marked
  rw [Bool.and_eq_false_iff] at marked
  unfold Literal.unsignedText
  rcases marked with fraction | exponent
  · left
    rw [Literal.fractionText, if_neg (by rw [fraction]; decide)]
    exact List.mem_append_right _ (List.mem_append_left _ List.mem_cons_self)
  · right
    obtain ⟨size, present⟩ := Option.isSome_iff_exists.mp (Option.isNone_eq_false_iff.mp exponent)
    rw [Literal.exponentText, present]
    exact List.mem_append_right _ (List.mem_append_right _ List.mem_cons_self)

theorem mem_finite (style : Style) (plus_eq : style.plus = [] ∨ style.plus = ['+'])
    (word : BitVec 64) : '.' ∈ style.finite word ∨ 'e' ∈ style.finite word := by
  obtain ⟨literal, _, text, spells⟩ := exists_spells_finite plus_eq word
  rw [← text]
  exact mem_text_of_spells spells

end Decimal

namespace Scalar

open FloatFormat

/-- The scalar that a text stands for, if it is one of a number. -/
def read? (text : String) : Option Scalar :=
  match Decimal.read? text.toList with
  | some (isNegative, decimal) =>
    if '.' ∈ text.toList ∨ 'e' ∈ text.toList then
      some (float (SignMagnitude.word 64 isNegative (double.ofDecimal decimal)))
    else some (int (.ofInt (if isNegative then -decimal.significand else decimal.significand)))
  | none =>
    if text.toList = ['i', 'n', 'f'] then
      some (float (SignMagnitude.word 64 false double.infinity))
    else if text.toList = ['-', 'i', 'n', 'f'] then
      some (float (SignMagnitude.word 64 true double.infinity))
    else none

theorem isDigit_of_mem_intText {value : Int} {char : Char} (member : char ∈ intText value)
    (unsigned : char ≠ '-') : char.isDigit := by
  unfold intText at member
  split at member
  · rcases List.mem_cons.mp member with minus | digit
    · exact absurd minus unsigned
    · exact Literal.isDigit_of_mem_toDigits digit
  · exact Literal.isDigit_of_mem_toDigits member

theorem floatText_of_finite {word : BitVec 64} (finite : double.IsFinite word) :
    floatText word = style.finite word := by
  have below := isFinite_iff.mp finite
  rw [floatText, if_neg (Nat.not_lt_of_le (Nat.le_of_lt below)), if_neg (Nat.ne_of_lt below)]

theorem read?_text_int (value : Int64) : read? (int value).text = some (int value) := by
  have read := Decimal.read?_text
    (Literal.valid_integer (decide (value.toInt < 0)) value.toInt.natAbs)
  rw [← intText_eq, List.append_nil, Nat.ofDigitChars_ten_toDigits] at read
  have plain : ¬ ('.' ∈ intText value.toInt ∨ 'e' ∈ intText value.toInt) := by
    rintro (point | exponent)
    · exact absurd (isDigit_of_mem_intText point (by decide)) (by decide)
    · exact absurd (isDigit_of_mem_intText exponent (by decide)) (by decide)
  have back : (if decide (value.toInt < 0) = true then -(value.toInt.natAbs : Int)
      else value.toInt.natAbs) = value.toInt := by
    split
    · next negative =>
      have below := of_decide_eq_true negative
      omega
    · next natural =>
      rw [decide_eq_true_eq] at natural
      omega
  rw [read?, text, String.toList_ofList, read]
  simp only [plain, if_false, back, Int64.ofInt_toInt]

theorem read?_text_finite {word : BitVec 64} (finite : double.IsFinite word) :
    read? (float word).text = some (float word) := by
  have read := (Decimal.readsBack_iff.mp (Decimal.readsBack_shown style finite)).2
  have marked := Decimal.mem_finite style (.inl rfl) word
  rw [read?, text, String.toList_ofList, floatText_of_finite finite,
    Decimal.read?_finite style (.inl rfl)]
  simp only [if_pos marked, read, SignMagnitude.word_negative_magnitude]

theorem read?_text_infinity {word : BitVec 64}
    (infinite : SignMagnitude.magnitude word = double.infinity) :
    read? (float word).text = some (float word) := by
  have back := SignMagnitude.word_negative_magnitude word
  have shown : floatText word =
      if SignMagnitude.negative word then ['-', 'i', 'n', 'f'] else ['i', 'n', 'f'] := by
    rw [floatText, infinite, if_neg (Nat.lt_irrefl _), if_pos rfl]
  rw [infinite] at back
  rw [text, shown]
  cases sign : SignMagnitude.negative word <;> rw [sign] at back <;> rw [← back] <;> decide +kernel

theorem read?_text {scalar : Scalar} (isNumber : scalar.IsNumber) :
    read? scalar.text = some scalar := by
  cases scalar with
  | int value => exact read?_text_int value
  | float word =>
    have within : SignMagnitude.magnitude word ≤ double.infinity :=
      Nat.le_of_not_lt (of_decide_eq_false isNumber)
    rcases Nat.lt_or_eq_of_le within with finite | infinite
    · exact read?_text_finite (isFinite_iff.mpr finite)
    · exact read?_text_infinity infinite

theorem exists_mark (word : BitVec 64) :
    ∃ char ∈ floatText word, char ≠ '-' ∧ char.isDigit = false := by
  rw [floatText]
  split
  · exact ⟨'N', by decide, by decide, by decide⟩
  · split
    · refine ⟨'n', ?_, by decide, by decide⟩
      split <;> decide
    · rcases Decimal.mem_finite style (.inl rfl) word with point | exponent
      · exact ⟨'.', point, by decide, by decide⟩
      · exact ⟨'e', exponent, by decide, by decide⟩

theorem text_int_ne (value : Int64) (word : BitVec 64) : (int value).text ≠ (float word).text := by
  intro same
  obtain ⟨char, member, unsigned, other⟩ := exists_mark word
  rw [← String.ofList_injective same] at member
  rw [isDigit_of_mem_intText member unsigned] at other
  cases other

/-- The texts of two numbers are the same exactly if the numbers are: of one kind, and the same
word. No integer has the text of a float; a float that is whole carries a zero behind its point or
an exponent; and what is written for a finite double reads back as it, in the fewest digits that do
and, of those, the nearest. -/
theorem text_unambiguous :
    (∀ left right : Scalar, left.IsNumber → right.IsNumber →
      (left.text = right.text ↔ left = right)) ∧
    (∀ (value : Int64) (word : BitVec 64), (int value).text ≠ (float word).text) ∧
    ∀ word : BitVec 64, double.IsFinite word →
      (∀ whole : Int, double.value word = whole → Decimal.Marked (float word).text.toList) ∧
      ∃ read fewest : Decimal,
        Decimal.read? (float word).text.toList = some (SignMagnitude.negative word, read) ∧
          read.ReadsBack word ∧ fewest.value = read.value ∧ fewest.Fewest word := by
  refine ⟨fun left right leftNumber rightNumber => ?_, text_int_ne, fun word finite => ?_⟩
  · constructor
    · intro same
      have read := read?_text leftNumber
      rw [same, read?_text rightNumber] at read
      exact (Option.some.inj read).symm
    · exact congrArg text
  · have shown : (float word).text.toList = style.finite word := by
      rw [text, String.toList_ofList, floatText_of_finite finite]
    obtain ⟨fewest, same, holds⟩ := Decimal.exists_fewest style finite
    rw [shown]
    exact ⟨fun whole => Decimal.marked_finite style,
      style.shown word, fewest, Decimal.read?_finite style (.inl rfl) word,
      Decimal.readsBack_shown style finite, same, holds⟩

/-- The two zeros, the integer one and the float one, and the least positive double in one digit. -/
theorem text_unambiguous_edges :
    (float 0x0000000000000000).IsNumber ∧ (float 0x8000000000000000).IsNumber ∧
      (float 0x0000000000000000).text ≠ (float 0x8000000000000000).text ∧
      (int 1).text ≠ (float 0x3ff0000000000000).text ∧
      Decimal.Marked (float 0x3ff0000000000000).text.toList ∧
      ∃ fewest : Decimal, fewest.value = Decimal.value ⟨5, -324⟩ ∧
        fewest.Fewest (0x0000000000000001 : BitVec 64) := by
  obtain ⟨apart, kinds, finite⟩ := text_unambiguous
  have zero : (float 0x0000000000000000).IsNumber := rfl
  have negativeZero : (float 0x8000000000000000).IsNumber := rfl
  have one : double.value (0x3ff0000000000000 : BitVec 64) = (1 : Int) := by decide +kernel
  obtain ⟨_, read, fewest, text_eq, _, same, holds⟩ := finite 0x0000000000000001 (by decide)
  have digits : Decimal.read? (float 0x0000000000000001).text.toList = some (false, ⟨5, -324⟩) := by
    decide +kernel
  rw [digits] at text_eq
  cases text_eq
  exact ⟨zero, negativeZero, fun same => absurd ((apart _ _ zero negativeZero).mp same) (by decide),
    kinds 1 _, (finite _ (by decide)).1 1 one, fewest, same, holds⟩

end Scalar
end PackedNumbers
