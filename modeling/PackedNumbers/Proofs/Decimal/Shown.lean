import PackedNumbers.Proofs.Decimal.Fewest
import PackedNumbers.Proofs.Decimal.Spelling

/-!
The decimals that are written for doubles. They read back, with the fewest digits that do, and
whole numbers are written with a zero behind the point or with an exponent.
-/
namespace PackedNumbers.Decimal

open FloatFormat

variable {style : Style} {decimal : Decimal} {word : BitVec 64}

/-- The double is nearest to the decimal on its side of zero, and the decimal does not lie so far
out that an infinity is read. -/
structure ReadsBack (decimal : Decimal) (word : BitVec 64) : Prop where
  nearest : double.Nearest (SignMagnitude.sign (SignMagnitude.negative word) * decimal.value) word
  inside : decimal.value < 2 ^ 1024 - 2 ^ 970

theorem readsBack_iff :
    decimal.ReadsBack word ↔
      double.IsFinite word ∧ double.ofDecimal decimal = SignMagnitude.magnitude word := by
  constructor
  · rintro ⟨nearest, inside⟩
    refine ⟨nearest.finite, ?_⟩
    have below : double.ofDecimal decimal < double.infinity := by
      apply Nat.lt_of_le_of_ne (double.round_le_infinity _ _)
      intro infinite
      exact absurd (ofDecimal_double_eq_infinity_iff.mp infinite) (not_le.mpr inside)
    have room : double.ofDecimal decimal < 2 ^ 63 := Nat.lt_trans below (by decide)
    have sign := SignMagnitude.negative_word (SignMagnitude.negative word) room
    have size := SignMagnitude.magnitude_word (SignMagnitude.negative word) room
    have finite := isFinite_iff.mpr (size.trans_lt below)
    have rounded := nearest_of_ofDecimal (by decide) (by decide) finite size.symm
    rw [sign] at rounded
    rw [← size]
    exact magnitude_eq_of_value_eq (by decide) sign (rounded.value_eq nearest)
  · rintro ⟨finite, read⟩
    refine ⟨nearest_of_ofDecimal (by decide) (by decide) finite read, not_le.mp fun past => ?_⟩
    rw [ofDecimal_double_eq_infinity_iff.mpr past] at read
    exact absurd (isFinite_iff.mp finite) (Nat.not_lt_of_le (Nat.le_of_eq read))

/-- A decimal that reads back as a double. No decimal of fewer digits does, and of those of as few
digits none is nearer. -/
structure Fewest (decimal : Decimal) (word : BitVec 64) : Prop where
  reads : decimal.ReadsBack word
  digits_le : ∀ other : Decimal, other.ReadsBack word → decimal.digits ≤ other.digits
  nearest : ∀ other : Decimal, other.ReadsBack word → other.digits = decimal.digits →
    |decimal.value - abs (double.value word)| ≤ |other.value - abs (double.value word)|

theorem abs_value (word : BitVec 64) :
    |double.value word| = double.units (SignMagnitude.magnitude word) * double.unit := by
  have positive : 0 ≤ (double.units (SignMagnitude.magnitude word) : ℚ) * double.unit :=
    mul_nonneg (Nat.cast_nonneg _) double.unit_pos.le
  rw [← sign_mul_value (by decide) word] at positive ⊢
  rw [← abs_of_nonneg positive, abs_mul, SignMagnitude.abs_sign, one_mul]

theorem fewest_zero (zero : SignMagnitude.magnitude word = 0) : Fewest ⟨0, -1⟩ word where
  reads := by
    rw [readsBack_iff, isFinite_iff, zero]
    decide +kernel
  digits_le := fun other _ => digits_pos other
  nearest := by
    intro other _ _
    rw [abs_value, zero, units_zero, Nat.cast_zero, zero_mul, value, Nat.cast_zero, zero_mul,
      sub_zero, abs_zero]
    exact abs_nonneg _

theorem fewest_shortest (positive : 0 < SignMagnitude.magnitude word)
    (finite : double.IsFinite word) (tie : Tie) :
    Fewest (shortest tie .double (SignMagnitude.magnitude word)) word where
  reads := by
    obtain ⟨_, hits⟩ := exists_hits_shortest positive tie
    exact readsBack_iff.mpr
      ⟨finite, hits.ofDecimal_eq (by decide) positive (isFinite_iff.mp finite)⟩
  digits_le := fun _ read =>
    digits_shortest_le (by decide) positive (isFinite_iff.mp finite) tie (readsBack_iff.mp read).2
  nearest := by
    intro other read as_few
    rw [abs_value]
    exact shortest_nearest positive (isFinite_iff.mp finite) tie (readsBack_iff.mp read).2
      (Nat.le_of_eq as_few)

theorem value_written (style : Style) (decimal : Decimal) :
    (written style decimal).value = decimal.value := by
  unfold written
  split
  · next whole =>
    have exponent_eq : (-1 : Int) + (decimal.exponent.toNat + 1 : Nat) = decimal.exponent := by
      omega
    rw [value_shift, exponent_eq]
  · rfl

theorem exists_fewest (style : Style) (finite : double.IsFinite word) :
    ∃ decimal : Decimal, decimal.value = (style.shown word).value ∧ decimal.Fewest word := by
  unfold Style.shown
  split
  · next zero => exact ⟨_, rfl, fewest_zero zero⟩
  · next some_magnitude =>
    exact ⟨_, (value_written style _).symm,
      fewest_shortest (Nat.pos_of_ne_zero some_magnitude) finite style.tie⟩

theorem readsBack_shown (style : Style) (finite : double.IsFinite word) :
    (style.shown word).ReadsBack word := by
  obtain ⟨decimal, same, fewest⟩ := exists_fewest style finite
  have read := (readsBack_iff.mp fewest.reads).2
  rw [ofDecimal_eq_of_value_eq (by decide) same] at read
  exact readsBack_iff.mpr ⟨finite, read⟩

section Whole

variable {format : FloatFormat} {magnitude : Nat}

theorem exponent_shortest_nonneg (positive : 0 < magnitude) (tie : Tie) {whole : Nat}
    (exact_eq : exact format magnitude = whole * 10 ^ format.scale) :
    0 ≤ (shortest tie format magnitude).exponent := by
  obtain ⟨place, exponent_eq, settled⟩ := exists_settled format positive tie
  have inside := contains_exact format positive
  rcases Nat.lt_or_ge place format.scale with fractional | natural
  · obtain ⟨zeros, scale_eq⟩ := Nat.exists_eq_add_of_lt fractional
    have split : exact format magnitude = whole * 10 ^ zeros * 10 ^ (place + 1) := by
      rw [exact_eq, Nat.mul_assoc, ← Nat.pow_add, scale_eq]
      congr 2
      omega
    have later : place + 1 < firstPlace format magnitude := by
      apply (Nat.pow_lt_pow_iff_right (by decide : 1 < 10)).mp
      apply Nat.lt_of_le_of_lt _ (exact_lt_pow format magnitude)
      rw [split]
      apply Nat.le_mul_of_pos_left
      apply Nat.pos_of_ne_zero
      intro none
      rw [none, Nat.zero_mul] at split
      exact absurd (exact_pos format positive) (by rw [split]; decide)
    rw [split, settled.coarsest.resolve_left (by omega)] at inside
    cases inside
  · omega

theorem exact_eq_of_whole {whole : Int} (same : double.value word = whole) :
    exact double (SignMagnitude.magnitude word) = whole.natAbs * 10 ^ double.scale := by
  have distance : ((whole.natAbs : Nat) : ℚ) = |double.value word| := by
    rw [same, Nat.cast_natAbs, Int.cast_abs]
  rw [abs_value, value_exact, zpow_neg, zpow_natCast, ← div_eq_mul_inv,
    eq_div_iff (by positivity)] at distance
  exact_mod_cast distance.symm

def Marked (text : List Char) : Prop := ['.', '0'] <:+ text ∨ 'e' ∈ text

theorem marked_text (style : Style) (natural : 0 ≤ decimal.exponent) :
    Marked (text style decimal) := by
  simp only [text]
  split
  · left
    rw [positional, if_pos natural]
    exact List.suffix_append _ _
  · right
    rw [scientific, List.mem_append]
    exact .inr List.mem_cons_self

theorem marked_finite (style : Style) {whole : Int} (same : double.value word = whole) :
    Marked (style.finite word) := by
  have marked : Marked (if SignMagnitude.magnitude word = 0 then ['0', '.', '0']
      else text style (shortest style.tie .double (SignMagnitude.magnitude word))) := by
    split
    · exact .inl (List.suffix_cons _ _)
    · next some_magnitude =>
      exact marked_text style
        (exponent_shortest_nonneg (Nat.pos_of_ne_zero some_magnitude) _ (exact_eq_of_whole same))
  rw [Style.finite]
  split
  · exact marked.imp (fun suffix => suffix.trans (List.suffix_cons _ _)) (List.mem_cons_of_mem _)
  · exact marked

end Whole

end PackedNumbers.Decimal
