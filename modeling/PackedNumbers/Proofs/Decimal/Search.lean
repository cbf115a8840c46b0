import PackedNumbers.Decimal

/-!
Where the search for the shortest decimal ends: on the coarsest grid with a point in the interval,
at the point nearest to the number.
-/
namespace PackedNumbers.Decimal

theorem lt_pow_length_toDigits (number : Nat) : number < 10 ^ (Nat.toDigits 10 number).length :=
  (Nat.length_toDigits_le_iff (by decide) Nat.length_toDigits_pos).mp (Nat.le_refl _)

variable {tie : Tie} {range : Interval} {number step start place count other : Nat}

theorem Interval.contains_iff :
    range.contains number = true ↔
      (range.lower < 2 * number ∨ range.closed = true ∧ range.lower = 2 * number) ∧
        (2 * number < range.upper ∨ range.closed = true ∧ 2 * number = range.upper) := by
  unfold Interval.contains
  split
  · next closed =>
    simp only [closed, Bool.and_eq_true, decide_eq_true_eq, true_and]
    omega
  · next opened =>
    simp only [opened, Bool.false_eq_true, Bool.and_eq_true, decide_eq_true_eq, false_and, or_false]

theorem Interval.contains_between {low high : Nat} (first : range.contains low = true)
    (last : range.contains high = true) (above : low ≤ number) (below : number ≤ high) :
    range.contains number = true := by
  obtain ⟨lower, _⟩ := contains_iff.mp first
  obtain ⟨_, upper⟩ := contains_iff.mp last
  apply contains_iff.mpr
  constructor
  · rcases lower with past | ⟨closed, level⟩
    · exact .inl (by omega)
    · exact (Nat.lt_or_eq_of_le (by omega)).imp_right fun same => ⟨closed, same⟩
  · rcases upper with short | ⟨closed, level⟩
    · exact .inl (by omega)
    · exact (Nat.lt_or_eq_of_le (by omega)).imp_right fun same => ⟨closed, same⟩

theorem beside_grid (number step other : Nat) :
    other * step ≤ number / step * step ∨ (number / step + 1) * step ≤ other * step := by
  rcases Nat.lt_or_ge (number / step) other with above | below
  · exact .inr (Nat.mul_le_mul_right step above)
  · exact .inl (Nat.mul_le_mul_right step below)

theorem lt_next_grid (number : Nat) (positive : 0 < step) :
    number < (number / step + 1) * step := by
  rw [Nat.succ_mul]
  exact Nat.lt_div_mul_add positive

/-- Of the two points of a grid around a number, one that lies in the interval, and the nearer one
if both do. -/
structure Beside (range : Interval) (number step count : Nat) : Prop where
  inside : range.contains (count * step) = true
  around : count = number / step ∨ count = number / step + 1
  nearer : ∀ other, other = number / step ∨ other = number / step + 1 →
    range.contains (other * step) = true →
      ((number : Int) - (count * step : Nat)).natAbs ≤
        ((number : Int) - (other * step : Nat)).natAbs

theorem nearest?_cases (tie : Tie) (range : Interval) (number : Nat) (positive : 0 < step) :
    (nearest? tie range number step = none ∧ range.contains (number / step * step) = false ∧
        range.contains ((number / step + 1) * step) = false) ∨
      ∃ count, nearest? tie range number step = some count ∧ Beside range number step count := by
  have below := Nat.div_mul_le_self number step
  have above := lt_next_grid number positive
  simp only [nearest?]
  split
  · next missedBelow missedAbove => exact .inl ⟨rfl, missedBelow, missedAbove⟩
  · next hit missed =>
    refine .inr ⟨_, rfl, hit, .inl rfl, ?_⟩
    rintro other (rfl | rfl) reached
    · exact Nat.le_refl _
    · rw [missed] at reached
      cases reached
  · next missed hit =>
    refine .inr ⟨_, rfl, hit, .inr rfl, ?_⟩
    rintro other (rfl | rfl) reached
    · rw [missed] at reached
      cases reached
    · exact Nat.le_refl _
  · next hitBelow hitAbove =>
    right
    have lower : number - number / step * step ≤ (number / step + 1) * step - number →
        Beside range number step (number / step) := by
      refine fun closer => ⟨hitBelow, .inl rfl, ?_⟩
      rintro other (rfl | rfl) _ <;> omega
    have upper : (number / step + 1) * step - number ≤ number - number / step * step →
        Beside range number step (number / step + 1) := by
      refine fun closer => ⟨hitAbove, .inr rfl, ?_⟩
      rintro other (rfl | rfl) _ <;> omega
    split
    · next closer => exact ⟨_, rfl, lower (Nat.le_of_lt (Nat.compare_eq_lt.mp closer))⟩
    · next closer => exact ⟨_, rfl, upper (Nat.le_of_lt (Nat.compare_eq_gt.mp closer))⟩
    · next level => exact ⟨_, rfl, upper (Nat.le_of_eq (Nat.compare_eq_eq.mp level).symm)⟩
    · next level =>
      split
      · exact ⟨_, rfl, lower (Nat.le_of_eq (Nat.compare_eq_eq.mp level))⟩
      · exact ⟨_, rfl, upper (Nat.le_of_eq (Nat.compare_eq_eq.mp level).symm)⟩

theorem contains_eq_false_of_missed (positive : 0 < step) (inside : range.contains number = true)
    (missedBelow : range.contains (number / step * step) = false)
    (missedAbove : range.contains ((number / step + 1) * step) = false) (other : Nat) :
    range.contains (other * step) = false := by
  have below := Nat.div_mul_le_self number step
  have above := lt_next_grid number positive
  apply Bool.eq_false_iff.mpr
  intro hit
  rcases beside_grid number step other with low | high
  · rw [Interval.contains_between hit inside low below] at missedBelow
    cases missedBelow
  · rw [Interval.contains_between inside hit (Nat.le_of_lt above) high] at missedAbove
    cases missedAbove

theorem Beside.nearest (beside : Beside range number step count) (positive : 0 < step)
    (inside : range.contains number = true) (hit : range.contains (other * step) = true) :
    ((number : Int) - (count * step : Nat)).natAbs ≤
      ((number : Int) - (other * step : Nat)).natAbs := by
  have below := Nat.div_mul_le_self number step
  have above := lt_next_grid number positive
  rcases beside_grid number step other with low | high
  · have reached := Interval.contains_between hit inside low below
    apply Nat.le_trans (beside.nearer _ (.inl rfl) reached)
    omega
  · have reached := Interval.contains_between inside hit (Nat.le_of_lt above) high
    apply Nat.le_trans (beside.nearer _ (.inr rfl) reached)
    omega

/-- A grid with no point in the interval steps over all that is left of it above the number. -/
theorem upper_le_of_missed (positive : 0 < step) (inside : range.contains number = true)
    (missed : ∀ other, range.contains (other * step) = false) :
    range.upper ≤ 2 * (number + step) := by
  apply Nat.le_of_not_lt
  intro room
  have below := Nat.div_mul_le_self number step
  have above := lt_next_grid number positive
  have next : (number / step + 1) * step = number / step * step + step := Nat.succ_mul ..
  have hit : range.contains ((number / step + 1) * step) = true := by
    rw [Interval.contains_iff] at inside ⊢
    omega
  rw [missed] at hit
  cases hit

/-- A point of the coarsest grid, from the one at `start` on, that has a point in the interval, and
of those the nearest to the number. -/
structure Settled (range : Interval) (number start count place : Nat) : Prop where
  inside : range.contains (count * 10 ^ place) = true
  count_le : count ≤ number / 10 ^ place + 1
  place_le : place ≤ start
  coarsest : place = start ∨ ∀ other, range.contains (other * 10 ^ (place + 1)) = false
  nearest : ∀ other, range.contains (other * 10 ^ place) = true →
    ((number : Int) - (count * 10 ^ place : Nat)).natAbs ≤
      ((number : Int) - (other * 10 ^ place : Nat)).natAbs

theorem settled_search (tie : Tie) (inside : range.contains number = true) (start : Nat) :
    Settled range number start (search tie range number start).1
      (search tie range number start).2 := by
  induction start with
  | zero =>
    rw [search]
    refine ⟨?_, ?_, Nat.le_refl _, .inl rfl, fun other _ => ?_⟩
    · rwa [Nat.pow_zero, Nat.mul_one]
    · rw [Nat.pow_zero, Nat.div_one]
      exact Nat.le_succ number
    · rw [Nat.pow_zero, Nat.mul_one, Int.sub_self]
      exact Nat.zero_le _
  | succ start ih =>
    have positive : 0 < 10 ^ (start + 1) := Nat.pow_pos (by decide)
    rw [search]
    -- A hit ends the search; a miss makes the next grid the coarsest that may still be hit.
    rcases nearest?_cases tie range number positive with
      ⟨found, missedBelow, missedAbove⟩ | ⟨count, found, beside⟩
    · rw [found]
      refine ⟨ih.inside, ih.count_le, Nat.le_succ_of_le ih.place_le, .inr ?_, ih.nearest⟩
      rcases ih.coarsest with last | missed
      · dsimp only
        rw [last]
        exact contains_eq_false_of_missed positive inside missedBelow missedAbove
      · exact missed
    · rw [found]
      have small : count ≤ number / 10 ^ (start + 1) + 1 := by
        rcases beside.around with rfl | rfl <;> omega
      exact ⟨beside.inside, small, Nat.le_refl _, .inl rfl,
        fun _ hit => beside.nearest positive inside hit⟩

end PackedNumbers.Decimal
