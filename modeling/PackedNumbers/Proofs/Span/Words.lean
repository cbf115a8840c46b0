import PackedNumbers.Proofs.Span.Bounds

/-!
Spans and positions computed in words of 64 bits: bounds and indices in signed ones, sizes and
positions in unsigned ones. No step leaves its word, so the words stand for what the integers give.
-/
namespace PackedNumbers.Span

/-- How far a signed word is from zero. The absolute value of the least word wraps round to that
word, which reads as its distance all the same. -/
def distance (bound : Int64) : UInt64 := bound.abs.toUInt64

def saturatingSub (left right : UInt64) : UInt64 := if right ≤ left then left - right else 0

def checkedSub? (left right : UInt64) : Option UInt64 :=
  if right ≤ left then some (left - right) else none

def clampWord (bound : Int64) (size : UInt64) : UInt64 :=
  if bound < 0 then saturatingSub size (distance bound)
  else if bound.toUInt64 ≤ size then bound.toUInt64
  else size

def resolveWords (start stop : Option Int64) (size : UInt64) : UInt64 × UInt64 :=
  let first := start.elim 0 (clampWord · size)
  let last := stop.elim size (clampWord · size)
  if last ≤ first then (first, first) else (first, last)

def ofWords (ends : UInt64 × UInt64) : Span := ⟨ends.1.toNat, ends.2.toNat⟩

def positionWord? (index : Int64) (size : UInt64) : Option UInt64 :=
  if index < 0 then checkedSub? size (distance index)
  else if index.toUInt64 < size then some index.toUInt64
  else none

theorem lt_zero_iff {bound : Int64} : bound < 0 ↔ bound.toInt < 0 := by
  rw [Int64.lt_iff_toInt_lt, Int64.toInt_zero]

theorem toNat_distance (bound : Int64) : (distance bound).toNat = bound.toInt.natAbs := by
  have word : (distance bound).toNat = bound.toBitVec.abs.toNat := rfl
  rw [word, BitVec.toNat_abs, ← Int64.toInt_toBitVec, BitVec.toInt_eq_msb_cond]
  split <;> omega

theorem toNat_toUInt64 {bound : Int64} (unsigned : ¬ bound < 0) :
    bound.toUInt64.toNat = bound.toInt.toNat := by
  have word : bound.toUInt64.toNat = bound.toBitVec.toNat := rfl
  rw [lt_zero_iff, ← Int64.toInt_toBitVec, BitVec.toInt_eq_toNat_cond] at unsigned
  rw [word, ← Int64.toInt_toBitVec, BitVec.toInt_eq_toNat_cond]
  split at unsigned <;> omega

theorem toNat_saturatingSub (left right : UInt64) :
    (saturatingSub left right).toNat = left.toNat - right.toNat := by
  rw [saturatingSub]
  split
  · next within => exact UInt64.toNat_sub_of_le left right within
  · next beyond =>
    rw [UInt64.le_iff_toNat_le] at beyond
    exact (Nat.sub_eq_zero_of_le (Nat.le_of_not_le beyond)).symm

theorem toNat_clampWord (bound : Int64) (size : UInt64) :
    (clampWord bound size).toNat = clamp bound.toInt size.toNat := by
  rw [clampWord, clamp]
  by_cases negative : bound < 0
  · rw [if_pos negative, if_pos (lt_zero_iff.mp negative), toNat_saturatingSub, toNat_distance]
  · rw [if_neg negative, if_neg fun below => negative (lt_zero_iff.mpr below),
      ← toNat_toUInt64 negative]
    split
    · next within => exact (Nat.min_eq_left (UInt64.le_iff_toNat_le.mp within)).symm
    · next beyond =>
      rw [UInt64.le_iff_toNat_le] at beyond
      exact (Nat.min_eq_right (Nat.le_of_not_le beyond)).symm

theorem toNat_elim_clampWord (absent : UInt64) (bound : Option Int64) (size : UInt64) :
    (bound.elim absent (clampWord · size)).toNat =
      (bound.map Int64.toInt).elim absent.toNat (clamp · size.toNat) := by
  cases bound with
  | none => rfl
  | some bound => exact toNat_clampWord bound size

theorem ofWords_resolveWords (start stop : Option Int64) (size : UInt64) :
    ofWords (resolveWords start stop size) =
      resolve (start.map Int64.toInt) (stop.map Int64.toInt) size.toNat := by
  have first : _ = (start.map Int64.toInt).elim 0 _ := toNat_elim_clampWord 0 start size
  have last := toNat_elim_clampWord size stop size
  rw [resolve_eq, ← first, ← last, resolveWords]
  split
  · next crossed =>
    rw [Nat.max_eq_left (UInt64.le_iff_toNat_le.mp crossed)]
    rfl
  · next apart =>
    rw [UInt64.le_iff_toNat_le] at apart
    rw [Nat.max_eq_right (Nat.le_of_not_le apart)]
    rfl

theorem map_toNat_checkedSub? (left right : UInt64) :
    (checkedSub? left right).map UInt64.toNat =
      if right.toNat ≤ left.toNat then some (left.toNat - right.toNat) else none := by
  rw [checkedSub?]
  simp only [UInt64.le_iff_toNat_le]
  split
  · next within => rw [Option.map_some, UInt64.toNat_sub_of_le left right within]
  · rfl

theorem map_toNat_positionWord? (index : Int64) (size : UInt64) :
    (positionWord? index size).map UInt64.toNat = position? index.toInt size.toNat := by
  rw [positionWord?, position?]
  by_cases negative : index < 0
  · rw [if_pos negative, if_pos (lt_zero_iff.mp negative), map_toNat_checkedSub?, toNat_distance]
  · rw [if_neg negative, if_neg fun below => negative (lt_zero_iff.mpr below)]
    simp only [UInt64.lt_iff_toNat_lt, toNat_toUInt64 negative]
    split
    · rw [Option.map_some, toNat_toUInt64 negative]
    · rfl

end PackedNumbers.Span
