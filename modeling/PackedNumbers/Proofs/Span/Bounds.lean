import PackedNumbers.Span

/-!
Spans as arithmetic on the integers: where a bound stands, and which span lies between two of them.
-/
namespace PackedNumbers.Span

/-- Where a bound stands. A negative bound is counted from the end and stops at zero, another one
stops at the end, and an absent one stands at a place of its own. -/
def place (absent : Int) (size : Nat) : Option Int → Int
  | none => absent
  | some bound => if bound < 0 then max (size + bound) 0 else min bound size

/-- The span from the place of one bound to the place of another. Where they cross it is empty and
stays at the first. -/
structure Between (start stop : Option Int) (size : Nat) (span : Span) : Prop where
  start_eq : (span.start : Int) = place 0 size start
  stop_eq : (span.stop : Int) = max (place 0 size start) (place size size stop)
  start_le : span.start ≤ span.stop
  stop_le : span.stop ≤ size

theorem Between.unique {start stop : Option Int} {size : Nat} {one two : Span}
    (first : Between start stop size one) (second : Between start stop size two) : one = two := by
  have starts : one.start = two.start := Int.ofNat.inj (first.start_eq.trans second.start_eq.symm)
  have stops : one.stop = two.stop := Int.ofNat.inj (first.stop_eq.trans second.stop_eq.symm)
  cases one
  cases two
  exact Span.mk.injEq .. ▸ ⟨starts, stops⟩

theorem elim_clamp (absent : Nat) (bound : Option Int) (size : Nat) :
    ((bound.elim absent (clamp · size) : Nat) : Int) = place absent size bound := by
  cases bound with
  | none => rfl
  | some bound =>
    simp only [Option.elim_some, clamp, place]
    split <;> omega

theorem resolve_eq (start stop : Option Int) (size : Nat) :
    resolve start stop size = ⟨start.elim 0 (clamp · size),
      max (start.elim 0 (clamp · size)) (stop.elim size (clamp · size))⟩ := by
  rw [resolve]
  split
  · next crossed => rw [Nat.max_eq_left crossed]
  · next apart => rw [Nat.max_eq_right (Nat.le_of_not_le apart)]

theorem between_resolve (start stop : Option Int) (size : Nat) :
    Between start stop size (resolve start stop size) where
  start_eq := by
    rw [resolve_eq]
    exact elim_clamp 0 start size
  stop_eq := by
    have first : _ = place 0 size start := elim_clamp 0 start size
    have last := elim_clamp size stop size
    rw [resolve_eq, ← first, ← last]
    dsimp only
    omega
  start_le := resolve_start_le start stop size
  stop_le := resolve_stop_le start stop size

theorem clamp_natCast {position size : Nat} (inside : position ≤ size) :
    clamp position size = position := by
  unfold clamp
  split <;> omega

theorem resolve_natCast {first last size : Nat} (ordered : first ≤ last) (inside : last ≤ size) :
    resolve (some first) (some last) size = ⟨first, last⟩ := by
  rw [resolve_eq, Option.elim_some, Option.elim_some, clamp_natCast inside,
    clamp_natCast (Nat.le_trans ordered inside), Nat.max_eq_right ordered]

theorem resolve_nested (start stop innerStart innerStop : Option Int) (size : Nat) :
    let outer := resolve start stop size
    let inner := resolve innerStart innerStop outer.size
    outer.start + inner.start ≤ outer.start + inner.stop ∧
      outer.start + inner.stop ≤ outer.stop ∧ outer.stop ≤ size := by
  intro outer inner
  have outer_ordered : outer.start ≤ outer.stop := resolve_start_le start stop size
  have inner_ordered : inner.start ≤ inner.stop := resolve_start_le innerStart innerStop outer.size
  have inside : inner.stop ≤ outer.size := resolve_stop_le innerStart innerStop outer.size
  have sized : outer.size = outer.stop - outer.start := rfl
  refine ⟨Nat.add_le_add_left inner_ordered _, ?_, resolve_stop_le start stop size⟩
  omega

theorem resolve_none_some (cut : Int) (size : Nat) :
    resolve none (some cut) size = ⟨0, clamp cut size⟩ := by
  rw [resolve_eq, Option.elim_none, Option.elim_some, Nat.zero_max]

theorem resolve_some_none (cut : Int) (size : Nat) :
    resolve (some cut) none size = ⟨clamp cut size, size⟩ := by
  rw [resolve_eq, Option.elim_none, Option.elim_some, Nat.max_eq_right (clamp_le cut size)]

end PackedNumbers.Span
