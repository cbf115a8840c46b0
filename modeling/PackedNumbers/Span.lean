/-!
Positions and ranges of positions named from either end of a sequence.
-/
namespace PackedNumbers

/-- The positions from `start` up to, not including, `stop`. -/
structure Span where
  start : Nat
  stop : Nat
  deriving DecidableEq, Repr

namespace Span

def size (span : Span) : Nat := span.stop - span.start

def clamp (bound : Int) (size : Nat) : Nat :=
  if bound < 0 then size - bound.natAbs else min bound.toNat size

/-- The span between two bounds. An absent bound is the end it stands at, and bounds that cross
give the empty span at the start. -/
def resolve (start stop : Option Int) (size : Nat) : Span :=
  let first := start.elim 0 (clamp · size)
  let last := stop.elim size (clamp · size)
  if last ≤ first then ⟨first, first⟩ else ⟨first, last⟩

theorem clamp_le (bound : Int) (size : Nat) : clamp bound size ≤ size := by
  unfold clamp
  split <;> omega

theorem resolve_start_le (start stop : Option Int) (size : Nat) :
    (resolve start stop size).start ≤ (resolve start stop size).stop := by
  simp only [resolve]
  split <;> simp only <;> omega

theorem resolve_stop_le (start stop : Option Int) (size : Nat) :
    (resolve start stop size).stop ≤ size := by
  have first_le : start.elim 0 (clamp · size) ≤ size := by
    cases start with
    | none => exact Nat.zero_le _
    | some bound => exact clamp_le bound size
  have last_le : stop.elim size (clamp · size) ≤ size := by
    cases stop with
    | none => exact Nat.le_refl _
    | some bound => exact clamp_le bound size
  simp only [resolve]
  split <;> simp only <;> omega

end Span

def position? (index : Int) (size : Nat) : Option Nat :=
  if index < 0 then
    if index.natAbs ≤ size then some (size - index.natAbs) else none
  else if index.toNat < size then some index.toNat
  else none

theorem position?_lt {index : Int} {size position : Nat}
    (found : position? index size = some position) : position < size := by
  unfold position? at found
  split at found <;> split at found <;> simp at found <;> omega

end PackedNumbers
