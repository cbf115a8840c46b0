import PackedNumbers.Proofs.Check.Lossless
import PackedNumbers.Proofs.Collect.Refusal
import PackedNumbers.Proofs.Slice.Single

/-!
Collecting from a supply that may never end. Scalars are read one at a time and the first one
refused is the last one read, so the outcome is known without what the supply holds behind it.
-/
namespace PackedNumbers

/-- Reads the next scalar and gives the state behind it, or nothing at the end. -/
abbrev Supply (State : Type) := State → Option (Scalar × State)

variable {State : Type} {supply : Supply State} {start state last : State}

inductive Supply.Gives (supply : Supply State) : State → List Scalar → State → Prop
  | nil {state : State} : Gives supply state [] state
  | cons {state rest last : State} {scalar : Scalar} {scalars : List Scalar}
    (read : supply state = some (scalar, rest)) (later : Gives supply rest scalars last) :
    Gives supply state (scalar :: scalars) last

/-- Appending from a supply until it ends or a scalar is refused: the outcome, and the state that
the supply is left in. -/
inductive Collects (supply : Supply State) :
    Packed → State → Except Fault Packed → State → Prop
  | ended {vector : Packed} {state : State} (none_left : supply state = none) :
    Collects supply vector state (.ok vector) state
  | refused {vector : Packed} {state rest : State} {scalar : Scalar} {fault : Fault}
    (read : supply state = some (scalar, rest)) (refusal : vector.append scalar = .error fault) :
    Collects supply vector state (.error fault) rest
  | appended {vector after : Packed} {state rest last : State} {scalar : Scalar}
    {outcome : Except Fault Packed} (read : supply state = some (scalar, rest))
    (added : vector.append scalar = .ok after) (later : Collects supply after rest outcome last) :
    Collects supply vector state outcome last

variable {vector : Packed} {outcome other : Except Fault Packed} {final : State}

theorem Collects.unique (one : Collects supply vector state outcome last)
    (two : Collects supply vector state other final) : other = outcome ∧ final = last := by
  -- At each state the supply answers once and the check judges once, so both take the same step.
  induction one with
  | ended none_left =>
    cases two with
    | ended => exact ⟨rfl, rfl⟩
    | refused read | appended read =>
      rw [none_left] at read
      cases read
  | refused read refusal =>
    cases two with
    | ended none_left =>
      rw [none_left] at read
      cases read
    | refused again refused =>
      cases read.symm.trans again
      cases refusal.symm.trans refused
      exact ⟨rfl, rfl⟩
    | appended again added =>
      cases read.symm.trans again
      cases refusal.symm.trans added
  | appended read added _ ih =>
    cases two with
    | ended none_left =>
      rw [none_left] at read
      cases read
    | refused again refused =>
      cases read.symm.trans again
      cases added.symm.trans refused
    | appended again twice later =>
      cases read.symm.trans again
      cases added.symm.trans twice
      exact ih later

namespace Source

end Source

theorem Supply.Gives.split {before after : List Scalar}
    (gives : supply.Gives start (before ++ after) last) :
    ∃ middle, supply.Gives start before middle ∧ supply.Gives middle after last := by
  induction before generalizing start with
  | nil => exact ⟨start, .nil, gives⟩
  | cons scalar before ih =>
    cases gives with
    | cons read later =>
      obtain ⟨middle, first, second⟩ := ih later
      exact ⟨middle, .cons read first, second⟩

namespace Packed

end Packed
end PackedNumbers
