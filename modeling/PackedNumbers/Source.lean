import PackedNumbers.Scalar

/-!
Scalars that are read one at a time, in order, only as far as the reader wants.
-/
namespace PackedNumbers

structure Source where
  size : Nat
  read : Fin size → Scalar

namespace Source

def toList (source : Source) : List Scalar := List.ofFn source.read

def ofArray (scalars : Array Scalar) : Source := ⟨scalars.size, fun position => scalars[position]⟩

def ofList (scalars : List Scalar) : Source := ofArray scalars.toArray

def range (first last : Int64) : Source where
  size := (last.toInt - first.toInt).toNat
  read position := .int (Int64.ofInt (first.toInt + position))

/-- Reads scalars into a state until one is refused or none is left. Gives the state reached and
the refusal. -/
def feed {State Refusal : Type} (judge : Scalar → Except Refusal Unit)
    (add : State → Scalar → State) (source : Source) (state : State) : State × Option Refusal :=
  go source.size (Nat.le_refl _) state
where
  go : (left : Nat) → left ≤ source.size → State → State × Option Refusal
    | 0, _, state => (state, none)
    | left + 1, within, state =>
      let scalar := source.read ⟨source.size - (left + 1), by omega⟩
      match judge scalar with
      | .ok () => go left (by omega) (add state scalar)
      | .error refusal => (state, some refusal)

def feedList {State Refusal : Type} (judge : Scalar → Except Refusal Unit)
    (add : State → Scalar → State) : List Scalar → State → State × Option Refusal
  | [], state => (state, none)
  | scalar :: scalars, state =>
    match judge scalar with
    | .ok () => feedList judge add scalars (add state scalar)
    | .error refusal => (state, some refusal)

@[simp] theorem length_toList (source : Source) : source.toList.length = source.size := by
  simp [toList]

@[simp] theorem toList_ofArray (scalars : Array Scalar) :
    (ofArray scalars).toList = scalars.toList := by
  apply List.ext_getElem <;> simp [toList, ofArray]

@[simp] theorem toList_ofList (scalars : List Scalar) : (ofList scalars).toList = scalars := by
  simp [ofList]

theorem feed_eq_feedList {State Refusal : Type} (judge : Scalar → Except Refusal Unit)
    (add : State → Scalar → State) (source : Source) (state : State) :
    source.feed judge add state = feedList judge add source.toList state := by
  have rest : ∀ (left : Nat) (within : left ≤ source.size) (state : State),
      feed.go judge add source left within state =
        feedList judge add (source.toList.drop (source.size - left)) state := by
    intro left
    induction left with
    | zero =>
      intro within state
      rw [List.drop_eq_nil_of_le (by simp)]
      rfl
    | succ left ih =>
      intro within state
      have inside : source.size - (left + 1) < source.toList.length := by simp; omega
      have next : source.size - (left + 1) + 1 = source.size - left := by omega
      rw [List.drop_eq_getElem_cons inside, next, feed.go, feedList]
      simp only [toList, List.getElem_ofFn, ih]
  simpa [feed] using rest source.size (Nat.le_refl _) state

end Source
end PackedNumbers
