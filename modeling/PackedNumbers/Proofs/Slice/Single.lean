import PackedNumbers.Proofs.Cursor.Remaining
import PackedNumbers.Proofs.Element.Shown
import PackedNumbers.Proofs.Slice.Positions

/-!
One element, named by an index: read alone, cut out as a slice, met on a walk and seen in the view
of the words. All four agree on where the index points, and on whether it points anywhere.
-/
namespace PackedNumbers

variable {index : Int} {size position : Nat}

theorem position?_eq_some_iff :
    position? index size = some position ↔
      position < size ∧ (position : Int) = if index < 0 then size + index else index := by
  unfold position?
  split <;> split <;> simp only [Option.some.injEq, reduceCtorEq, false_iff] <;> omega

theorem position?_eq_none_iff :
    position? index size = none ↔ ¬ (-(size : Int) ≤ index ∧ index < size) := by
  unfold position?
  split <;> split <;> simp only [reduceCtorEq, true_iff, false_iff] <;> omega

namespace Span

/-- The bound behind an index. Behind the last element it is absent, as zero would be the first
position and not the end. -/
def following (index : Int) : Option Int := if index = -1 then none else some (index + 1)

theorem place_following (index : Int) (size : Nat) :
    place size size (following index) =
      if index < 0 then max (size + index + 1) 0 else min (index + 1) size := by
  unfold following
  split <;> simp only [place] <;> omega

theorem resolve_following_of_found (found : position? index size = some position) :
    resolve (some index) (following index) size = ⟨position, position + 1⟩ := by
  obtain ⟨inside, placed⟩ := position?_eq_some_iff.mp found
  have here := place_following index size
  have single : Between (some index) (following index) size ⟨position, position + 1⟩ := by
    refine ⟨?_, ?_, Nat.le_succ position, inside⟩
    · rw [place]
      dsimp only
      omega
    · rw [here, place]
      dsimp only
      omega
  exact (between_resolve _ _ _).unique single

theorem size_resolve_following_of_missing (missing : position? index size = none) :
    (resolve (some index) (following index) size).size = 0 := by
  have outside := position?_eq_none_iff.mp missing
  have between := between_resolve (some index) (following index) size
  have first := between.start_eq
  have last := between.stop_eq
  rw [place_following] at last
  simp only [place] at first last
  rw [Span.size]
  omega

theorem map_toInt_following {index : Int64} (below : index ≠ Int64.maxValue) :
    (if index = -1 then none else some (index + 1)).map Int64.toInt = following index.toInt := by
  have apart : index.toInt ≠ Int64.maxValue.toInt := fun same => below (Int64.toInt_inj.mp same)
  have bounded := index.toInt_lt
  have least := index.le_toInt
  rw [Int64.toInt_maxValue] at apart
  have next : (index + 1).toInt = index.toInt + 1 := by
    rw [Int64.toInt_add, Int64.toInt_one]
    exact Int.bmod_eq_of_le (by omega) (by omega)
  have last : index = -1 ↔ index.toInt = -1 := Int64.toInt_inj.symm
  rw [apply_ite (Option.map Int64.toInt), Option.map_none, Option.map_some, next]
  simp only [following, last]

end Span

namespace Packed

theorem get_of_found {vector : Packed} (found : position? index vector.size = some position) :
    have inside : position < vector.elements.size := position?_lt found
    vector.get index = .ok vector.elements[position].toScalar := by
  intro inside
  unfold get
  split
  · next other same =>
    obtain rfl : position = other := Option.some.inj (found.symm.trans same)
    rfl
  · next missing =>
    rw [found] at missing
    cases missing

theorem get_of_missing {vector : Packed} (missing : position? index vector.size = none) :
    vector.get index = .error (.index index vector.size) := by
  unfold get
  split
  · next found =>
    rw [missing] at found
    cases found
  · rfl

theorem slice_of_found {vector : Packed} (found : position? index vector.size = some position) :
    have inside : position < vector.elements.size := position?_lt found
    vector.slice (some index) (Span.following index) = ofElements [vector.elements[position]] := by
  intro inside
  have present : position < vector.elements.toList.length := inside
  rw [slice_eq_ofElements, Span.resolve_following_of_found found, List.drop_take,
    Nat.add_sub_cancel_left, List.drop_eq_getElem_cons present, List.take_succ_cons,
    List.take_zero, Array.getElem_toList]

theorem slice_of_missing {vector : Packed} (missing : position? index vector.size = none) :
    vector.slice (some index) (Span.following index) = empty vector.code := by
  apply eq_empty_of_isEmpty
  rw [isEmpty, size_slice, Span.size_resolve_following_of_missing missing]
  rfl

theorem drain_getElem? (vector : Packed) (inside : position < vector.elements.size) :
    (Cursor.ofPacked vector).drain[position]? = some vector.elements[position].toScalar := by
  rw [Cursor.drain_eq_remaining, Cursor.remaining_ofPacked, scalars, List.getElem?_map,
    Array.getElem?_toList, Array.getElem?_eq_getElem inside]
  rfl

def getWord? (vector : Packed) (index : Int64) (size : UInt64) : Option (Except Fault Scalar) :=
  match Span.positionWord? index size with
  | some position => vector.elements[position.toNat]?.map fun element => .ok element.toScalar
  | none => some (.error (.index index.toInt size.toNat))

theorem getWord?_eq_some {vector : Packed} {size : UInt64} (sized : size.toNat = vector.size)
    (index : Int64) : vector.getWord? index size = some (vector.get index.toInt) := by
  have word := Span.map_toNat_positionWord? index size
  rw [sized] at word
  rw [getWord?]
  cases found : Span.positionWord? index size with
  | none =>
    rw [found] at word
    rw [get_of_missing word.symm, sized]
  | some position =>
    rw [found, Option.map_some] at word
    have inside : position.toNat < vector.elements.size := position?_lt word.symm
    dsimp only
    rw [get_of_found word.symm, Array.getElem?_eq_getElem inside, Option.map_some]

/-- An index names an element exactly from the size below zero up to the size. There the element is
what the slice of that place holds and what the view shows, and a scalar with its number is what
reading alone gives and what a walk meets at that place; elsewhere reading is refused with the index
and the size, and the slice is empty. Words of 64 bits find the same. -/
theorem get_slice_walk_agree (vector : Packed) (size : UInt64) (sized : size.toNat = vector.size)
    (index : Int64) (below : index ≠ Int64.maxValue) :
    let stop := if index = -1 then none else some (index + 1)
    let single := vector.slice (some index.toInt) (stop.map Int64.toInt)
    vector.getWord? index size = some (vector.get index.toInt) ∧
      vector.copy? (Span.ofWords (Span.resolveWords (some index) stop size)) = some single ∧
      ((-(vector.size : Int) ≤ index.toInt ∧ index.toInt < vector.size ∧
        ∃ (position : Nat) (element : Element vector.code),
          (position : Int) = (if index < 0 then vector.size + index.toInt else index.toInt) ∧
          element.Shows element.toScalar ∧
          vector.get index.toInt = .ok element.toScalar ∧ single = ofElements [element] ∧
          (Cursor.ofPacked vector).drain[position]? = some element.toScalar ∧
          (vector.view? vector.code).bind (·[position]?) = some element) ∨
      (¬ (-(vector.size : Int) ≤ index.toInt ∧ index.toInt < vector.size) ∧
        vector.get index.toInt = .error (.index index.toInt vector.size) ∧
        single = empty vector.code)) := by
  intro stop single
  refine ⟨getWord?_eq_some sized index, ?_, ?_⟩
  · rw [Span.ofWords_resolveWords, sized]
    exact copy?_resolve vector _ _
  have bounds : single = vector.slice (some index.toInt) (Span.following index.toInt) :=
    congrArg (vector.slice _) (Span.map_toInt_following below)
  rw [bounds]
  cases found : position? index.toInt vector.size with
  | none =>
    exact .inr ⟨position?_eq_none_iff.mp found, get_of_missing found, slice_of_missing found⟩
  | some position =>
    obtain ⟨inside, placed⟩ := position?_eq_some_iff.mp found
    have shown : vector.elements[position]? = some vector.elements[position] :=
      Array.getElem?_eq_getElem inside
    refine .inl ⟨?_, ?_, position, vector.elements[position], ?_, Element.shows_toScalar _,
      get_of_found found, slice_of_found found, drain_getElem? vector inside, ?_⟩
    · split at placed <;> omega
    · split at placed <;> omega
    · simp only [Span.lt_zero_iff, placed]
    · rw [view?_code, Option.bind_some, shown]

theorem get_fourBytes :
    (fourBytes.get (-1) = .ok (.int 40) ∧ (Cursor.ofPacked fourBytes).drain[3]? = some (.int 40) ∧
      ∃ element : Element .uint8, element.Shows (.int 40) ∧
        fourBytes.slice (some (-1)) none = ofElements [element]) ∧
      fourBytes.get Int64.minValue.toInt = .error (.index Int64.minValue.toInt 4) := by
  constructor
  · obtain ⟨_, _, ⟨_, _, position, element, placed, shows, read, sliced, met, _⟩ | ⟨outside, _⟩⟩ :=
      get_slice_walk_agree fourBytes 4 rfl (-1) (by decide)
    · have given : fourBytes.get (-1) = .ok (.int 40) := by rfl
      have number : element.toScalar = .int 40 := Except.ok.inj (read.symm.trans given)
      have last : position = 3 := Int.ofNat_inj.mp placed
      rw [number] at shows met
      rw [last] at met
      exact ⟨given, met, element, shows, sliced⟩
    · exact absurd (by decide) outside
  · obtain ⟨_, _, ⟨least, _⟩ | ⟨_, refused, _⟩⟩ :=
      get_slice_walk_agree fourBytes 4 rfl .minValue (by decide)
    · exact absurd least (by decide)
    · exact refused

end Packed
end PackedNumbers
