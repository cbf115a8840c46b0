import PackedNumbers.Proofs.Cursor.Remaining
import PackedNumbers.Proofs.Element.Shown

/-!
Walks of a cursor: reads from either end, counts and drained copies in any order. What was read in
front, what remains and what was read behind are together the elements that were there.
-/
namespace PackedNumbers.Cursor

inductive Move
  | next
  | nextBack
  | left
  | drain
  deriving DecidableEq, Repr

inductive Answer
  | front (found : Option Scalar)
  | back (found : Option Scalar)
  | left (count : Nat)
  | rest (scalars : List Scalar)
  deriving DecidableEq, Repr

/-- What a move says, and the cursor after it. A drain empties a copy. -/
def answer (cursor : Cursor) : Move → Answer × Cursor
  | .next => (.front cursor.next.1, cursor.next.2)
  | .nextBack => (.back cursor.nextBack.1, cursor.nextBack.2)
  | .left => (.left cursor.left, cursor)
  | .drain => (.rest cursor.drain, cursor)

def walk (cursor : Cursor) : List Move → List Answer × Cursor
  | [] => ([], cursor)
  | move :: moves =>
    let (answer, after) := cursor.answer move
    let (answers, last) := after.walk moves
    (answer :: answers, last)

def fronts (answers : List Answer) : List Scalar :=
  answers.flatMap fun
    | .front found => found.toList
    | _ => []

def backs (answers : List Answer) : List Scalar :=
  answers.flatMap fun
    | .back found => found.toList
    | _ => []

def founds (answers : List Answer) : List (Option Scalar) :=
  answers.flatMap fun
    | .front found | .back found => [found]
    | .left _ | .rest _ => []

variable {before middle after : Cursor} {answers others : List Answer}

@[simp] theorem fronts_append (answers others : List Answer) :
    fronts (answers ++ others) = fronts answers ++ fronts others :=
  List.flatMap_append

@[simp] theorem backs_append (answers others : List Answer) :
    backs (answers ++ others) = backs answers ++ backs others :=
  List.flatMap_append

@[simp] theorem founds_append (answers others : List Answer) :
    founds (answers ++ others) = founds answers ++ founds others :=
  List.flatMap_append

/-- The answers between two cursors: the parts that were read, where that leaves the ends, and that
a read succeeds exactly if fewer elements were asked for before it than there were. -/
structure Reads (before : Cursor) (answers : List Answer) (after : Cursor) : Prop where
  parts : fronts answers ++ after.remaining ++ (backs answers).reverse = before.remaining
  front_eq : after.front = before.front + (fronts answers).length
  back_eq : after.back + (backs answers).length = before.back
  left_eq : after.left = before.left - (founds answers).length
  succeeds : ∀ place found, (founds answers)[place]? = some found →
    (found.isSome ↔ place < before.left)

namespace Reads

theorem refl (cursor : Cursor) : Reads cursor [] cursor where
  parts := by simp [fronts, backs]
  front_eq := rfl
  back_eq := rfl
  left_eq := rfl
  succeeds := by simp [founds]

theorem lengths_eq (reads : Reads before answers after) :
    (fronts answers).length + after.left + (backs answers).length = before.left := by
  have lengths := congrArg List.length reads.parts
  rwa [List.length_append, List.length_append, List.length_reverse, length_remaining,
    length_remaining] at lengths

theorem trans (one : Reads before answers middle) (two : Reads middle others after) :
    Reads before (answers ++ others) after where
  parts := by
    calc
      _ = fronts answers ++ (fronts others ++ after.remaining ++ (backs others).reverse) ++
          (backs answers).reverse := by
        simp
      _ = before.remaining := by rw [two.parts, one.parts]
  front_eq := by
    rw [two.front_eq, one.front_eq, fronts_append, List.length_append, Nat.add_assoc]
  back_eq := by
    rw [← one.back_eq, ← two.back_eq, backs_append, List.length_append]
    omega
  left_eq := by
    rw [two.left_eq, one.left_eq, founds_append, List.length_append, Nat.sub_sub]
  succeeds := by
    intro place found here
    rw [founds_append] at here
    rcases Nat.lt_or_ge place (founds answers).length with early | late
    · rw [List.getElem?_append_left early] at here
      exact one.succeeds place found here
    · rw [List.getElem?_append_right late] at here
      rw [two.succeeds _ found here, one.left_eq]
      omega

theorem read_eq_min (reads : Reads before answers after) :
    (fronts answers).length + (backs answers).length =
      min before.left (founds answers).length := by
  have lengths := reads.lengths_eq
  have left := reads.left_eq
  omega

theorem fused (reads : Reads before answers after) :
    (founds answers).Pairwise fun earlier later => earlier = none → later = none := by
  rw [List.pairwise_iff_getElem]
  intro early late earlyInside lateInside ordered missed
  have first := reads.succeeds early _ (List.getElem?_eq_getElem earlyInside)
  have second := reads.succeeds late _ (List.getElem?_eq_getElem lateInside)
  rw [missed, Option.isSome_none] at first
  have exhausted : before.left ≤ early := by simpa using first
  have beyond : ¬ late < before.left := by omega
  rw [← Option.not_isSome_iff_eq_none, second]
  exact beyond

theorem front_le_back (reads : Reads before answers after) (ordered : before.front ≤ before.back) :
    after.front ≤ after.back := by
  have lengths := reads.lengths_eq
  have front := reads.front_eq
  have back := reads.back_eq
  simp only [left] at lengths
  omega

end Reads

theorem succeeds_singleton {verdict : Option Scalar} {count : Nat}
    (first : verdict.isSome ↔ 0 < count) (place : Nat) (found : Option Scalar)
    (here : [verdict][place]? = some found) : found.isSome ↔ place < count := by
  obtain ⟨rfl, rfl⟩ : place = 0 ∧ verdict = found := by
    simpa [List.getElem?_singleton] using here
  exact first

theorem reads_front {scalar : Scalar} (apart : before.front < before.back)
    (taken : before.remaining = scalar :: after.remaining)
    (front : after.front = before.front + 1) (back : after.back = before.back) :
    Reads before [.front (some scalar)] after where
  parts := by simp [fronts, backs, taken]
  front_eq := front
  back_eq := back
  left_eq := by
    simp only [founds, left, List.flatMap_singleton, List.length_singleton]
    omega
  succeeds := succeeds_singleton (by simpa [left, Nat.sub_pos_iff_lt] using apart)

theorem reads_back {scalar : Scalar} (apart : before.front < before.back)
    (taken : before.remaining = after.remaining ++ [scalar])
    (front : after.front = before.front) (back : after.back + 1 = before.back) :
    Reads before [.back (some scalar)] after where
  parts := by simp [fronts, backs, taken]
  front_eq := front
  back_eq := back
  left_eq := by
    simp only [founds, left, List.flatMap_singleton, List.length_singleton]
    omega
  succeeds := succeeds_singleton (by simpa [left, Nat.sub_pos_iff_lt] using apart)

theorem reads_nothing {cursor : Cursor} (met : cursor.back ≤ cursor.front) {answer : Answer}
    (nothing : answer = .front none ∨ answer = .back none) : Reads cursor [answer] cursor := by
  have none_left : cursor.left = 0 := Nat.sub_eq_zero_of_le met
  have fails : (none : Option Scalar).isSome ↔ 0 < cursor.left := by simp [none_left]
  rcases nothing with rfl | rfl
  all_goals
    constructor
    case succeeds => exact succeeds_singleton fails
    all_goals simp [fronts, backs, founds, none_left]

theorem reads_answer (cursor : Cursor) (move : Move) :
    Reads cursor [(cursor.answer move).1] (cursor.answer move).2 := by
  cases move with
  | next =>
    rcases cursor.next_cases with ⟨scalar, rest, apart, read, taken, front, back⟩ | ⟨met, read⟩
    · rw [answer, read]
      exact reads_front apart taken front back
    · rw [answer, read]
      exact reads_nothing met (.inl rfl)
  | nextBack =>
    rcases cursor.nextBack_cases with ⟨scalar, rest, apart, read, taken, front, back⟩ | ⟨met, read⟩
    · rw [answer, read]
      exact reads_back apart taken front back
    · rw [answer, read]
      exact reads_nothing met (.inr rfl)
  | left | drain =>
    constructor <;>
      simp [answer, fronts, backs, founds]

theorem reads_walk (cursor : Cursor) (moves : List Move) :
    Reads cursor (cursor.walk moves).1 (cursor.walk moves).2 := by
  induction moves generalizing cursor with
  | nil => exact .refl cursor
  | cons move moves ih => exact (reads_answer cursor move).trans (ih (cursor.answer move).2)

theorem length_founds_walk (cursor : Cursor) (moves : List Move) :
    (founds (cursor.walk moves).1).length = moves.count .next + moves.count .nextBack := by
  induction moves generalizing cursor with
  | nil => rfl
  | cons move moves ih =>
    have first : (founds [(cursor.answer move).1]).length =
        [move].count .next + [move].count .nextBack := by
      cases move <;> rfl
    calc
      _ = (founds [(cursor.answer move).1]).length +
          (founds ((cursor.answer move).2.walk moves).1).length := by
        rw [← List.length_append, ← founds_append]
        rfl
      _ = ([move] ++ moves).count .next + ([move] ++ moves).count .nextBack := by
        rw [first, ih, List.count_append, List.count_append]
        omega

theorem walk_append_singleton (cursor : Cursor) (moves : List Move) (move : Move) :
    cursor.walk (moves ++ [move]) =
      ((cursor.walk moves).1 ++ [((cursor.walk moves).2.answer move).1],
        ((cursor.walk moves).2.answer move).2) := by
  induction moves generalizing cursor with
  | nil => rfl
  | cons first moves ih =>
    simp only [List.cons_append, walk, ih (cursor.answer first).2]

/-- Any moves from the start of a vector, and one more. The reads in front and those behind meet
nowhere and leave out nothing; a read fails only when every element has been read, and from then on.
A count and a drained copy say what remains and leave the cursor where it is. The scalars that are
read have the numbers of the elements, one by one. -/
theorem walk_from_both_ends (vector : Packed) (moves : List Move) :
    let answers := ((ofPacked vector).walk moves).1
    let last := ((ofPacked vector).walk moves).2
    let read := (fronts answers).length + (backs answers).length
    (∀ move, (ofPacked vector).walk (moves ++ [move]) =
        (answers ++ [(last.answer move).1], (last.answer move).2)) ∧
      (∀ place < (fronts answers).length, (fronts answers)[place]? = vector.scalars[place]?) ∧
      (∀ place < (backs answers).length,
        (backs answers)[place]? = vector.scalars[vector.size - 1 - place]?) ∧
      read = min vector.size (moves.count .next + moves.count .nextBack) ∧
      ((founds answers).Pairwise fun earlier later => earlier = none → later = none) ∧
      last.front ≤ last.back ∧ last.back ≤ vector.size ∧
      last.answer .left = (.left (vector.size - read), last) ∧
      (∃ scalars, last.answer .drain = (.rest scalars, last) ∧
        fronts answers ++ scalars ++ (backs answers).reverse = vector.scalars) ∧
      (ofPacked vector).drain = vector.scalars ∧
      (ofPacked vector).drainBack = vector.scalars.reverse ∧
      List.Forall₂ Element.Shows vector.elements.toList vector.scalars := by
  intro answers last read
  have reads : Reads (ofPacked vector) answers last := reads_walk _ moves
  have parts := reads.parts
  have lengths := reads.lengths_eq
  have size : (ofPacked vector).left = vector.size := Nat.sub_zero _
  rw [remaining_ofPacked] at parts
  rw [size] at lengths
  refine ⟨walk_append_singleton _ moves, ?_, ?_, ?_, reads.fused, ?_, ?_, ?_, ?_, ?_, ?_,
    vector.shown_scalars⟩
  · intro place inside
    rw [← parts, List.append_assoc, List.getElem?_append_left inside]
  · intro place inside
    have inVector : place < vector.scalars.length := by
      rw [Packed.length_scalars]
      omega
    have reversed : vector.scalars.reverse =
        backs answers ++ (fronts answers ++ last.remaining).reverse := by
      rw [← parts, List.reverse_append, List.reverse_reverse]
    rw [← Packed.length_scalars, ← List.getElem?_reverse inVector, reversed,
      List.getElem?_append_left inside]
  · rw [← length_founds_walk (ofPacked vector) moves, ← size]
    exact reads.read_eq_min
  · exact reads.front_le_back (Nat.zero_le _)
  · have back := reads.back_eq
    exact Nat.le_of_add_right_le (Nat.le_of_eq back)
  · have count : last.left = vector.size - read := by omega
    rw [answer, count]
  · exact ⟨last.remaining, by rw [answer, drain_eq_remaining], parts⟩
  · rw [drain_eq_remaining, remaining_ofPacked]
  · rw [drainBack_eq_reverse, remaining_ofPacked]

end PackedNumbers.Cursor
