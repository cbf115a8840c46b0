import PackedNumbers.Proofs.History.Call
import PackedNumbers.Proofs.Order.Canonical
import PackedNumbers.Proofs.Projection.Visits

/-!
What one operation does to a vector. Everything that is used of an operation is one case of
`Effect`; no other statement opens it again.
-/
namespace PackedNumbers

inductive Operation
  | append (scalar : Scalar)
  | pop
  | clear
  | sort
  | sortRows (vectors : List Packed)
  | write (code : TypeCode) (position : Nat) (element : Element code)
  deriving Repr

inductive Outcome
  | done
  | popped (last : Option Scalar)
  | refused (fault : Fault)
  | unwritten
  deriving DecidableEq, Repr

def Outcome.ofVerdict : Except Fault Unit → Outcome
  | .ok () => .done
  | .error fault => .refused fault

namespace Packed

def perform (vector : Packed) : Operation → Outcome × Packed
  | .append scalar => (vector.call (appendInPlace scalar)).map .ofVerdict id
  | .pop => (.popped vector.pop.1, vector.pop.2)
  | .clear => (.done, vector.clear)
  | .sort => (.done, vector.sort)
  | .sortRows vectors => (vector.call (Projection.sortInPlace vectors)).map .ofVerdict id
  | .write code position element =>
    match vector.write code position element with
    | .written after => (.done, after)
    | .codeDiffers | .outside => (.unwritten, vector)

end Packed

variable {before after : Packed} {operation : Operation} {outcome : Outcome}

/-- An operation with an outcome that a caller must expect: the defined one, or after a sort by rows
any other placement of rows with equal tuples. -/
inductive Performed (before : Packed) : Operation → Outcome → Packed → Prop
  | defined {operation : Operation} {outcome : Outcome} {after : Packed}
    (performs : before.perform operation = (outcome, after)) :
    Performed before operation outcome after
  | unstable {vectors : List Packed} {after : Packed}
    (result : Projection.UnstableResult before vectors after) :
    Performed before (.sortRows vectors) .done after

inductive Effect (before : Packed) : Operation → Outcome → Packed → Prop
  | appended {scalar : Scalar} (taken : check before.code scalar = .ok ()) :
    Effect before (.append scalar) .done (before.push (Element.ofScalar before.code scalar))
  | appendRefused {scalar : Scalar} {fault : Fault}
    (refused : check before.code scalar = .error fault) :
    Effect before (.append scalar) (.refused fault) before
  | popped {kept : Packed} {last : Element kept.code} (split : before = kept.push last) :
    Effect before .pop (.popped (some last.toScalar)) kept
  | poppedNone (empty : before.isEmpty = true) : Effect before .pop (.popped none) before
  | cleared : Effect before .clear .done (.empty before.code)
  | sorted {after : Packed} (same : after.Rearranges before) : Effect before .sort .done after
  | rowsSorted {vectors : List Packed} {after : Packed}
    (accepted : Projection.Accepted before vectors) (same : after.Rearranges before) :
    Effect before (.sortRows vectors) .done after
  | rowsRefused {vectors : List Packed} {fault : Fault}
    (refused : ¬ Projection.Accepted before vectors) :
    Effect before (.sortRows vectors) (.refused fault) before
  | written {position : Nat} {element : Element before.code}
    (inside : position < before.elements.size) :
    Effect before (.write before.code position element) .done
      ⟨before.code, before.elements.set position element⟩
  | unwritten {code : TypeCode} {position : Nat} {element : Element code}
    (missed : code ≠ before.code ∨ before.size ≤ position) :
    Effect before (.write code position element) .unwritten before

theorem effect_append {scalar : Scalar}
    (performs : before.perform (.append scalar) = (outcome, after)) :
    Effect before (.append scalar) outcome after := by
  cases judged : check before.code scalar with
  | ok =>
    rw [Packed.perform, Packed.call_appendInPlace, Packed.append_eq_ok_iff.mpr ⟨judged, rfl⟩]
      at performs
    cases performs
    exact .appended judged
  | error fault =>
    rw [Packed.perform, Packed.call_appendInPlace, Packed.append_eq_error_iff.mpr judged]
      at performs
    cases performs
    exact .appendRefused judged

theorem effect_pop (performs : before.perform .pop = (outcome, after)) :
    Effect before .pop outcome after := by
  cases before with
  | mk code elements =>
    cases last : elements.back? with
    | none =>
      have empty : elements = #[] := Array.back?_eq_none_iff.mp last
      subst empty
      cases performs
      exact .poppedNone rfl
    | some element =>
      obtain ⟨kept, rfl⟩ := Array.back?_eq_some_iff.mp last
      simp only [Packed.perform, Packed.pop, Array.back?_push, Array.pop_push, Option.map_some]
        at performs
      cases performs
      exact @Effect.popped _ ⟨code, kept⟩ element rfl

theorem Projection.UnstableResult.accepted {vectors : List Packed}
    (result : UnstableResult before vectors after) : Accepted before vectors := by
  cases result with
  | intro someVector integer table read _ =>
    exact exists_sort_eq_ok_iff.mp
      ⟨_, sort_eq_ok_iff.mpr ⟨someVector, integer, _, _, table, read, rfl⟩⟩

theorem effect_sortRows {vectors : List Packed}
    (performs : before.perform (.sortRows vectors) = (outcome, after)) :
    Effect before (.sortRows vectors) outcome after := by
  cases sorts : Projection.sort before vectors with
  | ok sorted =>
    rw [Packed.perform, Projection.call_sortInPlace, sorts] at performs
    cases performs
    have result := Projection.unstableResult_of_sort sorts
    exact .rowsSorted result.accepted result.rearranges
  | error fault =>
    rw [Packed.perform, Projection.call_sortInPlace, sorts] at performs
    cases performs
    apply Effect.rowsRefused
    intro accepted
    obtain ⟨sorted, succeeds⟩ := Projection.exists_sort_eq_ok_iff.mpr accepted
    rw [sorts] at succeeds
    cases succeeds

theorem effect_write {code : TypeCode} {position : Nat} {element : Element code}
    (performs : before.perform (.write code position element) = (outcome, after)) :
    Effect before (.write code position element) outcome after := by
  by_cases same : before.code = code
  · subst same
    by_cases inside : position < before.elements.size
    · have written : before.write before.code position element =
          .written ⟨before.code, before.elements.set position element⟩ := by
        rw [Packed.write, Packed.view?_code]
        exact dif_pos inside
      rw [Packed.perform, written] at performs
      cases performs
      exact .written inside
    · have outside : before.write before.code position element = .outside := by
        rw [Packed.write, Packed.view?_code]
        exact dif_neg inside
      rw [Packed.perform, outside] at performs
      cases performs
      exact .unwritten (.inr (Nat.le_of_not_lt inside))
  · have differs : before.write code position element = .codeDiffers := by
      rw [Packed.write, Packed.view?_eq_none same]
    rw [Packed.perform, differs] at performs
    cases performs
    exact .unwritten (.inl (Ne.symm same))

theorem Performed.effect (performed : Performed before operation outcome after) :
    Effect before operation outcome after := by
  cases performed with
  | defined performs =>
    cases operation with
    | append scalar => exact effect_append performs
    | pop => exact effect_pop performs
    | clear =>
      cases performs
      exact .cleared
    | sort =>
      cases performs
      exact .sorted before.sort_rearranges
    | sortRows vectors => exact effect_sortRows performs
    | write code position element => exact effect_write performs
  | unstable result => exact .rowsSorted result.accepted result.rearranges

namespace Effect

theorem code_eq (effect : Effect before operation outcome after) : after.code = before.code := by
  cases effect with
  | popped split =>
    rw [split]
    rfl
  | sorted same => exact same.code_eq
  | rowsSorted _ same => exact same.code_eq
  | appended | appendRefused | poppedNone | cleared | rowsRefused | written | unwritten => rfl

theorem eq_of_refused {fault : Fault} (effect : Effect before operation (.refused fault) after) :
    after = before := by
  cases effect with
  | appendRefused | rowsRefused => rfl

/-- Only an append and a sort by rows are refused, and only for their arguments. -/
theorem refused_iff (effect : Effect before operation outcome after) :
    (∃ fault, outcome = .refused fault) ↔
      (∃ scalar, operation = .append scalar ∧ check before.code scalar ≠ .ok ()) ∨
        ∃ vectors, operation = .sortRows vectors ∧ ¬ Projection.Accepted before vectors := by
  cases effect with
  | appended taken => simp [taken]
  | appendRefused refused => simp [refused]
  | rowsSorted accepted => simp [accepted]
  | rowsRefused refused => simp [refused]
  | popped | poppedNone | cleared | sorted | written | unwritten => simp

end Effect
end PackedNumbers
