import PackedNumbers.Packed.Collect

/-!
Collected scalars: the fault of the first one that the code does not take, or else the words of them
all.
-/
namespace PackedNumbers

namespace Source

variable {State Refusal : Type} {judge : Scalar → Except Refusal Unit}

def refusal? (judge : Scalar → Except Refusal Unit) (scalar : Scalar) : Option Refusal :=
  match judge scalar with
  | .ok () => none
  | .error refusal => some refusal

def firstRefusal? (judge : Scalar → Except Refusal Unit) (scalars : List Scalar) :
    Option Refusal :=
  scalars.findSome? (refusal? judge)

theorem refusal?_eq_none_iff {scalar : Scalar} :
    refusal? judge scalar = none ↔ judge scalar = .ok () := by
  unfold refusal?
  cases judge scalar <;> simp

theorem firstRefusal?_eq_none_iff {scalars : List Scalar} :
    firstRefusal? judge scalars = none ↔ ∀ scalar ∈ scalars, judge scalar = .ok () := by
  simp only [firstRefusal?, List.findSome?_eq_none_iff, refusal?_eq_none_iff]

theorem feedList_refusal (add : State → Scalar → State) (scalars : List Scalar) (state : State) :
    (feedList judge add scalars state).2 = firstRefusal? judge scalars := by
  induction scalars generalizing state with
  | nil => rfl
  | cons scalar scalars ih =>
    rw [feedList, firstRefusal?, List.findSome?_cons, refusal?]
    cases judge scalar with
    | ok => exact ih (add state scalar)
    | error refusal => rfl

theorem feedList_of_taken (add : State → Scalar → State) {scalars : List Scalar}
    (taken : ∀ scalar ∈ scalars, judge scalar = .ok ()) (state : State) :
    feedList judge add scalars state = (scalars.foldl add state, none) := by
  induction scalars generalizing state with
  | nil => rfl
  | cons scalar scalars ih =>
    obtain ⟨first, others⟩ := List.forall_mem_cons.mp taken
    rw [feedList, first, List.foldl_cons]
    exact ih others (add state scalar)

theorem feed_eq (judge : Scalar → Except Refusal Unit) (add : State → Scalar → State)
    (source : Source) (state : State) :
    (source.feed judge add state).2 = firstRefusal? judge source.toList ∧
      (firstRefusal? judge source.toList = none →
        (source.feed judge add state).1 = source.toList.foldl add state) := by
  rw [feed_eq_feedList]
  refine ⟨feedList_refusal add source.toList state, fun taken => ?_⟩
  rw [feedList_of_taken add (firstRefusal?_eq_none_iff.mp taken)]

end Source

namespace Packed

theorem foldl_add {code : TypeCode} (elements : Array (Element code)) (scalars : List Scalar) :
    scalars.foldl add ⟨code, elements⟩ =
      ⟨code, elements ++ (scalars.map (Element.ofScalar code)).toArray⟩ := by
  induction scalars generalizing elements with
  | nil => simp
  | cons scalar scalars ih =>
    have first : add ⟨code, elements⟩ scalar =
        ⟨code, elements.push (Element.ofScalar code scalar)⟩ := rfl
    rw [List.foldl_cons, first, ih]
    simp

theorem foldl_add_empty (code : TypeCode) (scalars : List Scalar) :
    scalars.foldl add (empty code) = ofElements (scalars.map (Element.ofScalar code)) := by
  rw [empty, foldl_add, Array.empty_append]
  rfl

theorem collect_eq (code : TypeCode) (source : Source) :
    collect code source =
      match Source.firstRefusal? (check code) source.toList with
      | some fault => .error fault
      | none => .ok (.ofElements (source.toList.map (Element.ofScalar code))) := by
  obtain ⟨refusal, filled⟩ := source.feed_eq (check code) add (empty code)
  have code_eq : (empty code).code = code := rfl
  rw [collect, appendAll, code_eq]
  cases reached : source.feed (check code) add (empty code) with
  | mk vector fault =>
    rw [reached] at refusal filled
    rw [← refusal]
    cases fault with
    | some fault => rfl
    | none =>
      have all : vector = source.toList.foldl add (empty code) := filled refusal.symm
      rw [all, foldl_add_empty]

theorem appendAll_eq_foldlM (vector : Packed) (source : Source) :
    vector.appendAll source = source.toList.foldlM append vector := by
  rw [appendAll, Source.feed_eq_feedList]
  induction source.toList generalizing vector with
  | nil => rfl
  | cons scalar scalars ih =>
    rw [List.foldlM_cons, append_eq, Source.feedList]
    cases check vector.code scalar with
    | error fault => rfl
    | ok => exact ih (vector.add scalar)

theorem collect_of_taken {code : TypeCode} {source : Source}
    (taken : ∀ scalar ∈ source.toList, check code scalar = .ok ()) :
    collect code source = .ok (.ofElements (source.toList.map (Element.ofScalar code))) := by
  rw [collect_eq, Source.firstRefusal?_eq_none_iff.mpr taken]

theorem code_of_collect {code : TypeCode} {source : Source} {vector : Packed}
    (made : collect code source = .ok vector) : vector.code = code := by
  rw [collect_eq] at made
  split at made
  · cases made
  · cases made
    rfl

end Packed
end PackedNumbers
