import PackedNumbers.Builder
import PackedNumbers.Proofs.Collect.Refusal

/-!
What a builder holds after its steps, said of the steps alone: the last code, the last capacity, the
earliest offence in call order, and without one the scalars of all steps.
-/
namespace PackedNumbers.Builder

def Step.code? : Step → Option TypeCode
  | .code named => some named
  | _ => none

def Step.capacity? : Step → Option Nat
  | .capacity requested => some requested
  | _ => none

def Step.scalars : Step → List Scalar
  | .values source => source.toList
  | _ => []

def codeInForce (steps : List Step) : Option TypeCode := (steps.filterMap Step.code?).getLast?

def capacityInForce (steps : List Step) : Nat :=
  (steps.filterMap Step.capacity?).getLast?.getD 0

/-- The fault of one step under the code in force at it: values without a code, or the first of
them that the code does not take. -/
def Step.offence? (inForce : Option TypeCode) : Step → Option Fault
  | .values source =>
    match inForce with
    | none => some (.argument .codeMissingForValues)
    | some named => Source.firstRefusal? (check named) source.toList
  | _ => none

/-- The offence of the first step that has one, each judged under the code in force at it. -/
def earliestOffence? (steps : List Step) : Option Fault :=
  (List.range steps.length).findSome? fun place =>
    steps[place]?.bind (Step.offence? (codeInForce (steps.take place)))

theorem codeInForce_append_singleton (steps : List Step) (step : Step) :
    codeInForce (steps ++ [step]) = step.code?.or (codeInForce steps) := by
  cases step <;> simp [codeInForce, Step.code?]

theorem capacityInForce_append_singleton (steps : List Step) (step : Step) :
    capacityInForce (steps ++ [step]) = step.capacity?.getD (capacityInForce steps) := by
  cases step <;> simp [capacityInForce, Step.capacity?]

theorem findSome?_congr {α β : Type} {items : List α} {one two : α → Option β}
    (same : ∀ item ∈ items, one item = two item) : items.findSome? one = items.findSome? two := by
  induction items with
  | nil => rfl
  | cons item items ih =>
    obtain ⟨first, others⟩ := List.forall_mem_cons.mp same
    rw [List.findSome?_cons, List.findSome?_cons, first, ih others]

theorem earliestOffence?_append (steps later : List Step) :
    earliestOffence? (steps ++ later) =
      (earliestOffence? steps).or
        ((List.range later.length).findSome? fun place =>
          later[place]?.bind (Step.offence? (codeInForce (steps ++ later.take place)))) := by
  rw [earliestOffence?, List.length_append, List.range_add, List.findSome?_append,
    List.findSome?_map, earliestOffence?]
  congr 1
  · apply findSome?_congr
    intro place member
    have inside : place < steps.length := List.mem_range.mp member
    rw [List.getElem?_append_left inside, List.take_append_of_le_length (Nat.le_of_lt inside)]
  · apply findSome?_congr
    intro place _
    rw [Function.comp_apply, List.getElem?_append_right (Nat.le_add_right _ place),
      Nat.add_sub_cancel_left, List.take_length_add_append]

theorem earliestOffence?_append_singleton (steps : List Step) (step : Step) :
    earliestOffence? (steps ++ [step]) =
      (earliestOffence? steps).or (step.offence? (codeInForce steps)) := by
  rw [earliestOffence?_append]
  simp

variable {builder : Builder} {steps : List Step}

theorem apply_code (builder : Builder) (step : Step) :
    (builder.apply step).code = step.code?.or builder.code := by
  cases step with
  | values source =>
    rw [apply, withValues]
    split <;> rfl
  | code | capacity | limit => rfl

theorem apply_capacity (builder : Builder) (step : Step) :
    (builder.apply step).capacity = step.capacity?.getD builder.capacity := by
  cases step with
  | values source =>
    rw [apply, withValues]
    split <;> rfl
  | code | capacity | limit => rfl

theorem apply_fault (builder : Builder) (step : Step) :
    (builder.apply step).fault = builder.fault.or (step.offence? builder.code) := by
  cases step with
  | values source =>
    rw [apply, withValues]
    cases held : builder.fault with
    | some fault => exact held
    | none =>
      cases builder.code with
      | none => rfl
      | some named => exact (source.feed_eq (check named) Array.push builder.values).1
  | code | capacity | limit => exact (Option.or_none ..).symm

theorem apply_values {step : Step} (sound : (builder.apply step).fault = none) :
    (builder.apply step).values.toList = builder.values.toList ++ step.scalars := by
  obtain ⟨held, offence⟩ := Option.or_eq_none_iff.mp ((apply_fault builder step).symm.trans sound)
  cases step with
  | values source =>
    rw [apply, withValues, held]
    cases set : builder.code with
    | none =>
      rw [set] at offence
      cases offence
    | some named =>
      rw [set] at offence
      have fed := (source.feed_eq (check named) Array.push builder.values).2 offence
      change (source.feed (check named) Array.push builder.values).1.toList = _
      rw [fed]
      simp [Step.scalars]
  | code | capacity | limit => exact (List.append_nil _).symm

/-- A builder that holds what its steps say. -/
structure Describes (builder : Builder) (steps : List Step) : Prop where
  code_eq : builder.code = codeInForce steps
  capacity_eq : builder.capacity = capacityInForce steps
  fault_eq : builder.fault = earliestOffence? steps
  values_eq : builder.fault = none → builder.values.toList = steps.flatMap Step.scalars

theorem Describes.apply (described : Describes builder steps) (step : Step) :
    Describes (builder.apply step) (steps ++ [step]) where
  code_eq := by
    rw [apply_code, codeInForce_append_singleton, described.code_eq]
  capacity_eq := by
    rw [apply_capacity, capacityInForce_append_singleton, described.capacity_eq]
  fault_eq := by
    rw [apply_fault, earliestOffence?_append_singleton, described.fault_eq, described.code_eq]
  values_eq := by
    intro sound
    have before : builder.fault = none := by
      rw [apply_fault] at sound
      exact (Option.or_eq_none_iff.mp sound).1
    rw [apply_values sound, described.values_eq before, List.flatMap_append,
      List.flatMap_singleton]

theorem Describes.foldl (described : Describes builder steps) (later : List Step) :
    Describes (later.foldl Builder.apply builder) (steps ++ later) := by
  induction later generalizing builder steps with
  | nil => rwa [List.append_nil]
  | cons step later ih =>
    have rest := ih (described.apply step)
    rwa [List.append_assoc, List.singleton_append] at rest

theorem describes_ofSteps (steps : List Step) : Describes (ofSteps steps) steps := by
  have start : Describes {} [] := ⟨rfl, rfl, rfl, fun _ => rfl⟩
  exact start.foldl steps

end PackedNumbers.Builder
