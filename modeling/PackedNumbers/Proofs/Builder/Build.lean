import PackedNumbers.Proofs.Builder.Steps

/-!
What is built after any steps: the earliest offence, or what the last code makes of the scalars of
all steps together, if a store has room for the last capacity.
-/
namespace PackedNumbers

theorem Packed.collect_congr {code : TypeCode} {source other : Source}
    (same : source.toList = other.toList) : collect code source = collect code other := by
  rw [collect_eq, collect_eq, same]

theorem map_mapError {ε ε' α β : Type} (name : ε → ε') (image : α → β) (result : Except ε α) :
    image <$> result.mapError name = (image <$> result).mapError name := by
  cases result <;> rfl

namespace Allocation

theorem map_vector_foldlM (scalars : List Scalar) (start : Allocation) :
    (·.vector) <$> scalars.foldlM append start = scalars.foldlM Packed.append start.vector := by
  induction scalars generalizing start with
  | nil => rfl
  | cons scalar scalars ih =>
    rw [List.foldlM_cons, List.foldlM_cons, append]
    cases start.vector.append scalar with
    | error fault => rfl
    | ok vector => exact ih (start.update vector)

theorem capacity_le_of_foldlM {scalars : List Scalar} {start after : Allocation}
    (filled : scalars.foldlM append start = .ok after) : start.capacity ≤ after.capacity := by
  induction scalars generalizing start with
  | nil =>
    cases filled
    exact Nat.le_refl _
  | cons scalar scalars ih =>
    rw [List.foldlM_cons, append] at filled
    cases appended : start.vector.append scalar with
    | error fault =>
      rw [appended] at filled
      cases filled
    | ok vector =>
      rw [appended] at filled
      exact Nat.le_trans (Nat.le_max_left _ _) (ih filled)

end Allocation

namespace Builder

theorem map_vector_appendValues (values : Array Scalar) {code : TypeCode} {start : Allocation}
    (empty : start.vector = .empty code) :
    (·.vector) <$> values.foldlM Allocation.append start =
      Packed.collect code (.ofArray values) := by
  rw [← Array.foldlM_toList, Allocation.map_vector_foldlM, empty, Packed.collect,
    Packed.appendAll_eq_foldlM, Source.toList_ofArray]

theorem vector_build (builder : Builder) :
    (·.vector) <$> builder.build =
      match builder.fault, builder.code with
      | some fault, _ => .error (.fault fault)
      | none, none => .error (.fault (.argument .codeMissing))
      | none, some code =>
        if builder.capacity * code.width ≤ Allocation.mostBytes then
          (Packed.collect code (.ofArray builder.values)).mapError .fault
        else .error .capacityOverflow := by
  rw [build]
  cases builder.fault with
  | some fault => rfl
  | none =>
    cases builder.code with
    | none => rfl
    | some code =>
      by_cases room : builder.capacity * code.width ≤ Allocation.mostBytes
      · have start : Allocation.withCapacity code builder.capacity =
            .ok ⟨.empty code, builder.capacity⟩ := if_pos room
        -- The room that is kept beside the vector does not show in what the loop collects.
        have collected : (·.vector) <$> builder.values.foldlM Allocation.append
              (Allocation.reserve ⟨.empty code, builder.capacity⟩ builder.values.size) =
            Packed.collect code (.ofArray builder.values) :=
          map_vector_appendValues builder.values rfl
        dsimp only
        rw [if_pos room, ← collected, ← map_mapError, start]
        rfl
      · have overflow : Allocation.withCapacity code builder.capacity =
            .error .capacityOverflow := if_neg room
        dsimp only
        rw [if_neg room, overflow]
        rfl

theorem build_of_fault {builder : Builder} {fault : Fault} (held : builder.fault = some fault) :
    builder.build = .error (.fault fault) := by
  rw [build, held]

def scalarBytes : Nat := 16

/-- The room that is asked for is the greater of two counts, and only the requested one can be too
much: values that fit a store as scalars fit as words. -/
theorem build_eq_of_held {builder : Builder}
    (held : builder.values.size * scalarBytes ≤ Allocation.mostBytes) :
    builder.build =
      (match builder.fault, builder.code with
      | some fault, _ => .error (.fault fault)
      | none, none => .error (.fault (.argument .codeMissing))
      | none, some code => do
        let start ← Allocation.withCapacity code (max builder.capacity builder.values.size)
        Except.mapError .fault (builder.values.foldlM Allocation.append start)) := by
  rw [build]
  cases builder.fault with
  | some fault => rfl
  | none =>
    cases builder.code with
    | none => rfl
    | some code =>
      have narrow : code.width ≤ 4 := by cases code <;> decide
      have values_fit : builder.values.size * code.width ≤ Allocation.mostBytes :=
        Nat.le_trans (Nat.mul_le_mul_left _ (Nat.le_trans narrow (by decide))) held
      have both : max builder.capacity builder.values.size * code.width ≤ Allocation.mostBytes ↔
          builder.capacity * code.width ≤ Allocation.mostBytes := by
        rw [← Nat.mul_max_mul_right, Nat.max_le, and_iff_left values_fit]
      dsimp only
      rw [Allocation.withCapacity, Allocation.withCapacity]
      by_cases room : builder.capacity * code.width ≤ Allocation.mostBytes
      · rw [if_pos room, if_pos (both.mpr room)]
        rfl
      · rw [if_neg room, if_neg (mt both.mp room)]
        rfl

theorem hasRoom_of_build {builder : Builder} {allocation : Allocation}
    (built : builder.build = .ok allocation) : allocation.hasRoom builder.capacity = true := by
  unfold build at built
  split at built
  · cases built
  · cases built
  · next code _ _ =>
    rw [Allocation.withCapacity] at built
    split at built
    · have filled := mapError_eq_ok_iff.mp built
      rw [← Array.foldlM_toList] at filled
      exact decide_eq_true
        (Nat.le_trans (Nat.le_max_left _ _) (Allocation.capacity_le_of_foldlM filled))
    · cases built

theorem vector_build_of_sound {steps : List Step} {code : TypeCode}
    (sound : earliestOffence? steps = none) (last : codeInForce steps = some code) :
    (·.vector) <$> (ofSteps steps).build =
      if capacityInForce steps * code.width ≤ Allocation.mostBytes then
        (Packed.collect code (.ofList (steps.flatMap Step.scalars))).mapError .fault
      else .error .capacityOverflow := by
  have described := describes_ofSteps steps
  have held : (ofSteps steps).fault = none := described.fault_eq.trans sound
  have same : Packed.collect code (.ofArray (ofSteps steps).values) =
      Packed.collect code (.ofList (steps.flatMap Step.scalars)) := by
    apply Packed.collect_congr
    rw [Source.toList_ofArray, Source.toList_ofList, described.values_eq held]
  rw [vector_build, held, described.code_eq, last, described.capacity_eq, ← same]

/-- The earliest offence in call order is what is reported, whatever the later steps are. Without
one, the scalars of all steps are collected under the last code, which may refuse some of them
again; but a last capacity of more bytes than a store can take is a panic before that. -/
theorem build_from_steps (steps : List Step) :
    (·.vector) <$> (ofSteps steps).build =
      (match earliestOffence? steps, codeInForce steps with
      | some fault, _ => .error (.fault fault)
      | none, none => .error (.fault (.argument .codeMissing))
      | none, some code =>
        if capacityInForce steps * code.width ≤ Allocation.mostBytes then
          (Packed.collect code (.ofList (steps.flatMap Step.scalars))).mapError .fault
        else .error .capacityOverflow) ∧
    ∀ later fault, earliestOffence? steps = some fault →
      (ofSteps (steps ++ later)).build = .error (.fault fault) := by
  constructor
  · have described := describes_ofSteps steps
    cases offence : earliestOffence? steps with
    | some fault =>
      rw [build_of_fault (described.fault_eq.trans offence)]
      rfl
    | none =>
      cases last : codeInForce steps with
      | none =>
        rw [vector_build, described.fault_eq, offence, described.code_eq, last]
      | some code => exact vector_build_of_sound offence last
  · intro later fault offence
    apply build_of_fault
    rw [(describes_ofSteps (steps ++ later)).fault_eq, earliestOffence?_append, offence]
    rfl

def boundlessSteps : List Step :=
  [.code .int32, .capacity (2 ^ 64 - 1), .values (.ofList [.int 1])]

/-- The steps offend nobody and their value is collected, but they build nothing. -/
theorem build_boundless :
    earliestOffence? boundlessSteps = none ∧ codeInForce boundlessSteps = some .int32 ∧
      Packed.collect .int32 (.ofList (boundlessSteps.flatMap Step.scalars)) =
        .ok ⟨.int32, #[1]⟩ ∧
      (·.vector) <$> (ofSteps boundlessSteps).build ≠ .ok ⟨.int32, #[1]⟩ ∧
      (ofSteps boundlessSteps).build = .error .capacityOverflow := by
  have overflow : (ofSteps boundlessSteps).build = .error .capacityOverflow := by rfl
  refine ⟨rfl, rfl, rfl, ?_, overflow⟩
  rw [overflow]
  exact fun same => nomatch same

/-- Taken under the code in force at it, refused under the last one. -/
example :
    (ofSteps [.code .uint8, .values (.ofList [.int 200]), .code .int8]).build =
      .error (.fault (.range .int8 200 (-128) 127)) := by
  rfl

end Builder
end PackedNumbers
