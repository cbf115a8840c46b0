import Mathlib.Data.List.Basic
import Mathlib.Data.List.Induction
import PackedNumbers.Proofs.Builder.Steps
import PackedNumbers.Proofs.Record.RoundTrip

/-!
What a builder reads from bytes after any steps: only the last code and the last limit have a say,
and neither the values given nor the fault kept from them do.
-/
namespace PackedNumbers.Builder

def Step.limit? : Step → Option Nat
  | .limit bound => some bound
  | _ => none

def limitInForce (steps : List Step) : Option Nat := (steps.filterMap Step.limit?).getLast?

def Step.judges (step : Step) : Bool := step.code?.isSome || step.limit?.isSome

theorem limitInForce_append_singleton (steps : List Step) (step : Step) :
    limitInForce (steps ++ [step]) = step.limit?.or (limitInForce steps) := by
  cases step <;> simp [limitInForce, Step.limit?]

theorem apply_limit (builder : Builder) (step : Step) :
    (builder.apply step).limit = step.limit?.or builder.limit := by
  cases step with
  | values source =>
    rw [apply, withValues]
    split <;> rfl
  | code | capacity | limit => rfl

theorem ofSteps_append_singleton (steps : List Step) (step : Step) :
    ofSteps (steps ++ [step]) = (ofSteps steps).apply step := by
  rw [ofSteps, List.foldl_append, List.foldl_cons, List.foldl_nil, ofSteps]

theorem limit_ofSteps (steps : List Step) : (ofSteps steps).limit = limitInForce steps := by
  induction steps using List.reverseRecOn with
  | nil => rfl
  | append_singleton steps step ih =>
    rw [ofSteps_append_singleton, apply_limit, ih, limitInForce_append_singleton]

theorem filterMap_filter_of_isSome {α β : Type} {keep : α → Bool} {map : α → Option β}
    (kept : ∀ item, (map item).isSome → keep item) (items : List α) :
    (items.filter keep).filterMap map = items.filterMap map := by
  rw [List.filterMap_filter]
  apply List.filterMap_congr
  intro item _
  cases mapped : map item with
  | none => exact ite_self none
  | some image => exact if_pos (kept item (by rw [mapped]; rfl))

theorem codeInForce_filter_judges (steps : List Step) :
    codeInForce (steps.filter Step.judges) = codeInForce steps := by
  rw [codeInForce, codeInForce, filterMap_filter_of_isSome]
  intro step set
  rw [Step.judges, set, Bool.true_or]

theorem limitInForce_filter_judges (steps : List Step) :
    limitInForce (steps.filter Step.judges) = limitInForce steps := by
  rw [limitInForce, limitInForce, filterMap_filter_of_isSome]
  intro step set
  rw [Step.judges, set, Bool.or_true]

theorem decode_eq (builder : Builder) (bytes : List UInt8) :
    builder.decode bytes =
      match Record.decode bytes builder.limit, builder.code with
      | .error cause, _ => .error (.format cause)
      | .ok vector, none => .ok vector
      | .ok vector, some code =>
        if vector.code = code then .ok vector
        else .error (.argument (.codeDiffers code vector.code)) := by
  rw [decode, Record.read]
  cases Record.decode bytes builder.limit with
  | error cause => rfl
  | ok vector => cases builder.code <;> rfl

theorem decode_eq_ok_iff {builder : Builder} {bytes : List UInt8} {vector : Packed} :
    builder.decode bytes = .ok vector ↔
      Record.decode bytes builder.limit = .ok vector ∧
        ∀ code, builder.code = some code → vector.code = code := by
  rw [decode_eq]
  cases Record.decode bytes builder.limit with
  | error cause => simp
  | ok found =>
    cases builder.code with
    | none => simp
    | some code =>
      by_cases same : found.code = code
      · simp only [if_pos same, Except.ok.injEq, Option.some.injEq, forall_eq']
        exact ⟨fun read => ⟨read, read ▸ same⟩, And.left⟩
      · simp only [if_neg same, reduceCtorEq, Except.ok.injEq, Option.some.injEq, forall_eq',
          false_iff]
        rintro ⟨rfl, named⟩
        exact same named

/-- After any steps the bytes are judged by the last limit and what they hold by the last code; all
other steps may be left out. What is read is a vector within the limit, of the code, whose record
the bytes are. -/
theorem decode_from_steps (steps : List Step) (bytes : List UInt8) :
    (ofSteps steps).decode bytes =
      (match Record.decode bytes (limitInForce steps), codeInForce steps with
      | .error cause, _ => .error (.format cause)
      | .ok vector, none => .ok vector
      | .ok vector, some code =>
        if vector.code = code then .ok vector
        else .error (.argument (.codeDiffers code vector.code))) ∧
    (ofSteps (steps.filter Step.judges)).decode bytes = (ofSteps steps).decode bytes ∧
    (bytes.length < 2 ^ 64 → ∀ vector, (ofSteps steps).decode bytes = .ok vector ↔
      bytes = Record.encode vector ∧
        (∀ bound, limitInForce steps = some bound → vector.size ≤ bound) ∧
        ∀ code, codeInForce steps = some code → vector.code = code) := by
  have judged (steps : List Step) := decode_eq (ofSteps steps) bytes
  simp only [limit_ofSteps, (describes_ofSteps _).code_eq] at judged
  refine ⟨judged steps, ?_, ?_⟩
  · rw [judged, judged, limitInForce_filter_judges, codeInForce_filter_judges]
  · intro fits vector
    rw [decode_eq_ok_iff, Record.decode_eq_ok_iff, limit_ofSteps, (describes_ofSteps _).code_eq]
    constructor
    · rintro ⟨⟨written, _, within⟩, named⟩
      exact ⟨written, within, named⟩
    · rintro ⟨rfl, within, named⟩
      -- A count that wraps in its field has a record too long to be held.
      rw [Record.length_encode] at fits
      exact ⟨⟨rfl, Record.size_lt_of_fits fits, within⟩, named⟩

def threeBytes : Packed := ⟨.int8, #[1, 2, 3]⟩

/-- The first values have no code yet; the first limit and the first code would refuse
`threeBytes`. -/
def overruledSteps : List Step :=
  [.values (.ofList [.int 1]), .limit 2, .code .uint8, .limit 3, .capacity 100, .code .int8]

theorem decode_from_steps_overruled :
    (ofSteps overruledSteps).fault = some (.argument .codeMissingForValues) ∧
      (Record.encode threeBytes).length < 2 ^ 64 ∧
      (ofSteps overruledSteps).decode (Record.encode threeBytes) = .ok threeBytes ∧
      (ofSteps (overruledSteps ++ [.code .uint8])).decode (Record.encode threeBytes) =
        .error (.argument (.codeDiffers .uint8 .int8)) ∧
      (ofSteps (overruledSteps ++ [.code .uint8, .limit 2])).decode (Record.encode threeBytes) =
        .error (.format (.overLimit 3 2)) := by
  have fits : (Record.encode threeBytes).length < 2 ^ 64 := by decide
  have within : ∀ bound, limitInForce overruledSteps = some bound → threeBytes.size ≤ bound := by
    intro bound last
    cases last
    decide
  have named : ∀ code, codeInForce overruledSteps = some code → threeBytes.code = code := by
    intro code last
    cases last
    rfl
  obtain ⟨_, _, reads⟩ := decode_from_steps overruledSteps (Record.encode threeBytes)
  exact ⟨rfl, fits, (reads fits threeBytes).mpr ⟨rfl, within, named⟩,
    (decode_from_steps _ (Record.encode threeBytes)).1,
    (decode_from_steps _ (Record.encode threeBytes)).1⟩

end PackedNumbers.Builder
