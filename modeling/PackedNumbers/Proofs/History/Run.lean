import PackedNumbers.Allocation
import PackedNumbers.Proofs.Collect.Refusal
import PackedNumbers.Proofs.Cursor.Remaining
import PackedNumbers.Proofs.Element.Shown
import PackedNumbers.Proofs.History.Operation
import PackedNumbers.Proofs.Record.Acceptance

/-!
Vectors in use: obtained in any way, then changed by any operations in any order. The code never
changes, and every word of a code is one of its numbers, so nothing else can go wrong in a run.
-/
namespace PackedNumbers

inductive Origin
  | empty (code : TypeCode)
  | withCapacity (code : TypeCode) (capacity : Nat)
  | collected (code : TypeCode) (source : Source)
  | moved (code : TypeCode) (elements : List (Element code))
  | record (bytes : List UInt8) (limit : Option Nat)
  | slice (vector : Packed) (start stop : Option Int)
  | copy (vector : Packed)

namespace Origin

def make : Origin → Except Stop Packed
  | .empty code => .ok (.empty code)
  | .withCapacity code capacity => (·.vector) <$> Allocation.withCapacity code capacity
  | .collected code source => (Packed.collect code source).mapError .fault
  | .moved _ elements => .ok (.ofElements elements)
  | .record bytes limit => (Record.read bytes limit).mapError .fault
  | .slice vector start stop => .ok (vector.slice start stop)
  | .copy vector => .ok vector

/-- The code that was asked for; bytes ask for the code of their tag. -/
def code? : Origin → Option TypeCode
  | .empty code | .withCapacity code _ | .collected code _ | .moved code _ => some code
  | .record bytes _ => bytes[0]?.bind TypeCode.ofTag?
  | .slice vector _ _ | .copy vector => some vector.code

end Origin

theorem Origin.code?_of_make {origin : Origin} {start : Packed} (made : origin.make = .ok start) :
    origin.code? = some start.code := by
  cases origin with
  | withCapacity code capacity =>
    rw [make, Allocation.withCapacity] at made
    split at made
    · cases made
      rfl
    · cases made
  | collected code source =>
    have named : start.code = code := Packed.code_of_collect (mapError_eq_ok_iff.mp made)
    rw [code?, named]
  | record bytes limit =>
    have read := Record.read_eq_ok_iff.mp (mapError_eq_ok_iff.mp made)
    obtain ⟨formed, _⟩ := Record.decode_eq_ok read
    rw [code?, formed.tag]
    exact TypeCode.ofTag?_tag start.code
  | empty | moved | slice | copy =>
    cases made
    rfl

structure Belongs (code : TypeCode) (scalar : Scalar) : Prop where
  taken : check code scalar = .ok ()
  kind_eq : scalar.kind = code.kind
  inside : ∀ value, scalar = .int value → code.inDomain value.toInt = true

theorem belongs_of_taken {code : TypeCode} {scalar : Scalar}
    (taken : check code scalar = .ok ()) : Belongs code scalar := by
  refine ⟨taken, kind_eq_of_taken taken, ?_⟩
  rintro value rfl
  have integer : code.kind = .integer := (kind_eq_of_taken taken).symm
  have bounds := (check_int_eq_ok_iff integer).mp taken
  rw [TypeCode.inDomain, TypeCode.domain_of_integer integer]
  simpa only [Domain.contains, Bool.and_eq_true, decide_eq_true_eq] using bounds

variable {start state after : Packed} {operations : List Operation} {outcome : Outcome}

theorem Packed.belongs_of_mem_scalars {scalar : Scalar} (member : scalar ∈ state.scalars) :
    Belongs state.code scalar := by
  obtain ⟨element, _, rfl⟩ := List.mem_map.mp member
  exact belongs_of_taken element.check_toScalar

theorem Packed.exists_element_of_get {index : Int} {scalar : Scalar}
    (found : state.get index = .ok scalar) :
    ∃ element ∈ state.elements, scalar = element.toScalar := by
  unfold Packed.get at found
  split at found
  · cases found
    exact ⟨_, Array.getElem_mem _, rfl⟩
  · cases found

theorem Packed.push_ne (vector : Packed) (element : Element vector.code) :
    vector.push element ≠ vector := by
  intro same
  have size := congrArg Packed.size same
  simp [Packed.size, Packed.push] at size

namespace Effect

theorem of_append {scalar : Scalar} (effect : Effect state (.append scalar) outcome after) :
    (after ≠ state ↔ check state.code scalar = .ok ()) ∧
      (after ≠ state → after = state.push (Element.ofScalar state.code scalar)) := by
  cases effect with
  | appended taken =>
    have changed := state.push_ne (Element.ofScalar state.code scalar)
    exact ⟨iff_of_true changed taken, fun _ => rfl⟩
  | appendRefused refused =>
    have unchanged : ¬ state ≠ state := fun changed => changed rfl
    have not_taken : check state.code scalar ≠ .ok () := by
      rw [refused]
      exact fun taken => nomatch taken
    exact ⟨iff_of_false unchanged not_taken, fun changed => absurd rfl changed⟩

theorem of_pop (effect : Effect state .pop outcome after) :
    (state.isEmpty = true ∧ outcome = .popped none ∧ after = state) ∨
      ∃ kept last, state = Packed.push kept last ∧ outcome = .popped (some last.toScalar) ∧
        last.Shows last.toScalar ∧ after = kept := by
  cases effect with
  | poppedNone empty => exact .inl ⟨empty, rfl, rfl⟩
  | popped split => exact .inr ⟨after, _, split, rfl, Element.shows_toScalar _, rfl⟩

theorem of_sort {operation : Operation} (effect : Effect state operation outcome after)
    (sorts : operation = .sort ∨ ∃ vectors, operation = .sortRows vectors) :
    after.Rearranges state := by
  rcases sorts with rfl | ⟨vectors, rfl⟩
  · cases effect with
    | sorted same => exact same
  · cases effect with
    | rowsSorted _ same => exact same
    | rowsRefused _ => exact ⟨rfl, .refl _⟩

end Effect

/-- A vector after some operations, each with an outcome that must be expected. -/
inductive Runs (start : Packed) : List Operation → Packed → Prop
  | nil : Runs start [] start
  | snoc {operations : List Operation} {middle after : Packed} {operation : Operation}
    {outcome : Outcome} (earlier : Runs start operations middle)
    (performed : Performed middle operation outcome after) :
    Runs start (operations ++ [operation]) after

theorem Runs.code_eq (ran : Runs start operations state) : state.code = start.code := by
  induction ran with
  | nil => rfl
  | snoc _ performed ih => exact performed.effect.code_eq.trans ih

def Packed.performAll (vector : Packed) (operations : List Operation) : Packed :=
  operations.foldl (fun vector operation => (vector.perform operation).2) vector

theorem Runs.append_performAll {middle : Packed} (ran : Runs start operations middle)
    (others : List Operation) : Runs start (operations ++ others) (middle.performAll others) := by
  induction others generalizing operations middle with
  | nil => rwa [List.append_nil]
  | cons operation others ih =>
    have next : Runs start (operations ++ [operation]) (middle.perform operation).2 :=
      .snoc ran (.defined rfl)
    have rest := ih next
    rwa [List.append_assoc] at rest

/-- However a vector was obtained and used: it has the code it was asked for, and gives out only
scalars that this code takes, with the numbers of its elements. An append changes it exactly if the
scalar is taken, and then by one element at the end. A pop takes the last element, gives its number
and finds none only if there is none. Calls are refused for their arguments alone and then change
nothing, and a sort changes at most the order of the elements. -/
theorem runs_keep_contract {origin : Origin} (made : origin.make = .ok start)
    (ran : Runs start operations state) :
    (state.code = start.code ∧ origin.code? = some state.code) ∧
      (∀ index scalar, state.get index = .ok scalar →
        Belongs state.code scalar ∧ ∃ element ∈ state.elements, element.Shows scalar) ∧
      ((∀ scalar ∈ (Cursor.ofPacked state).drain, Belongs state.code scalar) ∧
        List.Forall₂ Element.Shows state.elements.toList (Cursor.ofPacked state).drain) ∧
      (∀ scalar outcome after, Performed state (.append scalar) outcome after →
        (after ≠ state ↔ check state.code scalar = .ok ()) ∧
          (after ≠ state → after = state.push (Element.ofScalar state.code scalar))) ∧
      (∀ outcome after, Performed state .pop outcome after →
        (state.isEmpty = true ∧ outcome = .popped none ∧ after = state) ∨
          ∃ kept last, state = Packed.push kept last ∧
            outcome = .popped (some last.toScalar) ∧ last.Shows last.toScalar ∧ after = kept) ∧
      (∀ operation outcome after, Performed state operation outcome after →
        ((∃ fault, outcome = .refused fault) ↔
          (∃ scalar, operation = .append scalar ∧ check state.code scalar ≠ .ok ()) ∨
            ∃ vectors, operation = .sortRows vectors ∧ ¬ Projection.Accepted state vectors) ∧
          ((∃ fault, outcome = .refused fault) → after = state)) ∧
      ∀ operation outcome after, Performed state operation outcome after →
        (operation = .sort ∨ ∃ vectors, operation = .sortRows vectors) →
        after.Rearranges state := by
  have code := ran.code_eq
  refine ⟨⟨code, ?_⟩, ?_, ?_, ?_, ?_, ?_, ?_⟩
  · rw [code]
    exact Origin.code?_of_make made
  · intro index scalar found
    obtain ⟨element, member, rfl⟩ := Packed.exists_element_of_get found
    exact ⟨belongs_of_taken element.check_toScalar, element, member, element.shows_toScalar⟩
  · rw [Cursor.drain_eq_remaining, Cursor.remaining_ofPacked]
    exact ⟨fun _ => Packed.belongs_of_mem_scalars, state.shown_scalars⟩
  · intro scalar outcome after performed
    exact performed.effect.of_append
  · intro outcome after performed
    exact performed.effect.of_pop
  · intro operation outcome after performed
    refine ⟨performed.effect.refused_iff, ?_⟩
    rintro ⟨fault, rfl⟩
    exact performed.effect.eq_of_refused
  · intro operation outcome after performed sorts
    exact performed.effect.of_sort sorts

def signedRecord : List UInt8 := [2, 2, 0, 0, 0, 0, 0, 0, 0, 5, 0, 0, 128]

/-- A scalar above the domain, a write under another code, rows that are not there. -/
def careless : List Operation :=
  [.append (.int 40000), .write .int16 0 0x7fff, .write .uint16 1 0xffff,
    .sortRows [.empty .single], .append (.int (-3)), .sort, .pop]

def signedWords : Packed := ⟨.int16, #[0x0005, 0x8000]⟩

def keptWords : Packed := ⟨.int16, #[0x8000, 0xfffd]⟩

theorem runs_keep_contract_careless :
    (Origin.record signedRecord none).make = .ok signedWords ∧
      Runs signedWords careless keptWords ∧
      (∀ index scalar, keptWords.get index = .ok scalar →
        Belongs .int16 scalar ∧ ∃ element ∈ keptWords.elements, element.Shows scalar) ∧
      (∀ outcome after, Performed keptWords .pop outcome after →
        outcome = .popped (some (.int (-3)))) ∧
      ∀ outcome after, Performed keptWords (.append (.int 32768)) outcome after →
        after = keptWords := by
  have made : (Origin.record signedRecord none).make = .ok signedWords := by cbv
  have reached : signedWords.performAll careless = keptWords := by cbv
  have ran : Runs signedWords careless keptWords := by
    rw [← reached]
    exact Runs.append_performAll .nil careless
  obtain ⟨_, gets, _, appends, pops, _⟩ := runs_keep_contract made ran
  refine ⟨made, ran, gets, fun outcome after performed => ?_, fun outcome after performed => ?_⟩
  · rcases pops outcome after performed with ⟨empty, _⟩ | ⟨kept, last, split, popped, _⟩
    · cases empty
    · have given : keptWords.pop.1 = some (.int (-3)) := by cbv
      rw [split, Packed.pop_push] at given
      rw [popped]
      exact congrArg Outcome.popped given
  · by_contra changed
    have taken : check .int16 (.int 32768) = .ok () :=
      (appends _ outcome after performed).1.mp changed
    cases taken

end PackedNumbers
