import PackedNumbers.Check
import PackedNumbers.Element
import PackedNumbers.Span

/-!
Vectors of numbers of one code, each stored as a word of the code's width.
-/
namespace PackedNumbers

structure Packed where
  code : TypeCode
  elements : Array (Element code)
  deriving DecidableEq, Repr

inductive Write
  | codeDiffers
  | outside
  | written (vector : Packed)
  deriving DecidableEq, Repr

namespace Packed

def empty (code : TypeCode) : Packed := ⟨code, #[]⟩

def ofElements {code : TypeCode} (elements : List (Element code)) : Packed :=
  ⟨code, elements.toArray⟩

def size (vector : Packed) : Nat := vector.elements.size

def isEmpty (vector : Packed) : Bool := vector.size == 0

def scalars (vector : Packed) : List Scalar := vector.elements.toList.map Element.toScalar

def push (vector : Packed) (element : Element vector.code) : Packed :=
  ⟨vector.code, vector.elements.push element⟩

def add (vector : Packed) (scalar : Scalar) : Packed :=
  vector.push (Element.ofScalar vector.code scalar)

/-- A call that may write to a vector and may be refused. What was written before a refusal stays
written. -/
abbrev Update := ExceptT Fault (StateM Packed)

def call (vector : Packed) (update : Update Unit) : Except Fault Unit × Packed :=
  update.run.run vector

def changed (vector : Packed) (update : Update Unit) : Except Fault Packed :=
  match vector.call update with
  | (.ok (), after) => .ok after
  | (.error fault, _) => .error fault

def appendInPlace (scalar : Scalar) : Update Unit := do
  let vector ← getThe Packed
  check vector.code scalar
  set (vector.add scalar)

def append (vector : Packed) (scalar : Scalar) : Except Fault Packed :=
  vector.changed (appendInPlace scalar)

def pop (vector : Packed) : Option Scalar × Packed :=
  (vector.elements.back?.map Element.toScalar, ⟨vector.code, vector.elements.pop⟩)

def clear (vector : Packed) : Packed := empty vector.code

def get (vector : Packed) (index : Int) : Except Fault Scalar :=
  match found : position? index vector.size with
  | some position =>
    have inside : position < vector.elements.size := position?_lt found
    .ok vector.elements[position].toScalar
  | none => .error (.index index vector.size)

def view? (vector : Packed) (code : TypeCode) : Option (Array (Element code)) :=
  if same : vector.code = code then some (same ▸ vector.elements) else none

def write (vector : Packed) (code : TypeCode) (position : Nat) (element : Element code) : Write :=
  match vector.view? code with
  | none => .codeDiffers
  | some elements =>
    if inside : position < elements.size then .written ⟨code, elements.set position element⟩
    else .outside

def slice (vector : Packed) (start stop : Option Int) : Packed :=
  let span := Span.resolve start stop vector.size
  ⟨vector.code, vector.elements.extract span.start span.stop⟩

@[simp] theorem length_scalars (vector : Packed) : vector.scalars.length = vector.size := by
  simp [scalars, size]

@[simp] theorem scalars_push (vector : Packed) (element : Element vector.code) :
    (vector.push element).scalars = vector.scalars ++ [element.toScalar] := by
  simp [scalars, push]

theorem changed_read (vector : Packed) (next : Packed → Update Unit) :
    vector.changed (getThe Packed >>= next) = vector.changed (next vector) := rfl

theorem changed_judge {Value : Type} (vector : Packed) (verdict : Except Fault Value)
    (next : Value → Update Unit) :
    vector.changed (liftM verdict >>= next) =
      verdict >>= fun value => vector.changed (next value) := by
  cases verdict <;> rfl

theorem append_eq (vector : Packed) (scalar : Scalar) :
    vector.append scalar = (do check vector.code scalar; return vector.add scalar) := by
  rw [append, appendInPlace, changed_read, changed_judge]
  rfl

theorem append_eq_ok_iff {vector after : Packed} {scalar : Scalar} :
    vector.append scalar = .ok after ↔
      check vector.code scalar = .ok () ∧ after = vector.add scalar := by
  rw [append_eq]
  cases check vector.code scalar with
  | error fault =>
    constructor
    · intro impossible
      cases impossible
    · rintro ⟨impossible, _⟩
      cases impossible
  | ok =>
    constructor
    · intro same
      cases same
      exact ⟨rfl, rfl⟩
    · rintro ⟨_, rfl⟩
      rfl

theorem append_eq_error_iff {vector : Packed} {scalar : Scalar} {fault : Fault} :
    vector.append scalar = .error fault ↔ check vector.code scalar = .error fault := by
  rw [append_eq]
  cases check vector.code scalar with
  | error other =>
    constructor <;>
      · intro same
        cases same
        rfl
  | ok =>
    constructor <;>
      · intro impossible
        cases impossible

@[simp] theorem pop_push (vector : Packed) (element : Element vector.code) :
    (vector.push element).pop = (some element.toScalar, vector) := by
  simp [pop, push]

theorem eq_empty_of_isEmpty {vector : Packed} (none_left : vector.isEmpty = true) :
    vector = .empty vector.code := by
  cases vector with
  | mk code elements =>
    have no_size : elements.size = 0 := of_decide_eq_true none_left
    rw [Array.size_eq_zero_iff.mp no_size]
    rfl

theorem exists_push {vector : Packed} (filled : vector.isEmpty = false) :
    ∃ (kept : Packed) (last : Element kept.code), vector = kept.push last := by
  cases vector with
  | mk code elements =>
    cases found : elements.back? with
    | none =>
      rw [Array.back?_eq_none_iff.mp found] at filled
      cases filled
    | some last =>
      obtain ⟨kept, rfl⟩ := Array.back?_eq_some_iff.mp found
      exact ⟨⟨code, kept⟩, last, rfl⟩

@[simp] theorem view?_code (vector : Packed) : vector.view? vector.code = some vector.elements := by
  simp [view?]

theorem view?_eq_none {vector : Packed} {code : TypeCode} (differs : vector.code ≠ code) :
    vector.view? code = none := by
  simp [view?, differs]

theorem toList_slice (vector : Packed) (start stop : Option Int) :
    (vector.slice start stop).elements.toList =
      (vector.elements.toList.drop (Span.resolve start stop vector.size).start).take
        (Span.resolve start stop vector.size).size := by
  simp [slice, Span.size]

theorem size_slice (vector : Packed) (start stop : Option Int) :
    (vector.slice start stop).size = (Span.resolve start stop vector.size).size := by
  have within := Span.resolve_stop_le start stop vector.size
  simp only [size] at within
  simp only [slice, size, Array.size_extract, Span.size]
  omega

def equals (left right : Packed) : Bool :=
  match right.view? left.code with
  | none => false
  | some elements => left.elements.isEqv elements Element.equals

end Packed
end PackedNumbers
