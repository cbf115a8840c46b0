import PackedNumbers.Allocation
import PackedNumbers.Source
import PackedNumbers.Record

/-!
A vector described step by step, whose first fault is kept until it is built.
-/
namespace PackedNumbers

structure Builder where
  code : Option TypeCode := none
  capacity : Nat := 0
  values : Array Scalar := #[]
  fault : Option Fault := none
  limit : Option Nat := none
  deriving DecidableEq, Repr

namespace Builder

def withCode (builder : Builder) (code : TypeCode) : Builder := { builder with code := some code }

def withCapacity (builder : Builder) (capacity : Nat) : Builder :=
  { builder with capacity := capacity }

def withLimit (builder : Builder) (limit : Nat) : Builder := { builder with limit := some limit }

/-- Adds values up to the first one refused, and keeps its fault. After a fault nothing is added,
and values without a code are a fault even if there are none. -/
def withValues (builder : Builder) (source : Source) : Builder :=
  match builder.fault, builder.code with
  | some _, _ => builder
  | none, none => { builder with fault := some (.argument .codeMissingForValues) }
  | none, some code =>
    let (values, fault) := source.feed (check code) Array.push builder.values
    { builder with values, fault }

/-- The described vector, with room for its values and for the requested capacity. The code may
have changed since the values were added, so they are judged again. -/
def build (builder : Builder) : Except Stop Allocation :=
  match builder.fault, builder.code with
  | some fault, _ => .error (.fault fault)
  | none, none => .error (.fault (.argument .codeMissing))
  | none, some code => do
    -- The values are held already, as scalars, which are wider than words: only the requested
    -- capacity can be too much for a store.
    let start ← Allocation.withCapacity code builder.capacity
    (builder.values.foldlM Allocation.append (start.reserve builder.values.size)).mapError .fault

def decode (builder : Builder) (bytes : List UInt8) : Except Fault Packed := do
  let vector ← Record.read bytes builder.limit
  match builder.code with
  | none => return vector
  | some code =>
    if vector.code = code then return vector
    else throw (.argument (.codeDiffers code vector.code))

inductive Step
  | code (code : TypeCode)
  | capacity (capacity : Nat)
  | limit (limit : Nat)
  | values (source : Source)

def apply (builder : Builder) : Step → Builder
  | .code code => builder.withCode code
  | .capacity capacity => builder.withCapacity capacity
  | .limit limit => builder.withLimit limit
  | .values source => builder.withValues source

def ofSteps (steps : List Step) : Builder := steps.foldl apply {}

end Builder
end PackedNumbers
