import PackedNumbers.Proofs.Collect.Refusal
import PackedNumbers.Proofs.Element.Narrowing
import PackedNumbers.Proofs.Order.Canonical

/-!
Sorting before or after storing: scalars collected in ascending order are the sorted vector of the
same scalars in any other order.
-/
namespace PackedNumbers.Packed

variable {code : TypeCode} {scalars ascending : List Scalar}

theorem arranges_map_ofScalar (taken : ∀ scalar ∈ scalars, check code scalar = .ok ())
    (plain : ∀ scalar ∈ scalars, scalar.Plain)
    (arranged : Arranges Scalar.order ascending scalars) :
    Arranges Element.order (ascending.map (Element.ofScalar code))
      (scalars.map (Element.ofScalar code)) where
  perm := arranged.perm.map _
  ordered := by
    rw [List.pairwise_map]
    apply arranged.ordered.imp_of_mem
    intro left right leftMember rightMember below
    have leftIn := arranged.perm.subset leftMember
    have rightIn := arranged.perm.subset rightMember
    exact Element.order_ofScalar (taken left leftIn) (taken right rightIn) (plain left leftIn)
      (plain right rightIn) below

/-- Scalars that the code takes may be put in order before they are stored or after: the vector is
the same, bit for bit. For narrowing never turns the order of two scalars around. -/
theorem sort_collect (code : TypeCode) (source sorted : Source)
    (taken : ∀ scalar ∈ source.toList, check code scalar = .ok ())
    (plain : ∀ scalar ∈ source.toList, scalar.Plain)
    (arranged : Arranges Scalar.order sorted.toList source.toList) :
    (∃ vector, collect code source = .ok vector ∧ collect code sorted = .ok vector.sort) ∧
      ∀ left right : Scalar, check code left = .ok () → check code right = .ok () →
        left.Plain → right.Plain → left.order right ≠ .gt →
        (Element.ofScalar code left).order (Element.ofScalar code right) ≠ .gt := by
  constructor
  · have sortedTaken : ∀ scalar ∈ sorted.toList, check code scalar = .ok () :=
      fun scalar member => taken scalar (arranged.perm.subset member)
    refine ⟨_, collect_of_taken taken, ?_⟩
    rw [collect_of_taken sortedTaken,
      sort_ofElements_of_arranges (arranges_map_ofScalar taken plain arranged)]
  · intro left right leftTaken rightTaken leftPlain rightPlain below
    exact Element.order_ofScalar leftTaken rightTaken leftPlain rightPlain below

/-- A NaN, two doubles that fall on one single, one that overflows, and two that underflow. -/
def crowdedDoubles : List Scalar :=
  [.float 0x7ff8000000000000, .float 0x3ff0000000000001, .float 0x7fe0000000000000,
    .float 0x3ff0000000000000, .float 0x0010000000000000, .float 0x8010000000000000,
    .float 0xfff8000000000000]

def orderedDoubles : List Scalar :=
  [.float 0xfff8000000000000, .float 0x8010000000000000, .float 0x0010000000000000,
    .float 0x3ff0000000000000, .float 0x3ff0000000000001, .float 0x7fe0000000000000,
    .float 0x7ff8000000000000]

def orderedSingles : Packed :=
  ⟨.single, #[0xffc00000, 0x80000000, 0x00000000, 0x3f800000, 0x3f800000, 0x7f800000, 0x7fc00000]⟩

theorem sort_collect_crowdedDoubles :
    Arranges Scalar.order orderedDoubles crowdedDoubles ∧
      collect .single (.ofList orderedDoubles) = .ok orderedSingles ∧
      ∃ vector, collect .single (.ofList crowdedDoubles) = .ok vector ∧
        vector.sort = orderedSingles := by
  have taken : ∀ scalar ∈ (Source.ofList crowdedDoubles).toList,
      check .single scalar = .ok () := by decide
  have plain : ∀ scalar ∈ (Source.ofList crowdedDoubles).toList, scalar.Plain := by decide
  have arranged : Arranges Scalar.order orderedDoubles crowdedDoubles := ⟨by decide, by decide⟩
  have stored : collect .single (.ofList orderedDoubles) = .ok orderedSingles := by
    decide +kernel
  refine ⟨arranged, stored, ?_⟩
  obtain ⟨⟨vector, collected, sorted⟩, _⟩ := sort_collect .single (.ofList crowdedDoubles)
    (.ofList orderedDoubles) taken plain (by simpa using arranged)
  refine ⟨vector, collected, ?_⟩
  rw [stored] at sorted
  exact (Except.ok.inj sorted).symm

end PackedNumbers.Packed
