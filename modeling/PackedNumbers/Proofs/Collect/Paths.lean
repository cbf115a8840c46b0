import PackedNumbers.Proofs.Builder.Build
import PackedNumbers.Proofs.Element.Scalar

/-!
Ways to the same vector: its words moved as they are, or its scalars collected, appended one by one,
or handed to a builder.
-/
namespace PackedNumbers.Packed

variable {code : TypeCode}

theorem toList_source (vector : Packed) : vector.source.toList = vector.scalars := by
  apply List.ext_getElem
  · simp [source, size]
  · intro position inSource inScalars
    simp [Source.toList, source, scalars]

theorem map_ofScalar_toScalar {elements : List (Element code)}
    (plain : ∀ element ∈ elements, element.Plain) :
    (elements.map Element.toScalar).map (Element.ofScalar code) = elements := by
  rw [List.map_map]
  calc
    _ = elements.map id := by
      apply List.map_congr_left
      intro element member
      exact Element.ofScalar_toScalar (plain element member)
    _ = elements := List.map_id elements

theorem taken_map_toScalar (elements : List (Element code)) :
    ∀ scalar ∈ elements.map Element.toScalar, check code scalar = .ok () := by
  intro scalar member
  obtain ⟨element, _, rfl⟩ := List.mem_map.mp member
  exact element.check_toScalar

theorem collect_of_plain {elements : List (Element code)}
    (plain : ∀ element ∈ elements, element.Plain) {source : Source}
    (read : source.toList = elements.map Element.toScalar) :
    collect code source = .ok (ofElements elements) := by
  have taken := taken_map_toScalar elements
  rw [← read] at taken
  rw [collect_of_taken taken, read, map_ofScalar_toScalar plain]

theorem vector_build_of_taken {scalars : List Scalar}
    (taken : ∀ scalar ∈ scalars, check code scalar = .ok ()) :
    (·.vector) <$> (Builder.ofSteps [.code code, .values (.ofList scalars)]).build =
      (collect code (.ofList scalars)).mapError .fault := by
  have no_refusal : Source.firstRefusal? (check code) scalars = none :=
    Source.firstRefusal?_eq_none_iff.mpr taken
  have sound : Builder.earliestOffence? [.code code, .values (.ofList scalars)] = none := by
    simp [Builder.earliestOffence?, List.range_succ, Builder.Step.offence?, Builder.codeInForce,
      Builder.Step.code?, no_refusal]
  have all : [.code code, .values (.ofList scalars)].flatMap Builder.Step.scalars = scalars := by
    simp [Builder.Step.scalars]
  have last : Builder.codeInForce [.code code, .values (.ofList scalars)] = some code := rfl
  have no_request : Builder.capacityInForce [.code code, .values (.ofList scalars)] = 0 := rfl
  rw [Builder.vector_build_of_sound sound last, all, no_request, Nat.zero_mul,
    if_pos (Nat.zero_le _)]

/-- Words moved as they are, their scalars collected, appended one by one, or handed to a builder
all make one vector; a vector read scalar by scalar is made again. All of it because narrowing
undoes widening, on every word but a NaN with a payload. -/
theorem paths_agree (elements : List (Element code)) (plain : ∀ element ∈ elements, element.Plain) :
    let scalars := elements.map Element.toScalar
    let vector := ofElements elements
    (vector.elements.toList = elements ∧ vector.scalars = scalars) ∧
      collect code (.ofList scalars) = .ok vector ∧
      scalars.foldlM append (empty code) = .ok vector ∧
      (·.vector) <$> (Builder.ofSteps [.code code, .values (.ofList scalars)]).build = .ok vector ∧
      (∀ other : Packed, (∀ element ∈ other.elements.toList, element.Plain) →
        collect other.code other.source = .ok other) ∧
      ∀ element : Element code, element.Plain →
        Element.ofScalar code element.toScalar = element := by
  intro scalars vector
  have collected : collect code (.ofList scalars) = .ok vector :=
    collect_of_plain plain (Source.toList_ofList scalars)
  refine ⟨⟨rfl, rfl⟩, collected, ?_, ?_, ?_, fun element => Element.ofScalar_toScalar⟩
  · rw [← collected, collect, appendAll_eq_foldlM, Source.toList_ofList]
  · rw [vector_build_of_taken (taken_map_toScalar elements), collected]
    rfl
  · intro other plainOther
    exact collect_of_plain plainOther (toList_source other)

def edgeFloats : List (Element .single) :=
  [0x00000000, 0x80000000, 0x7f800000, 0xff800000, 0x00000001, 0x807fffff, 0x7fc00000, 0xffc00000]

theorem paths_agree_edgeFloats :
    (∀ element ∈ edgeFloats, element.Plain) ∧
      collect .single (.ofList (edgeFloats.map Element.toScalar)) =
        .ok (ofElements edgeFloats) := by
  have checked : edgeFloats.all (fun element => decide element.Plain) = true := by decide
  have plain : ∀ element ∈ edgeFloats, element.Plain := by
    intro element member
    exact of_decide_eq_true (List.all_eq_true.mp checked element member)
  exact ⟨plain, (paths_agree edgeFloats plain).2.1⟩

end PackedNumbers.Packed
