import PackedNumbers.Proofs.Record.Acceptance

/-!
A vector is read back from its record bit for bit, and no other vector has that record.
-/
namespace PackedNumbers.Record

theorem drop_headerSize_encode (vector : Packed) :
    (encode vector).drop headerSize = vector.elements.toList.flatMap word := by
  rw [encode, List.drop_left' (length_header vector.code vector.size)]

theorem claimedCount_encode (vector : Packed) :
    claimedCount (encode vector) = vector.size % 256 ^ countWidth := by
  have field : ((encode vector).drop 1).take countWidth =
      LittleEndian.encode countWidth vector.size := by
    rw [encode, header, List.cons_append, List.drop_succ_cons, List.drop_zero]
    exact List.take_left' (LittleEndian.length_encode countWidth vector.size)
  rw [claimedCount, field, LittleEndian.decode_encode]

theorem size_lt_of_fits {vector : Packed} (fits : encodedSize vector < 2 ^ 64) :
    vector.size < 256 ^ countWidth := by
  have room : vector.size ≤ vector.size * vector.code.width :=
    Nat.le_mul_of_pos_right vector.size vector.code.width_pos
  simp only [encodedSize] at fits
  exact Nat.lt_of_le_of_lt (by omega) fits

theorem wellFormed_encode_iff {vector : Packed} {limit : Option Nat} :
    WellFormed (encode vector) limit vector.code ↔
      vector.size < 256 ^ countWidth ∧ ∀ bound, limit = some bound → vector.size ≤ bound := by
  constructor
  · intro formed
    have exact_size := formed.exact_size
    rw [length_encode, encodedSize, Nat.add_sub_cancel_left] at exact_size
    have whole : claimedCount (encode vector) = vector.size :=
      Nat.eq_of_mul_eq_mul_right vector.code.width_pos exact_size
    refine ⟨?_, fun bound given => whole ▸ formed.within bound given⟩
    rw [← whole, claimedCount_encode]
    exact Nat.mod_lt _ (by decide)
  · rintro ⟨bound, within⟩
    have whole : claimedCount (encode vector) = vector.size := by
      rw [claimedCount_encode, Nat.mod_eq_of_lt bound]
    refine ⟨?_, rfl, fun bound given => whole.symm ▸ within bound given, ?_⟩
    · rw [length_encode]
      exact Nat.le_add_right headerSize _
    · rw [whole, length_encode, encodedSize, Nat.add_sub_cancel_left]

theorem wellFormed_encode {vector : Packed} (fits : encodedSize vector < 2 ^ 64) :
    WellFormed (encode vector) none vector.code := by
  refine wellFormed_encode_iff.mpr ⟨size_lt_of_fits fits, ?_⟩
  intro bound given
  cases given

theorem words_drop_headerSize_encode (vector : Packed) :
    words vector.code vector.size ((encode vector).drop headerSize) = vector.elements.toList := by
  rw [drop_headerSize_encode, Packed.size, ← Array.length_toList, words_flatMap_word]

theorem code_eq_of_encode_eq {left right : Packed} (same : encode left = encode right) :
    left.code = right.code := by
  have tags : left.code.tag = right.code.tag := (List.cons.inj same).1
  have codes := TypeCode.ofTag?_tag left.code
  rw [tags, TypeCode.ofTag?_tag] at codes
  exact (Option.some.inj codes).symm

theorem size_eq_of_encode_eq {left right : Packed} (same : encode left = encode right) :
    left.size = right.size := by
  have lengths := congrArg List.length same
  rw [length_encode, length_encode, encodedSize, encodedSize, code_eq_of_encode_eq same] at lengths
  exact Nat.eq_of_mul_eq_mul_right right.code.width_pos (Nat.add_left_cancel lengths)

/-- The record determines the vector even where its count field would wrap: the code is in the tag,
the element count in the length of the payload. -/
theorem encode_injective {left right : Packed} (same : encode left = encode right) :
    left = right := by
  have code := code_eq_of_encode_eq same
  have size := size_eq_of_encode_eq same
  have lefts := words_drop_headerSize_encode left
  have rights := words_drop_headerSize_encode right
  rw [same, size] at lefts
  cases left with
  | mk leftCode leftElements =>
    cases right with
    | mk rightCode rightElements =>
      cases code
      exact congrArg (Packed.mk leftCode) (Array.toList_inj.mp (lefts.symm.trans rights))

theorem decode_eq_ok_iff {bytes : List UInt8} {limit : Option Nat} {vector : Packed} :
    decode bytes limit = .ok vector ↔
      bytes = encode vector ∧ vector.size < 256 ^ countWidth ∧
        ∀ bound, limit = some bound → vector.size ≤ bound := by
  constructor
  · intro accepted
    obtain ⟨formed, rfl⟩ := decode_eq_ok accepted
    exact ⟨rfl, wellFormed_encode_iff.mp formed⟩
  · rintro ⟨rfl, admitted⟩
    have accepted := decode_of_wellFormed (wellFormed_encode_iff.mpr admitted)
    rw [accepted, encode_injective (decode_eq_ok accepted).2]

/-- A vector whose record has a 64-bit size is read back with its code and every bit of its
elements. The record has the announced size, and it is the record of no other vector. -/
theorem read_encode (vector : Packed) (fits : encodedSize vector < 2 ^ 64) :
    read (encode vector) none = .ok vector ∧
      (encode vector).length = encodedSize vector ∧
      ∀ other, encode other = encode vector → other = vector := by
  have accepted := decode_of_wellFormed (wellFormed_encode fits)
  refine ⟨?_, length_encode vector, fun other same => encode_injective same⟩
  have same : encode _ = encode vector := (decode_eq_ok accepted).2
  rw [read_eq_ok_iff, accepted, encode_injective same]

def fragileFloats : Packed := ⟨.single, #[0x7fa00001, 0x80000000, 0x00000001]⟩

theorem read_encode_fragileFloats :
    encodedSize fragileFloats < 2 ^ 64 ∧
      read (encode fragileFloats) none = .ok fragileFloats ∧
      (encode fragileFloats).length = 21 := by
  have fits : encodedSize fragileFloats < 2 ^ 64 := by decide
  have exact_read := read_encode fragileFloats fits
  exact ⟨fits, exact_read.1, exact_read.2.1⟩

end PackedNumbers.Record
