import PackedNumbers.Proofs.Record.Checked

/-!
Reading accepts exactly the well-formed bytes, each of which is the written form of what is read,
and names the first condition that any other bytes fail.
-/
namespace PackedNumbers.Record

theorem read_eq_ok_iff {bytes : List UInt8} {limit : Option Nat} {vector : Packed} :
    read bytes limit = .ok vector ↔ decode bytes limit = .ok vector := by
  rw [read]
  cases decode bytes limit with
  | error cause =>
    constructor <;>
      · intro impossible
        cases impossible
  | ok other =>
    constructor <;>
      · intro same
        cases same
        rfl

theorem read_eq_error_iff {bytes : List UInt8} {limit : Option Nat} {fault : Fault} :
    read bytes limit = .error fault ↔
      ∃ cause, fault = .format cause ∧ decode bytes limit = .error cause := by
  rw [read]
  cases decode bytes limit with
  | error cause =>
    constructor
    · intro same
      cases same
      exact ⟨cause, rfl, rfl⟩
    · rintro ⟨other, rfl, same⟩
      cases same
      rfl
  | ok vector =>
    constructor
    · intro impossible
      cases impossible
    · rintro ⟨cause, _, impossible⟩
      cases impossible

theorem decode_eq_ok {bytes : List UInt8} {limit : Option Nat} {vector : Packed}
    (accepted : decode bytes limit = .ok vector) :
    WellFormed bytes limit vector.code ∧ encode vector = bytes := by
  rcases firstFault_or_wellFormed bytes limit with ⟨fault, first⟩ | ⟨code, formed⟩
  · rw [decode_of_firstFault first] at accepted
    cases accepted
  · rw [decode_of_wellFormed formed] at accepted
    cases accepted
    exact ⟨formed, encode_words_of_wellFormed formed⟩

theorem decode_eq_error_iff {bytes : List UInt8} {limit : Option Nat} {fault : FormatFault} :
    decode bytes limit = .error fault ↔ FirstFault bytes limit fault := by
  constructor
  · intro rejected
    rcases firstFault_or_wellFormed bytes limit with ⟨other, first⟩ | ⟨code, formed⟩
    · rw [decode_of_firstFault first] at rejected
      cases rejected
      exact first
    · rw [decode_of_wellFormed formed] at rejected
      cases rejected
  · exact decode_of_firstFault

/-- Reading succeeds on well-formed bytes and on no others, and then the bytes are the written form
of the vector. Otherwise it names the first condition that fails. The same answers come from 64-bit
products and indices that may miss, so no count makes either leave its range. -/
theorem read_exactly_records (bytes : List UInt8) (limit : Option Nat) :
    ((∃ vector, read bytes limit = .ok vector) ↔ ∃ code, WellFormed bytes limit code) ∧
      (∀ vector, read bytes limit = .ok vector →
        WellFormed bytes limit vector.code ∧ encode vector = bytes) ∧
      (∀ fault, read bytes limit = .error fault ↔
        ∃ cause, fault = .format cause ∧ FirstFault bytes limit cause) ∧
      (bytes.length < 2 ^ 64 → decodeChecked bytes limit = some (decode bytes limit)) := by
  refine ⟨⟨?_, ?_⟩, ?_, ?_, ?_⟩
  · rintro ⟨vector, accepted⟩
    exact ⟨vector.code, (decode_eq_ok (read_eq_ok_iff.mp accepted)).1⟩
  · rintro ⟨code, formed⟩
    exact ⟨_, read_eq_ok_iff.mpr (decode_of_wellFormed formed)⟩
  · intro vector accepted
    exact decode_eq_ok (read_eq_ok_iff.mp accepted)
  · intro fault
    simp only [read_eq_error_iff, decode_eq_error_iff]
  · intro fits
    exact decodeChecked_eq_some fits limit

/-- One four-byte word, and a count whose product with the width is four in 64 bits. -/
def wrappingCount : List UInt8 := [5, 1, 0, 0, 0, 0, 0, 0, 64, 7, 0, 0, 0]

theorem read_wrappingCount :
    FirstFault wrappingCount (some (2 ^ 63)) (.sizeMismatch (2 ^ 62 + 1) 4 4) ∧
      read wrappingCount (some (2 ^ 63)) = .error (.format (.sizeMismatch (2 ^ 62 + 1) 4 4)) ∧
      wrappingCount.length < 2 ^ 64 ∧
      decodeChecked wrappingCount (some (2 ^ 63)) =
        some (decode wrappingCount (some (2 ^ 63))) := by
  have within : ∀ bound, some (2 ^ 63) = some bound → claimedCount wrappingCount ≤ bound := by
    intro bound given
    cases given
    decide
  have first : FirstFault wrappingCount (some (2 ^ 63)) (.sizeMismatch (2 ^ 62 + 1) 4 4) :=
    @FirstFault.sizeMismatch _ _ .uint32 (by decide) rfl within (by decide)
  have judged := read_exactly_records wrappingCount (some (2 ^ 63))
  exact ⟨first, (judged.2.2.1 _).mpr ⟨_, rfl, first⟩, by decide, judged.2.2.2 (by decide)⟩

end PackedNumbers.Record
