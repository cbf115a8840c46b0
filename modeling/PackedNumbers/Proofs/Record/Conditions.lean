import PackedNumbers.Record

/-!
Which bytes are records, said of the bytes alone, and what reading does under each condition.
-/
namespace PackedNumbers.Record

def claimedCount (bytes : List UInt8) : Nat :=
  LittleEndian.decode ((bytes.drop 1).take countWidth)

structure WellFormed (bytes : List UInt8) (limit : Option Nat) (code : TypeCode) : Prop where
  header : headerSize ≤ bytes.length
  tag : bytes[0]? = some code.tag
  within : ∀ bound, limit = some bound → claimedCount bytes ≤ bound
  exact_size : claimedCount bytes * code.width = bytes.length - headerSize

/-- The first condition that the bytes fail, in the order of judgement. -/
inductive FirstFault (bytes : List UInt8) (limit : Option Nat) : FormatFault → Prop
  | truncated (short : bytes.length < headerSize) :
      FirstFault bytes limit (.truncated headerSize bytes.length)
  | unknownTag {tag : UInt8} (header : headerSize ≤ bytes.length) (first : bytes[0]? = some tag)
      (unknown : ∀ code : TypeCode, code.tag ≠ tag) :
      FirstFault bytes limit (.unknownTag tag)
  | overLimit {code : TypeCode} {bound : Nat} (header : headerSize ≤ bytes.length)
      (first : bytes[0]? = some code.tag) (given : limit = some bound)
      (above : bound < claimedCount bytes) :
      FirstFault bytes limit (.overLimit (claimedCount bytes) bound)
  | sizeMismatch {code : TypeCode} (header : headerSize ≤ bytes.length)
      (first : bytes[0]? = some code.tag)
      (within : ∀ bound, limit = some bound → claimedCount bytes ≤ bound)
      (differs : claimedCount bytes * code.width ≠ bytes.length - headerSize) :
      FirstFault bytes limit
        (.sizeMismatch (claimedCount bytes) code.width (bytes.length - headerSize))

theorem ofTag?_eq_none {tag : UInt8} (unknown : ∀ code : TypeCode, code.tag ≠ tag) :
    TypeCode.ofTag? tag = none := by
  apply List.find?_eq_none.mpr
  intro code _
  simpa using unknown code

theorem decode_of_tag {bytes : List UInt8} {code : TypeCode} (header : headerSize ≤ bytes.length)
    (first : bytes[0]? = some code.tag) (limit : Option Nat) :
    decode bytes limit =
      match limit.filter (· < claimedCount bytes) with
      | some bound => .error (.overLimit (claimedCount bytes) bound)
      | none =>
        if claimedCount bytes * code.width = bytes.length - headerSize then
          .ok (.ofElements (words code (claimedCount bytes) (bytes.drop headerSize)))
        else
          .error (.sizeMismatch (claimedCount bytes) code.width (bytes.length - headerSize)) := by
  cases bytes with
  | nil => simp at first
  | cons tag rest =>
    have named : tag = code.tag := by simpa using first
    have complete : ¬ rest.length < countWidth := by
      simp only [headerSize, List.length_cons] at header
      omega
    have size : (tag :: rest).length - headerSize = (rest.drop countWidth).length := by
      simp only [headerSize, List.length_cons, List.length_drop]
      omega
    have payload : (tag :: rest).drop headerSize = rest.drop countWidth := by
      rw [headerSize, Nat.add_comm, List.drop_succ_cons]
    rw [decode, if_neg complete, named, TypeCode.ofTag?_tag, ← named, size, payload]
    rfl

theorem filter_limit_of_within {limit : Option Nat} {count : Nat}
    (within : ∀ bound, limit = some bound → count ≤ bound) : limit.filter (· < count) = none := by
  cases limit with
  | none => rfl
  | some bound =>
    have allowed := within bound rfl
    rw [Option.filter_some, if_neg (by simpa using allowed)]

theorem decode_of_firstFault {bytes : List UInt8} {limit : Option Nat} {fault : FormatFault}
    (first : FirstFault bytes limit fault) : decode bytes limit = .error fault := by
  cases first with
  | truncated short =>
    cases bytes with
    | nil => rfl
    | cons tag rest =>
      have incomplete : rest.length < countWidth := by
        simp only [headerSize, List.length_cons] at short
        omega
      rw [decode, if_pos incomplete]
      rfl
  | @unknownTag tag header first unknown =>
    cases bytes with
    | nil => simp at first
    | cons head rest =>
      have complete : ¬ rest.length < countWidth := by
        simp only [headerSize, List.length_cons] at header
        omega
      have same : head = tag := by simpa using first
      rw [decode, if_neg complete, same, ofTag?_eq_none unknown]
  | overLimit header first given above =>
    rw [decode_of_tag header first, given, Option.filter_some, if_pos (by simpa using above)]
  | sizeMismatch header first within differs =>
    rw [decode_of_tag header first, filter_limit_of_within within]
    exact if_neg differs

theorem decode_of_wellFormed {bytes : List UInt8} {limit : Option Nat} {code : TypeCode}
    (formed : WellFormed bytes limit code) :
    decode bytes limit =
      .ok (.ofElements (words code (claimedCount bytes) (bytes.drop headerSize))) := by
  rw [decode_of_tag formed.header formed.tag, filter_limit_of_within formed.within]
  exact if_pos formed.exact_size

theorem firstFault_or_wellFormed (bytes : List UInt8) (limit : Option Nat) :
    (∃ fault, FirstFault bytes limit fault) ∨ ∃ code, WellFormed bytes limit code := by
  by_cases header : headerSize ≤ bytes.length
  · obtain ⟨tag, first⟩ : ∃ tag, bytes[0]? = some tag := by
      have inside : 0 < bytes.length := Nat.lt_of_lt_of_le (by decide) header
      exact ⟨bytes[0], List.getElem?_eq_getElem inside⟩
    by_cases known : ∃ code : TypeCode, code.tag = tag
    · obtain ⟨code, rfl⟩ := known
      by_cases above : ∃ bound, limit = some bound ∧ bound < claimedCount bytes
      · obtain ⟨bound, given, above⟩ := above
        exact .inl ⟨_, .overLimit header first given above⟩
      · have within : ∀ bound, limit = some bound → claimedCount bytes ≤ bound :=
          fun bound given => Nat.le_of_not_lt fun larger => above ⟨bound, given, larger⟩
        by_cases same : claimedCount bytes * code.width = bytes.length - headerSize
        · exact .inr ⟨code, header, first, within, same⟩
        · exact .inl ⟨_, .sizeMismatch header first within same⟩
    · exact .inl ⟨_, .unknownTag header first fun code same => known ⟨code, same⟩⟩
  · exact .inl ⟨_, .truncated (Nat.lt_of_not_le header)⟩

theorem encode_words_of_wellFormed {bytes : List UInt8} {limit : Option Nat} {code : TypeCode}
    (formed : WellFormed bytes limit code) :
    encode (.ofElements (words code (claimedCount bytes) (bytes.drop headerSize))) = bytes := by
  have payload : (bytes.drop headerSize).length = claimedCount bytes * code.width := by
    rw [List.length_drop, formed.exact_size]
  have field : ((bytes.drop 1).take countWidth).length = countWidth := by
    have header := formed.header
    rw [headerSize] at header
    rw [List.length_take, List.length_drop]
    omega
  have count : LittleEndian.encode countWidth (claimedCount bytes) =
      (bytes.drop 1).take countWidth := by
    have written := LittleEndian.encode_decode ((bytes.drop 1).take countWidth)
    rwa [field] at written
  have tag : code.tag :: bytes.drop 1 = bytes := by
    cases bytes with
    | nil =>
      have first := formed.tag
      simp at first
    | cons head rest =>
      have same : head = code.tag := by simpa using formed.tag
      rw [same, List.drop_succ_cons, List.drop_zero]
  calc
    _ = code.tag :: ((bytes.drop 1).take countWidth ++ bytes.drop headerSize) := by
      simp only [encode, header, Packed.ofElements, Packed.size, List.size_toArray, length_words,
        count, flatMap_word_words payload, List.cons_append]
    _ = code.tag :: bytes.drop 1 := by
      rw [headerSize, ← List.drop_drop, List.take_append_drop]
    _ = bytes := tag

end PackedNumbers.Record
