import PackedNumbers.Proofs.Record.Conditions

/-!
Reading a record with 64-bit products and indices that may miss. Every partial step says so by
`none`, and none of them is ever reached.
-/
namespace PackedNumbers.Record

def window? (bytes : List UInt8) (start size : Nat) : Option (List UInt8) :=
  if start + size ≤ bytes.length then some ((bytes.drop start).take size) else none

def product? (left right : Nat) : Option Nat :=
  if left * right < 2 ^ 64 then some (left * right) else none

def cells? (code : TypeCode) (payload : List UInt8) :
    (count : Nat) → (offset : Nat) → Option (List (Element code))
  | 0, _ => some []
  | count + 1, offset => do
    let chunk ← window? payload offset code.width
    let rest ← cells? code payload count (offset + code.width)
    return BitVec.ofNat code.bits (LittleEndian.decode chunk) :: rest

/-- Reads the byte form by indices; `none` where one lies outside the bytes. A product that leaves
64 bits is a size that does not fit. -/
def decodeChecked (bytes : List UInt8) (limit : Option Nat) :
    Option (Except FormatFault Packed) :=
  if bytes.length < headerSize then some (.error (.truncated headerSize bytes.length))
  else do
    let tag ← bytes[0]?
    match TypeCode.ofTag? tag with
    | none => return .error (.unknownTag tag)
    | some code =>
      let field ← window? bytes 1 countWidth
      let count := LittleEndian.decode field
      match limit.filter (· < count) with
      | some bound => return .error (.overLimit count bound)
      | none =>
        let payload ← window? bytes headerSize (bytes.length - headerSize)
        if product? count code.width = some payload.length then
          let elements ← cells? code payload (payload.length / code.width) 0
          return .ok (.ofElements elements)
        else return .error (.sizeMismatch count code.width payload.length)

theorem window?_eq_some {bytes : List UInt8} {start size : Nat}
    (inside : start + size ≤ bytes.length) :
    window? bytes start size = some ((bytes.drop start).take size) := by
  rw [window?, if_pos inside]

theorem cells?_eq_words (code : TypeCode) (payload : List UInt8) (count offset : Nat)
    (inside : offset + count * code.width ≤ payload.length) :
    cells? code payload count offset = some (words code count (payload.drop offset)) := by
  induction count generalizing offset with
  | zero => rfl
  | succ count ih =>
    rw [Nat.succ_mul] at inside
    have here : offset + code.width ≤ payload.length := by omega
    have later : offset + code.width + count * code.width ≤ payload.length := by omega
    rw [cells?, window?_eq_some here, ih (offset + code.width) later, words, List.drop_drop]
    rfl

/-- Below 64 bits of payload, a product that wraps is no different from one that is too large. -/
theorem product?_eq_some_iff {left right size : Nat} (fits : size < 2 ^ 64) :
    product? left right = some size ↔ left * right = size := by
  unfold product?
  split
  · exact Option.some_inj
  · next large =>
    constructor
    · intro impossible
      cases impossible
    · intro same
      omega

theorem cells?_of_size {code : TypeCode} {payload : List UInt8} {count : Nat}
    (sized : count * code.width = payload.length) :
    cells? code payload (payload.length / code.width) 0 = some (words code count payload) := by
  have whole : payload.length / code.width = count := by
    rw [← sized, Nat.mul_div_cancel count code.width_pos]
  have inside : 0 + count * code.width ≤ payload.length := by omega
  rw [whole, cells?_eq_words code payload count 0 inside, List.drop_zero]

theorem decodeChecked_of_tag {bytes : List UInt8} {code : TypeCode}
    (fits : bytes.length < 2 ^ 64) (header : headerSize ≤ bytes.length)
    (first : bytes[0]? = some code.tag) (limit : Option Nat) :
    decodeChecked bytes limit = some (decode bytes limit) := by
  have long : ¬ bytes.length < headerSize := Nat.not_lt_of_le header
  have field : window? bytes 1 countWidth = some ((bytes.drop 1).take countWidth) :=
    window?_eq_some header
  have size : (bytes.drop headerSize).length = bytes.length - headerSize := List.length_drop
  have payload : window? bytes headerSize (bytes.length - headerSize) =
      some (bytes.drop headerSize) := by
    rw [window?_eq_some (by omega), ← size, List.take_length]
  have product : product? (claimedCount bytes) code.width = some (bytes.drop headerSize).length ↔
      claimedCount bytes * code.width = bytes.length - headerSize := by
    rw [product?_eq_some_iff (by omega), size]
  have count : LittleEndian.decode ((bytes.drop 1).take countWidth) = claimedCount bytes := rfl
  rw [decodeChecked, if_neg long, first, decode_of_tag header first]
  simp only [Option.bind_eq_bind, Option.bind_some, TypeCode.ofTag?_tag, field, count]
  cases limit.filter (· < claimedCount bytes) with
  | some bound => rfl
  | none =>
    simp only [payload, Option.bind_some, product]
    by_cases same : claimedCount bytes * code.width = bytes.length - headerSize
    · rw [if_pos same, if_pos same, cells?_of_size (same.trans size.symm)]
      rfl
    · rw [if_neg same, if_neg same, size]
      rfl

theorem decodeChecked_eq_some {bytes : List UInt8} (fits : bytes.length < 2 ^ 64)
    (limit : Option Nat) : decodeChecked bytes limit = some (decode bytes limit) := by
  by_cases short : bytes.length < headerSize
  · rw [decode_of_firstFault (.truncated short), decodeChecked, if_pos short]
  have header : headerSize ≤ bytes.length := Nat.le_of_not_lt short
  have inside : 0 < bytes.length := Nat.lt_of_lt_of_le (by decide) header
  have first : bytes[0]? = some bytes[0] := List.getElem?_eq_getElem inside
  by_cases known : ∃ code : TypeCode, code.tag = bytes[0]
  · obtain ⟨code, named⟩ := known
    exact decodeChecked_of_tag fits header (named ▸ first) limit
  · have unknown : ∀ code : TypeCode, code.tag ≠ bytes[0] :=
      fun code same => known ⟨code, same⟩
    rw [decode_of_firstFault (.unknownTag header first unknown), decodeChecked, if_neg short, first,
      Option.bind_eq_bind, Option.bind_some, ofTag?_eq_none unknown]
    rfl

end PackedNumbers.Record
