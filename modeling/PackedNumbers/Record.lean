import PackedNumbers.LittleEndian
import PackedNumbers.Packed

/-!
The byte form of a vector: one tag byte, the element count in eight bytes, then the words.
-/
namespace PackedNumbers.Record

def countWidth : Nat := 8

def headerSize : Nat := 1 + countWidth

def header (code : TypeCode) (count : Nat) : List UInt8 :=
  code.tag :: LittleEndian.encode countWidth count

def word {code : TypeCode} (element : Element code) : List UInt8 :=
  LittleEndian.encode code.width element.toNat

def encode (vector : Packed) : List UInt8 :=
  header vector.code vector.size ++ vector.elements.toList.flatMap word

def encodedSize (vector : Packed) : Nat := headerSize + vector.size * vector.code.width

def words (code : TypeCode) : (count : Nat) → List UInt8 → List (Element code)
  | 0, _ => []
  | count + 1, payload =>
    BitVec.ofNat code.bits (LittleEndian.decode (payload.take code.width)) ::
      words code count (payload.drop code.width)

@[simp] theorem length_word {code : TypeCode} (element : Element code) :
    (word element).length = code.width :=
  LittleEndian.length_encode ..

@[simp] theorem length_header (code : TypeCode) (count : Nat) :
    (header code count).length = headerSize := by
  simp [header, headerSize, Nat.add_comm]

theorem length_flatMap_word {code : TypeCode} (elements : List (Element code)) :
    (elements.flatMap word).length = elements.length * code.width := by
  induction elements with
  | nil => simp
  | cons element elements ih =>
    rw [List.flatMap_cons, List.length_append, length_word, ih, List.length_cons, Nat.succ_mul,
      Nat.add_comm]

theorem length_encode (vector : Packed) : (encode vector).length = encodedSize vector := by
  rw [encode, List.length_append, length_header, length_flatMap_word, Array.length_toList]
  rfl

theorem ofNat_decode_word {code : TypeCode} (element : Element code) :
    BitVec.ofNat code.bits (LittleEndian.decode (word element)) = element := by
  have bound : element.toNat < 256 ^ code.width :=
    Nat.lt_of_lt_of_eq element.isLt (Nat.pow_mul 2 8 code.width)
  rw [word, LittleEndian.decode_encode, Nat.mod_eq_of_lt bound, BitVec.ofNat_toNat,
    BitVec.setWidth_eq]

theorem words_flatMap_word {code : TypeCode} (elements : List (Element code)) :
    words code elements.length (elements.flatMap word) = elements := by
  induction elements with
  | nil => rfl
  | cons element elements ih =>
    rw [List.length_cons, List.flatMap_cons, words, List.take_left' (length_word element),
      List.drop_left' (length_word element), ofNat_decode_word, ih]

@[simp] theorem length_words (code : TypeCode) (count : Nat) (payload : List UInt8) :
    (words code count payload).length = count := by
  induction count generalizing payload with
  | zero => rfl
  | succ count ih => rw [words, List.length_cons, ih]

theorem word_ofNat_decode {code : TypeCode} {chunk : List UInt8}
    (sized : chunk.length = code.width) :
    word (BitVec.ofNat code.bits (LittleEndian.decode chunk)) = chunk := by
  have bound : LittleEndian.decode chunk < 2 ^ code.bits := by
    rw [Nat.pow_mul 2 8 code.width, ← sized]
    exact LittleEndian.decode_lt chunk
  rw [word, BitVec.toNat_ofNat, Nat.mod_eq_of_lt bound, ← sized, LittleEndian.encode_decode]

theorem flatMap_word_words {code : TypeCode} {count : Nat} {payload : List UInt8}
    (sized : payload.length = count * code.width) :
    (words code count payload).flatMap word = payload := by
  induction count generalizing payload with
  | zero =>
    have empty : payload = [] := by simpa using sized
    rw [empty, words, List.flatMap_nil]
  | succ count ih =>
    rw [Nat.succ_mul] at sized
    have first : (payload.take code.width).length = code.width := by
      rw [List.length_take]
      omega
    have rest : (payload.drop code.width).length = count * code.width := by
      rw [List.length_drop]
      omega
    rw [words, List.flatMap_cons, word_ofNat_decode first, ih rest, List.take_append_drop]

/-- Reads the byte form. A limit bounds the element count that the header may claim, and is judged
before the count is compared with the payload. -/
def decode (bytes : List UInt8) (limit : Option Nat) : Except FormatFault Packed :=
  match bytes with
  | [] => .error (.truncated headerSize 0)
  | tag :: rest =>
    if rest.length < countWidth then .error (.truncated headerSize (rest.length + 1))
    else
      match TypeCode.ofTag? tag with
      | none => .error (.unknownTag tag)
      | some code =>
        let count := LittleEndian.decode (rest.take countWidth)
        let payload := rest.drop countWidth
        match limit.filter (· < count) with
        | some limit => .error (.overLimit count limit)
        | none =>
          if count * code.width = payload.length then .ok (.ofElements (words code count payload))
          else .error (.sizeMismatch count code.width payload.length)

def read (bytes : List UInt8) (limit : Option Nat) : Except Fault Packed :=
  (decode bytes limit).mapError .format

end PackedNumbers.Record
