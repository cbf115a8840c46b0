import PackedNumbers.Proofs.Element.Range
import PackedNumbers.Proofs.Record.RoundTrip

/-!
The record of a changed vector from the record before the change. Every element has its own cell of
bytes, and slices, appends and pops move whole cells under a new header.
-/
namespace PackedNumbers.Record

def payload (vector : Packed) : List UInt8 := (encode vector).drop headerSize

variable {code : TypeCode}

end PackedNumbers.Record
