import PackedNumbers.Element

/-!
Sorting the words of an integer code by counting: one slot for each word, in ascending order, then
each slot's run written over the cells.
-/
namespace PackedNumbers.Counting

variable {code : TypeCode}

def slots (code : TypeCode) : Nat := 2 ^ code.bits

def slot (element : Element code) : Nat := (element.toInt - code.least).toNat

def ofSlot (code : TypeCode) (slot : Nat) : Element code :=
  BitVec.ofInt code.bits (code.least + slot)

def tally (elements : Array (Element code)) : Array Nat :=
  elements.foldl (fun counts element => counts.modify (slot element) (· + 1))
    (Array.replicate (slots code) 0)

/-- Cells of which those before `position` hold their final words. -/
structure Filling (code : TypeCode) where
  cells : Array (Element code)
  position : Nat

def run (element : Element code) : (count : Nat) → Filling code → Filling code
  | 0, filling => filling
  | count + 1, filling =>
    run element count ⟨filling.cells.setIfInBounds filling.position element, filling.position + 1⟩

def fill (counts : Array Nat) (filling : Filling code) (slots : Nat) : Filling code :=
  (List.range slots).foldl
    (fun filling slot => run (ofSlot code slot) (counts.getD slot 0) filling) filling

def sort (elements : Array (Element code)) : Array (Element code) :=
  (fill (tally elements) ⟨elements, 0⟩ (slots code)).cells

end PackedNumbers.Counting
