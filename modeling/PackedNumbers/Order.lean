import PackedNumbers.Order.Counting
import PackedNumbers.Packed

/-!
Ascending arrangements of a vector.
-/
namespace PackedNumbers

def Element.sortByKey {code : TypeCode} (elements : Array (Element code)) : Array (Element code) :=
  (elements.toList.mergeSort fun left right => left.key ≤ right.key).toArray

namespace Packed

def sort (vector : Packed) : Packed :=
  ⟨vector.code,
    if vector.code.width = 1 then Counting.sort vector.elements
    else Element.sortByKey vector.elements⟩

def isSorted (vector : Packed) : Bool :=
  (vector.elements.toList.zip vector.elements.toList.tail).all fun (left, right) =>
    left.order right != .gt

end Packed
end PackedNumbers
