import Mathlib.Data.BitVec
import Mathlib.Data.List.Perm.Basic
import PackedNumbers.Packed

/-!
A vector as its bit patterns. One vector is a rearrangement of another when it holds the same
patterns under the same code, in any order.
-/
namespace PackedNumbers.Packed

def words (vector : Packed) : List Nat := vector.elements.toList.map BitVec.toNat

/-- The same patterns under the same code, each as often. -/
structure Rearranges (left right : Packed) : Prop where
  code_eq : left.code = right.code
  words_perm : left.words.Perm right.words

@[simp] theorem length_words (vector : Packed) : vector.words.length = vector.size := by
  simp [words, size]

theorem rearranges_mk_iff {code : TypeCode} {left right : Array (Element code)} :
    Rearranges ⟨code, left⟩ ⟨code, right⟩ ↔ left.toList.Perm right.toList := by
  constructor
  · intro same
    exact (List.map_perm_map_iff BitVec.toNat_injective).mp same.words_perm
  · intro same
    exact ⟨rfl, same.map BitVec.toNat⟩

theorem Rearranges.symm {left right : Packed} (same : left.Rearranges right) :
    right.Rearranges left :=
  ⟨same.code_eq.symm, same.words_perm.symm⟩

theorem Rearranges.trans {first second third : Packed} (one : first.Rearranges second)
    (two : second.Rearranges third) : first.Rearranges third :=
  ⟨one.code_eq.trans two.code_eq, one.words_perm.trans two.words_perm⟩

theorem Rearranges.size_eq {left right : Packed} (same : left.Rearranges right) :
    left.size = right.size := by
  rw [← length_words, ← length_words, same.words_perm.length_eq]

end PackedNumbers.Packed
