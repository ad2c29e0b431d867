import Mathlib.Tactic.Lemma
import PointerTagging.Symbol

/-!
# Sets of symbols

A set of symbols holds a symbol exactly if the bit of the symbol's index is set, so that inserting
and erasing one symbol leaves the others as they are.
-/

namespace PointerTagging.SymbolSet

variable (set : SymbolSet) (s t : Symbol)

/-- The bit of a symbol is a power of two. -/
lemma bit_eq : bit s = BitVec.twoPow 8 s.index := (BitVec.twoPow_eq 8 s.index).symm

/-- Every index is that of a bit. -/
lemma index_lt : s.index < 8 := by
  cases s <;> decide

/-- Only the bit of a symbol itself is set. -/
lemma getLsbD_bit : (bit s).getLsbD t.index = decide (s = t) := by
  rw [bit_eq, BitVec.getLsbD_twoPow, decide_eq_true (index_lt s), Bool.true_and]
  exact decide_eq_decide.mpr ⟨Symbol.index_injective, congrArg Symbol.index⟩

/-- A set holds a symbol if the symbol's bit is set. -/
lemma contains_eq : set.contains s = set.bits.getLsbD s.index := by
  rw [contains, bit_eq, BitVec.and_twoPow]
  cases set.bits.getLsbD s.index with
  | true => cases s <;> decide
  | false => rfl

/-- The empty set holds no symbol. -/
lemma contains_empty : empty.contains s = false := by
  rw [contains_eq]
  exact BitVec.getLsbD_zero

/-- A set with a symbol holds it, and otherwise what it did. -/
lemma contains_insert : (set.insert s).contains t = (decide (s = t) || set.contains t) := by
  rw [contains_eq, contains_eq, insert, BitVec.getLsbD_or, getLsbD_bit, Bool.or_comm]

/-- A set without a symbol does not hold it, and otherwise what it did. -/
lemma contains_erase : (set.erase s).contains t = (!decide (s = t) && set.contains t) := by
  rw [contains_eq, contains_eq, erase, BitVec.getLsbD_and, BitVec.getLsbD_not, getLsbD_bit,
    decide_eq_true (index_lt t), Bool.true_and, Bool.and_comm]

end PointerTagging.SymbolSet
