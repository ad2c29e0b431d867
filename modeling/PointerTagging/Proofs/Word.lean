import Mathlib.Algebra.Group.Nat.Defs
import Mathlib.Tactic.Lemma
import PointerTagging.Word

/-!
# Checked word arithmetic

The checked sum, the checked product and the rounding of words, each as an equation on numbers: an
operation has a result exactly if the exact number fits in a word, and then it is that number.
-/

namespace PointerTagging.Word

/-- The bound of words in digits. -/
lemma bound_eq : bound = 2 ^ 64 := rfl

/-- The number of the larger word. -/
lemma toNat_max (a b : UInt64) : (max a b).toNat = max a.toNat b.toNat := by
  rw [show max a b = if a ≤ b then b else a from rfl]
  split
  case isTrue le => exact (Nat.max_eq_right (UInt64.le_iff_toNat_le.1 le)).symm
  case isFalse gt =>
    rw [UInt64.le_iff_toNat_le] at gt
    exact (Nat.max_eq_left (by omega)).symm

/-- The number of the smaller word. -/
lemma toNat_min (a b : UInt64) : (min a b).toNat = min a.toNat b.toNat := by
  rw [show min a b = if a ≤ b then a else b from rfl]
  split
  case isTrue le => exact (Nat.min_eq_left (UInt64.le_iff_toNat_le.1 le)).symm
  case isFalse gt =>
    rw [UInt64.le_iff_toNat_le] at gt
    exact (Nat.min_eq_right (by omega)).symm

/-- A checked sum is the exact sum, if that fits. -/
lemma add?_eq_some {a b c : UInt64} :
    add? a b = some c ↔ a.toNat + b.toNat < 2 ^ 64 ∧ c.toNat = a.toNat + b.toNat := by
  rw [add?, bound_eq]
  split
  case isTrue h =>
    have e : (a + b).toNat = a.toNat + b.toNat := by
      rw [UInt64.toNat_add, Nat.mod_eq_of_lt h]
    rw [Option.some.injEq, ← UInt64.toNat_inj, e]
    exact ⟨fun e => ⟨h, e.symm⟩, fun e => e.2.symm⟩
  case isFalse h => exact ⟨nofun, fun e => absurd e.1 h⟩

/-- A checked product is the exact product, if that fits. -/
lemma mul?_eq_some {a b c : UInt64} :
    mul? a b = some c ↔ a.toNat * b.toNat < 2 ^ 64 ∧ c.toNat = a.toNat * b.toNat := by
  rw [mul?, bound_eq]
  split
  case isTrue h =>
    have e : (a * b).toNat = a.toNat * b.toNat := by
      rw [UInt64.toNat_mul, Nat.mod_eq_of_lt h]
    rw [Option.some.injEq, ← UInt64.toNat_inj, e]
    exact ⟨fun e => ⟨h, e.symm⟩, fun e => e.2.symm⟩
  case isFalse h => exact ⟨nofun, fun e => absurd e.1 h⟩

/-- Rounding down leaves whole units of the alignment. -/
lemma toNat_alignDown (a : UInt64) : (alignDown a).toNat = a.toNat / 16 * 16 := by
  have e : (a % alignment).toNat = a.toNat % 16 := UInt64.toNat_mod a alignment
  have le : a % alignment ≤ a := by
    rw [UInt64.le_iff_toNat_le, e]
    exact Nat.mod_le _ _
  rw [alignDown, UInt64.toNat_sub_of_le _ _ le, e]
  omega

/-- Rounding up gives the next multiple of the alignment, if what is rounded down fits. -/
lemma alignUp?_eq_some {a c : UInt64} :
    alignUp? a = some c ↔ a.toNat + 15 < 2 ^ 64 ∧ c.toNat = (a.toNat + 15) / 16 * 16 := by
  have e15 : (alignment - 1).toNat = 15 := rfl
  rw [alignUp?, Option.map_eq_some_iff]
  constructor
  · rintro ⟨sum, h, rfl⟩
    rw [add?_eq_some, e15] at h
    exact ⟨h.1, by rw [toNat_alignDown, h.2]⟩
  · rintro ⟨fits, e⟩
    refine ⟨a + (alignment - 1), ?_, ?_⟩
    · rw [add?_eq_some, e15, UInt64.toNat_add, e15]
      exact ⟨fits, Nat.mod_eq_of_lt fits⟩
    · rw [← UInt64.toNat_inj, toNat_alignDown, UInt64.toNat_add, e15, Nat.mod_eq_of_lt fits, e]

end PointerTagging.Word
