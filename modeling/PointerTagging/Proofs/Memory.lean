import Mathlib.Tactic.Lemma
import PointerTagging.Memory

/-!
# Words in memory

A word that is written is read back (`Memory.readWord_writeWord`), and a word keeps its value as long
as no write touches one of its eight bytes (`Memory.readWord_congr`).
-/

namespace PointerTagging.Memory

variable {m m' : Memory} {start len : Nat}

/-- The number at an address depends on its bytes only. -/
lemma readNat_congr (same : ∀ a, start ≤ a → a < start + len → m'.byteAt a = m.byteAt a) :
    m'.readNat start len = m.readNat start len := by
  induction len generalizing start with
  | zero => rfl
  | succ len ih =>
    have rest : m'.readNat (start + 1) len = m.readNat (start + 1) len :=
      ih fun a le lt => same a (by omega) (by omega)
    rw [readNat, readNat, same start (Nat.le_refl _) (by omega), rest]

/-- The word at an address depends on its eight bytes only. -/
lemma readWord_congr (same : ∀ a, start ≤ a → a < start + 8 → m'.byteAt a = m.byteAt a) :
    m'.readWord start = m.readWord start := by
  rw [readWord, readWord, readNat_congr same]

/-- The bytes of a written word from place `i` on spell what is left of it there. -/
lemma readNat_writeWord (m : Memory) (start : Nat) (word : UInt64) {i : Nat} (bytes : i + len = 8) :
    (m.writeWord start word).readNat (start + i) len = word.toNat >>> (8 * i) := by
  induction len generalizing i with
  | zero =>
    obtain rfl : i = 8 := bytes
    have lt := word.toNat_lt
    rw [readNat, Nat.shiftRight_eq_div_pow]
    omega
  | succ len ih =>
    have byte : (m.writeWord start word).byteAt (start + i) = wordByte word i := by
      simp only [writeWord]
      rw [if_pos (by omega), Nat.add_sub_cancel_left]
    have rest : (m.writeWord start word).readNat (start + i + 1) len = word.toNat >>> (8 * (i + 1)) :=
      ih (i := i + 1) (by omega)
    have low : (wordByte word i).toNat = word.toNat >>> (8 * i) % 256 := by simp [wordByte]
    have high : word.toNat >>> (8 * (i + 1)) = word.toNat >>> (8 * i) / 256 := by
      rw [Nat.mul_succ, Nat.shiftRight_add, Nat.shiftRight_eq_div_pow _ 8]
    rw [readNat, byte, rest, low, high]
    omega

/-- A written word is read back. -/
lemma readWord_writeWord (m : Memory) (start : Nat) (word : UInt64) :
    (m.writeWord start word).readWord start = word := by
  have h := m.readNat_writeWord start word (show 0 + 8 = 8 from rfl)
  rw [Nat.add_zero, Nat.mul_zero, Nat.shiftRight_zero] at h
  rw [readWord, h, ← UInt64.toNat_inj]
  exact Nat.mod_eq_of_lt word.toNat_lt

end PointerTagging.Memory
