/-!
# Memory

Bytes at addresses, and the writes that the library makes: a constant, a copy, given bytes, and a
64-bit word. Addresses are natural numbers here, so that the end of a range never wraps around.
Each write comes with what it leaves as it was.
-/

namespace PointerTagging

/-- A byte at every address. What an unmapped address holds is never asked. -/
structure Memory where
  byteAt : Nat → UInt8

/-- The addresses from `start` on, `size` of them. -/
structure Region where
  start : Nat
  size : Nat
  deriving DecidableEq, Repr

/-- True if `len` bytes from `addr` on lie in the region. -/
def Region.covers (region : Region) (addr len : Nat) : Bool :=
  region.start ≤ addr && addr + len ≤ region.start + region.size

namespace Memory

/-- Every byte is zero. -/
def zeroed : Memory := ⟨fun _ => 0⟩

/-- The memory with `len` bytes from `start` on set to `byte`. -/
def fill (m : Memory) (start len : Nat) (byte : UInt8) : Memory :=
  ⟨fun a => if start ≤ a ∧ a < start + len then byte else m.byteAt a⟩

/-- The memory with `len` bytes from `source` on copied to `target`. -/
def copy (m : Memory) (source target len : Nat) : Memory :=
  ⟨fun a => if target ≤ a ∧ a < target + len then m.byteAt (source + (a - target)) else m.byteAt a⟩

/-- The memory with the bytes written from `start` on. -/
def write (m : Memory) (start : Nat) (bytes : List UInt8) : Memory :=
  let data := bytes.toArray
  ⟨fun a => if start ≤ a then data.getD (a - start) (m.byteAt a) else m.byteAt a⟩

/-- The `len` bytes from `start` on. -/
def read (m : Memory) (start len : Nat) : List UInt8 :=
  (List.range len).map fun i => m.byteAt (start + i)

/-- The byte at place `i` of a word, least significant first. -/
def wordByte (word : UInt64) (i : Nat) : UInt8 := (word.toNat >>> (8 * i)).toUInt8

/-- The memory with a word written from `start` on, least significant byte first. -/
def writeWord (m : Memory) (start : Nat) (word : UInt64) : Memory :=
  ⟨fun a => if start ≤ a ∧ a < start + 8 then wordByte word (a - start) else m.byteAt a⟩

/-- The number that `len` bytes from `start` on spell, least significant byte first. -/
def readNat (m : Memory) (start : Nat) : (len : Nat) → Nat
  | 0 => 0
  | len + 1 => (m.byteAt start).toNat + 256 * readNat m (start + 1) len

/-- The word at `start`. -/
def readWord (m : Memory) (start : Nat) : UInt64 := (m.readNat start 8).toUInt64

theorem byteAt_fill_of_mem (m : Memory) {start len a : Nat} (byte : UInt8)
    (h : start ≤ a ∧ a < start + len) : (m.fill start len byte).byteAt a = byte := if_pos h

theorem byteAt_fill_of_not_mem (m : Memory) {start len a : Nat} (byte : UInt8)
    (h : ¬(start ≤ a ∧ a < start + len)) : (m.fill start len byte).byteAt a = m.byteAt a :=
  if_neg h

theorem byteAt_copy_of_mem (m : Memory) {source target len a : Nat}
    (h : target ≤ a ∧ a < target + len) :
    (m.copy source target len).byteAt a = m.byteAt (source + (a - target)) := if_pos h

theorem byteAt_copy_of_not_mem (m : Memory) {source target len a : Nat}
    (h : ¬(target ≤ a ∧ a < target + len)) :
    (m.copy source target len).byteAt a = m.byteAt a := if_neg h

theorem byteAt_write_of_not_mem (m : Memory) {start a : Nat} (bytes : List UInt8)
    (h : ¬(start ≤ a ∧ a < start + bytes.length)) :
    (m.write start bytes).byteAt a = m.byteAt a := by
  simp only [write]
  split
  · rw [Array.getD_eq_getD_getElem?, Array.getElem?_eq_none (by simp; omega), Option.getD_none]
  · rfl

theorem byteAt_writeWord_of_not_mem (m : Memory) {start a : Nat} (word : UInt64)
    (h : ¬(start ≤ a ∧ a < start + 8)) :
    (m.writeWord start word).byteAt a = m.byteAt a := if_neg h

end Memory

end PointerTagging
