/-!
# Sizes as 64-bit words

Sums and products that either fit in 64 bits or are refused, and rounding up to the alignment that
every allocation in this library has.
-/

namespace PointerTagging.Word

/-- The number of 64-bit words. -/
def bound : Nat := UInt64.size

/-- The sum, if it fits. -/
def add? (a b : UInt64) : Option UInt64 := if a.toNat + b.toNat < bound then some (a + b) else none

/-- The product, if it fits. -/
def mul? (a b : UInt64) : Option UInt64 := if a.toNat * b.toNat < bound then some (a * b) else none

/-- The alignment of allocations, and the size of a chunk header. -/
def alignment : UInt64 := 16

/-- The word rounded down to the alignment. -/
def alignDown (a : UInt64) : UInt64 := a - a % alignment

/-- The word rounded up to the alignment, if that fits. -/
def alignUp? (a : UInt64) : Option UInt64 := (add? a (alignment - 1)).map alignDown

end PointerTagging.Word
