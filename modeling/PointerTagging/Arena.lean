import PointerTagging.Address
import PointerTagging.Memory
import PointerTagging.Word
/-!
# The bootstrap arena

A fixed run of bytes from which chunks are cut off one after the other while an allocator symbol is
still being resolved. A chunk is a header of sixteen bytes, whose first word holds the requested
size, and a payload rounded up to sixteen bytes. Chunks are never reused, and the bytes not yet
handed out are zero.
-/

namespace PointerTagging

/-- An arena: how many bytes it has, and how many are handed out, headers included. -/
structure Arena where
  capacity : Nat
  used : Nat
  deriving DecidableEq, Repr

namespace Arena

/-- A chunk that was handed out: the address of its payload, and the requested size. -/
structure Chunk where
  addr : RealAddr
  size : UInt64
  deriving DecidableEq, Repr

/-- The address of the first byte. -/
def base : Nat := 0x110000000000

/-- The size of a chunk's header. -/
def headerSize : Nat := Word.alignment.toNat

/-- The size of the arena of a process. -/
def processCapacity : Nat := 64 * 1024

/-- An arena from which nothing is handed out yet. -/
def fresh (capacity : Nat) : Arena := ⟨capacity, 0⟩

/-- The addresses of the arena. -/
def region (arena : Arena) : Region := ⟨base, arena.capacity⟩

/-- The size of the chunk for a request, header included, if it fits in a word. -/
def chunkSize? (size : UInt64) : Option UInt64 :=
  (Word.alignUp? size).bind (Word.add? · Word.alignment)

/-- Where the next chunk ends that starts at `offset`, if it ends within the capacity. -/
def chunkEnd? (capacity offset : Nat) (size : UInt64) : Option Nat := do
  let chunk ← chunkSize? size
  let stop ← Word.add? offset.toUInt64 chunk
  if stop.toNat ≤ capacity then some stop.toNat else none

/-- The address of the payload of the chunk at `offset`. -/
def payload (offset : Nat) : RealAddr := ⟨(base + offset + headerSize).toUInt64⟩

/-- Hands out a chunk, its header written, or nothing once the rest is too small. -/
def alloc (arena : Arena) (memory : Memory) (size : UInt64) : Option (RealAddr × Arena × Memory) :=
  (chunkEnd? arena.capacity arena.used size).map fun stop =>
    (payload arena.used, { arena with used := stop }, memory.writeWord (base + arena.used) size)

/-- True of an address where a payload of this arena can lie. -/
def contains (arena : Arena) (addr : RealAddr) : Bool :=
  base + headerSize ≤ addr.value.toNat && addr.value.toNat < base + arena.capacity

/-- The requested size of the chunk at an address, if it lies in the arena. -/
def usableSize? (arena : Arena) (memory : Memory) (addr : RealAddr) : Option UInt64 :=
  if arena.contains addr then some (memory.readWord (addr.value.toNat - headerSize)) else none

end Arena

end PointerTagging
