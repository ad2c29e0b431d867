import PointerTagging.Request
import PointerTagging.Memory
import PointerTagging.Word
/-!
# The simulated heap

An allocator of fresh, disjoint blocks in a fixed run of bytes. A request takes the next bytes,
sixteen at a time, and no byte is handed out twice. New blocks are filled with a pattern, also those
of `calloc`. An answer can be forced: the next request that has one gets it, and nothing changes.
-/

namespace PointerTagging

/-- A block that is handed out and not freed. -/
structure Block where
  addr : RealAddr
  /-- The size that was asked for. -/
  size : UInt64
  /-- The bytes that the block takes. -/
  extent : Nat
  deriving DecidableEq, Repr

/-- The state of the heap: its size, how much of it was ever handed out, the live blocks, and the
answer forced on the next request. -/
structure Heap where
  capacity : Nat
  used : Nat
  live : List Block
  forced : Option UInt64
  deriving DecidableEq, Repr

namespace Heap

/-- The address of the first byte. -/
def base : Nat := 0x100000000000

/-- The byte that fills new blocks. -/
def pattern : UInt8 := 0xA5

/-- A heap with no block. -/
def fresh (capacity : Nat) : Heap := ⟨capacity, 0, [], none⟩

/-- The addresses of the heap. -/
def region (heap : Heap) : Region := ⟨base, heap.capacity⟩

/-- The live block that starts at an address. -/
def find? (heap : Heap) (addr : RealAddr) : Option Block := heap.live.find? fun b => b.addr == addr

/-- The bytes that a block of the given size takes, if that fits in a word. -/
def extent? (size : UInt64) : Option Nat := (Word.alignUp? (max size 1)).map UInt64.toNat

/-- The next block, of the given size, if there is room for it. -/
def nextBlock? (heap : Heap) (size : UInt64) : Option Block := do
  let extent ← extent? size
  if heap.used + extent ≤ heap.capacity then
    some ⟨⟨(base + heap.used).toUInt64⟩, size, extent⟩
  else none

/-- The heap with the block handed out. -/
def handOut (heap : Heap) (block : Block) : Heap :=
  { heap with used := heap.used + block.extent, live := heap.live ++ [block] }

/-- The heap without the block at an address. -/
def drop (heap : Heap) (addr : RealAddr) : Heap :=
  { heap with live := heap.live.filter fun b => b.addr != addr }

/-- The memory with a new block filled. -/
def dress (memory : Memory) (block : Block) : Memory :=
  memory.fill block.addr.value.toNat block.extent pattern

/-- A new block, or null if there is no room. -/
def malloc (size : UInt64) : Heap × Memory → RealAddr × Heap × Memory
  | (heap, memory) =>
    match heap.nextBlock? size with
    | none => (.null, heap, memory)
    | some block => (block.addr, heap.handOut block, dress memory block)

/-- A new block for an array, or null if its size does not fit in a word. -/
def calloc (count size : UInt64) (state : Heap × Memory) : RealAddr × Heap × Memory :=
  match Word.mul? count size with
  | none => (.null, state)
  | some total => malloc total state

/-- Moves a live block to a new one and copies what both have room for; null makes a new block. The
old block stays if there is no room for a new one, and no other address is accepted. -/
def realloc (addr : RealAddr) (size : UInt64) (state : Heap × Memory) : RealAddr × Heap × Memory :=
  if addr.isNull then malloc size state
  else
    match state.1.find? addr with
    | none => (.null, state)
    | some old =>
      match state.1.nextBlock? size with
      | none => (.null, state)
      | some block =>
        (block.addr, (state.1.handOut block).drop addr,
          (dress state.2 block).copy addr.value.toNat block.addr.value.toNat
            (min old.size size).toNat)

/-- Ends the life of a block. -/
def free (addr : RealAddr) (state : Heap × Memory) : Heap × Memory := (state.1.drop addr, state.2)

/-- The bytes that a live block takes, zero for any other address. -/
def usableSize (addr : RealAddr) (state : Heap × Memory) : UInt64 :=
  match state.1.find? addr with
  | some block => block.extent.toUInt64
  | none => 0

/-- The heap as an allocator: a forced answer comes first and is used up. -/
def allocator : Allocator (Heap × Memory) :=
  let orForced {α : Type} (ofValue : UInt64 → α) (answer : Heap × Memory → α × Heap × Memory) :
      Heap × Memory → α × Heap × Memory
    | (heap, memory) =>
      match heap.forced with
      | some value => (ofValue value, { heap with forced := none }, memory)
      | none => answer (heap, memory)
  { malloc := fun size => orForced RealAddr.mk (malloc size)
    calloc := fun count size => orForced RealAddr.mk (calloc count size)
    realloc := fun addr size => orForced RealAddr.mk (realloc addr size)
    free := free
    usableSize := fun addr => orForced id fun state => (usableSize addr state, state) }

end Heap

end PointerTagging
