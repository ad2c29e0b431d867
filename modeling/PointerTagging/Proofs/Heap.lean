import PointerTagging.Heap
import PointerTagging.Proofs.Allocator
import PointerTagging.Proofs.Word

/-!
# The simulated heap as an allocator

Where the heap puts its blocks. A heap below the tag bits returns no pointer with a tag bit set
(`Heap.canonical`).
-/

namespace PointerTagging

/-- An address below the tag bits is not encoded. -/
lemma isEncoded_of_lt {a : UInt64} (lt : a.toNat < 2 ^ 48) : isEncoded a = false := by
  have e : highBits.toNat = (2 ^ 16 - 1) <<< 48 := by decide
  rw [isEncoded_eq_false]
  apply UInt64.toNat_inj.1
  rw [UInt64.toNat_and, e]
  apply Nat.eq_of_testBit_eq
  intro i
  rw [Nat.testBit_and, Nat.testBit_shiftLeft, UInt64.toNat_zero, Nat.zero_testBit]
  by_cases le : 48 ≤ i
  · have lt' : a.toNat < 2 ^ i := Nat.lt_of_lt_of_le lt (Nat.pow_le_pow_right (by omega) le)
    rw [Nat.testBit_lt_two_pow lt', Bool.false_and]
  · simp [le]

namespace Heap

variable {heap : Heap} {size : UInt64} {block : Block}

/-- What the next block is: its place is where the used bytes end, it has room for the size and one
byte, and it lies within the capacity. -/
structure IsNext (heap : Heap) (size : UInt64) (block : Block) : Prop where
  addr : block.addr = ⟨(base + heap.used).toUInt64⟩
  wanted : block.size = size
  holds : max size.toNat 1 ≤ block.extent
  fits : heap.used + block.extent ≤ heap.capacity

/-- The next block is where the used bytes end. -/
lemma isNext_of_nextBlock? (h : heap.nextBlock? size = some block) : heap.IsNext size block := by
  rw [nextBlock?] at h
  obtain ⟨extent, he, h⟩ := Option.bind_eq_some_iff.1 h
  rw [extent?, Option.map_eq_some_iff] at he
  obtain ⟨rounded, hr, rfl⟩ := he
  rw [Word.alignUp?_eq_some] at hr
  have emax : (max size 1).toNat = max size.toNat 1 := Word.toNat_max size 1
  split at h
  case isFalse => cases h
  case isTrue fits =>
    cases h
    exact ⟨rfl, rfl, by simp only [hr.2, emax]; omega, fits⟩

/-- A heap below the tag bits on which no answer is forced. -/
structure Low (heap : Heap) : Prop where
  below : base + heap.capacity ≤ 2 ^ 48
  unforced : heap.forced = none

/-- The address of the next block is not encoded. -/
lemma IsNext.clear (next : heap.IsNext size block) (low : heap.Low) :
    isEncoded block.addr.value = false := by
  have fits := next.fits
  have holds := next.holds
  have below := low.below
  apply isEncoded_of_lt
  rw [next.addr]
  refine Nat.lt_of_le_of_lt (Nat.mod_le _ _) ?_
  omega

variable (memory : Memory)

/-- Allocating leaves a heap low, and gives an address that is not encoded. -/
lemma Low.malloc (low : heap.Low) (size : UInt64) :
    (Heap.malloc size (heap, memory)).2.1.Low ∧
      isEncoded (Heap.malloc size (heap, memory)).1.value = false := by
  rw [Heap.malloc]
  split
  case h_1 => exact ⟨low, RealAddr.isEncoded_null⟩
  case h_2 block h => exact ⟨⟨low.below, low.unforced⟩, (isNext_of_nextBlock? h).clear low⟩

/-- Allocating an array leaves a heap low, and gives an address that is not encoded. -/
lemma Low.calloc (low : heap.Low) (count size : UInt64) :
    (Heap.calloc count size (heap, memory)).2.1.Low ∧
      isEncoded (Heap.calloc count size (heap, memory)).1.value = false := by
  rw [Heap.calloc]
  split
  case h_1 => exact ⟨low, RealAddr.isEncoded_null⟩
  case h_2 total _ => exact low.malloc memory total

/-- Reallocating leaves a heap low, and gives an address that is not encoded. -/
lemma Low.realloc (low : heap.Low) (addr : RealAddr) (size : UInt64) :
    (Heap.realloc addr size (heap, memory)).2.1.Low ∧
      isEncoded (Heap.realloc addr size (heap, memory)).1.value = false := by
  rw [Heap.realloc]
  split
  case isTrue => exact low.malloc memory size
  case isFalse =>
    split
    case h_1 => exact ⟨low, RealAddr.isEncoded_null⟩
    case h_2 =>
      split
      case h_1 => exact ⟨low, RealAddr.isEncoded_null⟩
      case h_2 block h => exact ⟨⟨low.below, low.unforced⟩, (isNext_of_nextBlock? h).clear low⟩

/-- Serving a request leaves a heap low, and a pointer that it gives is not encoded. -/
lemma Low.serve (low : heap.Low) (request : Request RealAddr) :
    (allocator.serve request (heap, memory)).2.1.Low ∧
      ∀ addr, (allocator.serve request (heap, memory)).1 = .pointer addr →
        isEncoded addr.value = false := by
  cases request with
  | malloc size =>
    have h := low.malloc memory size
    simp only [allocator, Allocator.serve, low.unforced]
    exact ⟨h.1, fun addr e => by cases e; exact h.2⟩
  | calloc count size =>
    have h := low.calloc memory count size
    simp only [allocator, Allocator.serve, low.unforced]
    exact ⟨h.1, fun addr e => by cases e; exact h.2⟩
  | realloc addr size =>
    have h := low.realloc memory addr size
    simp only [allocator, Allocator.serve, low.unforced]
    exact ⟨h.1, fun addr e => by cases e; exact h.2⟩
  | free addr => exact ⟨⟨low.below, low.unforced⟩, nofun⟩
  | usableSize addr =>
    simp only [allocator, Allocator.serve, low.unforced]
    exact ⟨low, nofun⟩

/-- A heap below the tag bits returns no pointer with a tag bit set. -/
theorem canonical (capacity : Nat) (below : base + capacity ≤ 2 ^ 48) (memory : Memory) :
    allocator.Canonical (fresh capacity, memory) := by
  have low (state : Heap × Memory) (reach : allocator.Reachable (fresh capacity, memory) state) :
      state.1.Low := by
    induction reach with
    | start => exact ⟨below, rfl⟩
    | serve request _ ih => exact (ih.serve _ request).1
  intro state reach request addr e
  exact ((low state reach).serve _ request).2 addr e

/-! ## Where the heap writes -/

/-- Two states of a heap whose memories agree outside the heap. -/
structure Within (state next : Heap × Memory) : Prop where
  capacity : next.1.capacity = state.1.capacity
  outside : ∀ a, a < base ∨ base + state.1.capacity ≤ a → next.2.byteAt a = state.2.byteAt a

/-- A state agrees with itself. -/
lemma Within.refl (state : Heap × Memory) : Within state state := ⟨rfl, fun _ _ => rfl⟩

/-- The next block starts where the used bytes end. -/
lemma IsNext.toNat_addr (next : heap.IsNext size block) (small : base + heap.capacity < 2 ^ 64) :
    block.addr.value.toNat = base + heap.used := by
  have fits := next.fits
  rw [next.addr]
  exact Nat.mod_eq_of_lt (show base + heap.used < 2 ^ 64 by omega)

/-- A new block is filled inside the heap. -/
lemma IsNext.byteAt_dress (next : heap.IsNext size block) (small : base + heap.capacity < 2 ^ 64)
    {a : Nat} (outside : a < base ∨ base + heap.capacity ≤ a) :
    (dress memory block).byteAt a = memory.byteAt a := by
  have fits := next.fits
  have start := next.toNat_addr small
  exact memory.byteAt_fill_of_not_mem pattern (by omega)

/-- Allocating writes inside the heap. -/
lemma within_malloc (small : base + heap.capacity < 2 ^ 64) (size : UInt64) :
    Within (heap, memory) (Heap.malloc size (heap, memory)).2 := by
  rw [Heap.malloc]
  split
  case h_1 => exact .refl _
  case h_2 block h =>
    exact ⟨rfl, fun a outside => (isNext_of_nextBlock? h).byteAt_dress memory small outside⟩

/-- Allocating an array writes inside the heap. -/
lemma within_calloc (small : base + heap.capacity < 2 ^ 64) (count size : UInt64) :
    Within (heap, memory) (Heap.calloc count size (heap, memory)).2 := by
  rw [Heap.calloc]
  split
  case h_1 => exact .refl _
  case h_2 total _ => exact within_malloc memory small total

/-- Reallocating writes inside the heap. -/
lemma within_realloc (small : base + heap.capacity < 2 ^ 64) (addr : RealAddr) (size : UInt64) :
    Within (heap, memory) (Heap.realloc addr size (heap, memory)).2 := by
  rw [Heap.realloc]
  split
  case isTrue => exact within_malloc memory small size
  case isFalse =>
    split
    case h_1 => exact .refl _
    case h_2 old _ =>
      split
      case h_1 => exact .refl _
      case h_2 block h =>
        have next := isNext_of_nextBlock? h
        have fits := next.fits
        have holds := next.holds
        have start := next.toNat_addr small
        have len := Word.toNat_min old.size size
        refine ⟨rfl, fun a outside => ?_⟩
        dsimp only at outside fits start
        rw [Memory.byteAt_copy_of_not_mem _ (by omega)]
        exact next.byteAt_dress memory small outside

/-- Serving a request writes inside the heap. -/
lemma within_serve (small : base + heap.capacity < 2 ^ 64) (request : Request RealAddr) :
    Within (heap, memory) (allocator.serve request (heap, memory)).2 := by
  cases request with
  | free addr => exact ⟨rfl, fun _ _ => rfl⟩
  | malloc size =>
    simp only [allocator, Allocator.serve]
    cases heap.forced with
    | some value => exact ⟨rfl, fun _ _ => rfl⟩
    | none => exact within_malloc memory small size
  | calloc count size =>
    simp only [allocator, Allocator.serve]
    cases heap.forced with
    | some value => exact ⟨rfl, fun _ _ => rfl⟩
    | none => exact within_calloc memory small count size
  | realloc addr size =>
    simp only [allocator, Allocator.serve]
    cases heap.forced with
    | some value => exact ⟨rfl, fun _ _ => rfl⟩
    | none => exact within_realloc memory small addr size
  | usableSize addr =>
    simp only [allocator, Allocator.serve]
    cases heap.forced with
    | some value => exact ⟨rfl, fun _ _ => rfl⟩
    | none => exact .refl _

end Heap

end PointerTagging
