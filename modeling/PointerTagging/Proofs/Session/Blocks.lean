import PointerTagging.Proofs.Session.Separation

/-!
# The live blocks of the heap

What the heap does with a request, as far as its live blocks are concerned (`Heap.Grants`): it
refuses memory and changes nothing, or it lets go of the block that the request gives up, and hands
out the next one if the request asks for one. The live blocks have different addresses, all of them
in the bytes that were handed out (`Heap.Distinct`).
-/

namespace PointerTagging

/-- The addresses that are left of a list once one is given up. -/
def retire (addrs : List RealAddr) (addr? : Option RealAddr) : List RealAddr :=
  addrs.filter fun addr => addr? ≠ some addr

section Retire

variable {addrs : List RealAddr} {addr? : Option RealAddr}

/-- Giving up no address leaves all of them. -/
@[simp] lemma retire_none (addrs : List RealAddr) : retire addrs none = addrs := by
  simp [retire]

/-- Giving up an address leaves the others. -/
lemma retire_some (addrs : List RealAddr) (addr : RealAddr) :
    retire addrs (some addr) = addrs.filter (· != addr) := by
  refine List.filter_congr fun other _ => ?_
  rw [Bool.eq_iff_iff, bne_iff_ne, decide_eq_true_iff, Ne, Ne, Option.some.injEq, eq_comm]

/-- Giving up an address that is not there leaves all of them. -/
lemma retire_of_not_mem (absent : ∀ addr ∈ addr?, addr ∉ addrs) : retire addrs addr? = addrs := by
  refine List.filter_eq_self.2 fun addr mem => ?_
  rw [decide_eq_true_iff]
  intro same
  exact absent addr same mem

/-- An address that is left was there before, and is not the one that is given up. -/
lemma mem_retire {addr : RealAddr} :
    addr ∈ retire addrs addr? ↔ addr ∈ addrs ∧ addr? ≠ some addr := by
  simp [retire]

end Retire

namespace Heap

variable {heap heap' : Heap} {size : UInt64} {block : Block} {request : Request RealAddr}
  {addr : RealAddr}

/-- The addresses of the live blocks. -/
def addrs (heap : Heap) : List RealAddr := heap.live.map (·.addr)

/-- True of the addresses of the heap. -/
def contains (heap : Heap) (addr : RealAddr) : Bool := heap.region.covers addr.value.toNat 1

/-- An address of the heap is a number in its bounds. -/
lemma contains_iff :
    heap.contains addr = true ↔
      base ≤ addr.value.toNat ∧ addr.value.toNat < base + heap.capacity := by
  rw [contains, region, Region.covers, Bool.and_eq_true_iff, decide_eq_true_iff, decide_eq_true_iff]
  dsimp only
  omega

/-- Which addresses belong to a heap depends on its capacity only. -/
lemma contains_congr (capacity : heap'.capacity = heap.capacity) : heap'.contains = heap.contains := by
  funext addr
  rw [contains, contains, region, region, capacity]

/-- Null is no address of a heap. -/
lemma contains_null : heap.contains .null = false := by
  rw [Bool.eq_false_iff, Ne, contains_iff]
  exact fun h => absurd h.1 (by decide)

/-- The live blocks have different addresses, in the bytes that were handed out. -/
structure Distinct (heap : Heap) : Prop where
  nodup : heap.addrs.Nodup
  range : ∀ addr ∈ heap.addrs,
    base ≤ addr.value.toNat ∧ addr.value.toNat < base + heap.used

/-- The next block has an address of the heap. -/
lemma IsNext.contains (next : heap.IsNext size block) (orderly : heap.Orderly) :
    heap.contains block.addr = true := by
  have start := next.toNat_addr orderly.small
  have holds := next.holds
  have fits := next.fits
  rw [contains_iff]
  omega

/-- A request that the heap has answered: memory is refused and nothing changes, or the block that
the request gives up is dropped, and the next one handed out if the request asks for one. -/
inductive Grants (heap : Heap) (request : Request RealAddr) : Response RealAddr → Heap → Prop where
  | refuses :
    Grants heap request (.pointer .null) heap
  | hands {size : UInt64} {block : Block} {heap' : Heap} :
    heap.IsNext size block →
    heap'.capacity = heap.capacity →
    heap'.used = heap.used + block.extent →
    heap'.addrs = retire heap.addrs request.retired? ++ [block.addr] →
    Grants heap request (.pointer block.addr) heap'
  | drops {response : Response RealAddr} {heap' : Heap} :
    response.pointer? = none →
    heap'.capacity = heap.capacity →
    heap'.used = heap.used →
    heap'.addrs = retire heap.addrs request.retired? →
    Grants heap request response heap'

/-- Dropping a block gives up its address. -/
lemma addrs_drop (heap : Heap) (addr : RealAddr) :
    (heap.drop addr).addrs = retire heap.addrs (some addr) := by
  rw [retire_some, addrs, addrs, List.filter_map]
  rfl

/-- The next block has an address that no live block has. -/
lemma Distinct.next_not_mem (distinct : heap.Distinct) (orderly : heap.Orderly)
    (next : heap.IsNext size block) : block.addr ∉ heap.addrs := by
  intro mem
  have range := distinct.range _ mem
  rw [next.toNat_addr orderly.small] at range
  omega

/-- Allocating hands out the next block, or nothing. -/
lemma grants_malloc (distinct : heap.Distinct) (memory : Memory) (size : UInt64)
    (retired : ∀ addr ∈ request.retired?, addr = .null) :
    heap.Grants request (.pointer (malloc size (heap, memory)).1)
      (malloc size (heap, memory)).2.1 := by
  rw [malloc]
  split
  case h_1 => exact .refuses
  case h_2 block h =>
    refine .hands (isNext_of_nextBlock? h) rfl rfl ?_
    rw [retire_of_not_mem fun addr given mem => ?_]
    · simp [addrs, handOut]
    · have range := distinct.range addr mem
      rw [retired addr given] at range
      exact absurd range.1 (by decide)

/-- The heap answers a request. -/
lemma grants_serve (distinct : heap.Distinct) (orderly : heap.Orderly) (memory : Memory)
    (request : Request RealAddr) :
    heap.Grants request (allocator.serve request (heap, memory)).1
      (allocator.serve request (heap, memory)).2.1 := by
  have unforced := orderly.unforced
  cases request with
  | malloc size =>
    simp only [allocator, Allocator.serve, unforced]
    exact grants_malloc distinct memory size (by rintro _ ⟨⟩)
  | calloc count size =>
    simp only [allocator, Allocator.serve, unforced, calloc]
    split
    case h_1 => exact .refuses
    case h_2 total _ => exact grants_malloc distinct memory total (by rintro _ ⟨⟩)
  | realloc addr size =>
    simp only [allocator, Allocator.serve, unforced, realloc]
    split
    case isTrue null =>
      refine grants_malloc distinct memory size ?_
      rintro _ ⟨⟩
      exact RealAddr.isNull_iff.1 null
    case isFalse =>
      split
      case h_1 => exact .refuses
      case h_2 old found =>
        split
        case h_1 => exact .refuses
        case h_2 block h =>
          have next := isNext_of_nextBlock? h
          have live : addr ∈ heap.addrs := by
            have same := List.find?_some found
            rw [beq_iff_eq] at same
            exact List.mem_map.2 ⟨old, List.mem_of_find?_eq_some found, same⟩
          have fresh : addr ≠ block.addr := fun same =>
            distinct.next_not_mem orderly next (same ▸ live)
          refine .hands next rfl rfl ?_
          refine (addrs_drop (heap.handOut block) addr).trans ?_
          simp [addrs, handOut, retire, Request.retired?, fresh]
  | free addr =>
    exact .drops rfl rfl rfl (addrs_drop heap addr)
  | usableSize addr =>
    simp only [allocator, Allocator.serve, unforced]
    exact .drops rfl rfl rfl (retire_none _).symm

/-- A heap that refuses memory is left as it is. -/
lemma Grants.eq_of_refused (grants : heap.Grants request (.pointer .null) heap')
    (orderly : heap.Orderly) : heap' = heap := by
  generalize refused : Response.pointer RealAddr.null = response at grants
  cases grants with
  | refuses => rfl
  | hands next =>
    have inside := next.contains orderly
    rw [← Response.pointer.inj refused, contains_null] at inside
    cases inside
  | drops silent =>
    rw [← refused] at silent
    cases silent

/-- A request that the heap has answered leaves the live blocks distinct. -/
lemma Grants.distinct {response : Response RealAddr} (grants : heap.Grants request response heap')
    (distinct : heap.Distinct) (orderly : heap.Orderly) : heap'.Distinct := by
  have left : (retire heap.addrs request.retired?).Nodup := distinct.nodup.filter _
  cases grants with
  | refuses => exact distinct
  | @hands size block heap' next capacity used addrs =>
    have start := next.toNat_addr orderly.small
    have holds := next.holds
    constructor
    · rw [addrs]
      refine List.nodup_append.2 ⟨left, List.pairwise_singleton _ _, fun addr mem other last same => ?_⟩
      rw [same, List.mem_singleton.1 last] at mem
      exact distinct.next_not_mem orderly next (mem_retire.1 mem).1
    · rw [addrs, used]
      intro addr mem
      obtain mem | mem := List.mem_append.1 mem
      · have range := distinct.range addr (mem_retire.1 mem).1
        omega
      · rw [List.mem_singleton.1 mem]
        omega
  | drops silent capacity used addrs =>
    constructor
    · rw [addrs]
      exact left
    · rw [addrs, used]
      exact fun addr mem => distinct.range addr (mem_retire.1 mem).1

end Heap

end PointerTagging
