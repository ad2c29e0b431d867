import PointerTagging.Proofs.Session.Backing

/-!
# Where the bytes go

A reallocation of a pointer that is held keeps the bytes that both sizes have room for, whoever
carries it out, or is refused and changes nothing (`Image.Reallocates`). There is one lemma for the
heap, and one for the arena, which answers in its place while a symbol is being resolved.
-/

namespace PointerTagging

namespace Heap

variable {heap : Heap} {size : UInt64} {addr : RealAddr} (memory : Memory)

/-- The next block is not at null. -/
lemma IsNext.ne_null {block : Block} (next : heap.IsNext size block) (orderly : heap.Orderly) :
    block.addr ≠ .null := by
  intro null
  have inside := next.contains orderly
  rw [null, contains_null] at inside
  cases inside

/-- An allocation that is refused changes nothing. -/
lemma malloc_of_null (orderly : heap.Orderly) (null : (malloc size (heap, memory)).1 = .null) :
    (malloc size (heap, memory)).2 = (heap, memory) := by
  rw [malloc] at null ⊢
  split
  case h_1 => rfl
  case h_2 block h =>
    rw [h] at null
    exact absurd null ((isNext_of_nextBlock? h).ne_null orderly)

/-- A reallocation is refused and changes nothing, or moves a live block to the next one, and copies
what both have room for. -/
lemma realloc_cases (nonnull : addr.isNull = false) (size : UInt64) :
    realloc addr size (heap, memory) = (.null, heap, memory) ∨
      ∃ old block, heap.find? addr = some old ∧ heap.IsNext size block ∧
        realloc addr size (heap, memory) = (block.addr, (heap.handOut block).drop addr,
          (dress memory block).copy addr.value.toNat block.addr.value.toNat
            (min old.size size).toNat) := by
  rw [realloc, nonnull, if_neg Bool.false_ne_true]
  dsimp only
  split
  case h_1 => exact .inl rfl
  case h_2 old found =>
    split
    case h_1 => exact .inl rfl
    case h_2 block h => exact .inr ⟨old, block, found, isNext_of_nextBlock? h, rfl⟩

/-- A request that is refused changes nothing. -/
lemma serve_of_null (orderly : heap.Orderly) {request : Request RealAddr}
    (null : (allocator.serve request (heap, memory)).1 = .pointer .null) :
    (allocator.serve request (heap, memory)).2 = (heap, memory) := by
  have unforced := orderly.unforced
  have refused {size : UInt64} (null : Response.pointer (malloc size (heap, memory)).1 =
      .pointer .null) : (malloc size (heap, memory)).2 = (heap, memory) :=
    malloc_of_null memory orderly (Response.pointer.inj null)
  cases request with
  | malloc size =>
    simp only [allocator, Allocator.serve, unforced] at null ⊢
    exact refused null
  | calloc count size =>
    simp only [allocator, Allocator.serve, unforced, calloc] at null ⊢
    split
    case h_1 => rfl
    case h_2 total product =>
      rw [product] at null
      exact refused null
  | realloc addr size =>
    simp only [allocator, Allocator.serve, unforced] at null ⊢
    cases isNull : addr.isNull with
    | true =>
      simp only [realloc, isNull, if_true] at null ⊢
      exact refused null
    | false =>
      obtain same | ⟨old, block, -, next, moved⟩ := realloc_cases memory isNull size
      · rw [same]
        rfl
      · rw [moved] at null
        exact absurd (Response.pointer.inj null) (next.ne_null orderly)
  | free addr => cases null
  | usableSize addr =>
    simp only [allocator, Allocator.serve, unforced] at null
    cases null

end Heap

namespace Session

variable {route : Route} {image next : Image} {holding : Holding} {source target : RealAddr}
  {old : Nat} {size : UInt64}

/-- The first `len` bytes behind one address are those that were behind the other. -/
def Image.Copies (image next : Image) (source target : RealAddr) (len : Nat) : Prop :=
  ∀ j < len, next.memory.byteAt (target.value.toNat + j) =
    image.memory.byteAt (source.value.toNat + j)

/-- What `usableSize` of an address comes to once its symbol is bound. -/
def Image.usable (image : Image) (addr : RealAddr) : UInt64 :=
  (image.arena.usableSize? image.memory addr).getD (Heap.usableSize addr (image.heap, image.memory))

namespace Holding.Backed

/-- A reallocation of a pointer that is held is about to give it up. -/
lemma givenUp?_realloc (backed : holding.Backed route image) (size : UInt64) :
    (Request.realloc holding.pointer size).givenUp? = some holding.pointer := by
  have nonnull : holding.pointer.isNull = false := by
    rw [Bool.eq_false_iff, Ne, PresentedAddr.isNull_iff]
    intro null
    have nonnull := backed.nonnull
    rw [null, Route.addressOf_null] at nonnull
    cases nonnull
  simp [Request.givenUp?, Request.retired?, nonnull]

/-- The usable size of a pointer that is held depends on where it points and on the size that was
asked for. -/
lemma usable_eq (backed : holding.Backed route image) (intact : image.Intact)
    (distinct : image.heap.Distinct) (room : image.heap.used ≤ image.heap.capacity) :
    image.usable (route.addressOf holding.pointer) =
      if image.arena.contains (route.addressOf holding.pointer) then .ofNat holding.size
      else if image.heap.contains (route.addressOf holding.pointer) then
        ((Heap.extent? (.ofNat holding.size)).getD 0).toUInt64
      else 0 := by
  unfold Image.usable Arena.usableSize?
  split
  case isTrue inside =>
    obtain ⟨chunk, mem, addr, size⟩ := backed.chunk inside
    rw [Option.getD_some, ← addr, intact chunk mem, ← size, UInt64.ofNat_toNat]
  case isFalse =>
    rw [Option.getD_none, Heap.usableSize]
    by_cases inside : image.heap.contains (route.addressOf holding.pointer) = true
    · obtain ⟨block, found, size, takes⟩ := (backed.block inside).find?_eq distinct
      rw [if_pos inside, found, ← size, UInt64.ofNat_toNat, takes, Option.getD_some]
    · rw [if_neg inside]
      -- a block at this address would lie inside the heap
      have absent : image.heap.find? (route.addressOf holding.pointer) = none := by
        refine List.find?_eq_none.2 fun block mem same => inside ?_
        have range := distinct.range _ (List.mem_map_of_mem mem)
        rw [beq_iff_eq] at same
        rw [same] at range
        rw [Heap.contains_iff]
        omega
      rw [absent]

end Holding.Backed

namespace Image

/-- The heap moves the bytes of a block that is held. -/
lemma copies_realloc (orderly : image.Orderly) (distinct : image.heap.Distinct)
    (held : image.heap.contains source = true → image.heap.Holds source old)
    (taken : ∀ a, source.value.toNat ≤ a → a < source.value.toNat + old → image.Taken a)
    (nonnull : source.isNull = false)
    (response : (image.real (.realloc source size)).1 = .pointer target)
    (granted : target ≠ .null) :
    image.Copies (image.real (.realloc source size)).2 source target (min old size.toNat) := by
  have apart := orderly.placed.apart
  have unforced := orderly.unforced
  unfold real at response
  unfold Copies real
  simp only [Heap.allocator, Allocator.serve, unforced, record] at response ⊢
  obtain refused | ⟨block, new, found, next, moved⟩ := Heap.realloc_cases image.memory nonnull size
  · rw [refused] at response
    exact absurd (Response.pointer.inj response).symm granted
  · have inside : image.heap.contains source = true := by
      have same := List.find?_some found
      have range := distinct.range _ (List.mem_map_of_mem (List.mem_of_find?_eq_some found))
      have room := orderly.room
      rw [beq_iff_eq] at same
      rw [same] at range
      rw [Heap.contains_iff]
      omega
    obtain ⟨block', found', rfl, -⟩ := (held inside).find?_eq distinct
    obtain rfl : block = block' := Option.some.inj (found.symm.trans found')
    rw [moved] at response ⊢
    obtain rfl : new.addr = target := Response.pointer.inj response
    intro j lt
    have fits := next.fits
    have len := Word.toNat_min block.size size
    -- filling the new block spares the old bytes, which were handed out before it
    have before : ¬(Heap.base + image.heap.used ≤ source.value.toNat + j ∧
        source.value.toNat + j < Heap.base + image.heap.used + new.extent) := by
      obtain taken | taken := taken (source.value.toNat + j) (by omega) (by omega) <;> omega
    refine (Memory.byteAt_copy_of_mem (Heap.dress image.memory new) (by omega)).trans ?_
    rw [Nat.add_sub_cancel_left]
    exact next.byteAt_dress_of_not_mem orderly.heap image.memory before

/-- The bytes of a chunk are copied behind what a plain allocation returns. -/
lemma copies_settle {plain : Image} (growth : Extends (fun _ => False) image plain)
    (taken : ∀ a, source.value.toNat ≤ a → a < source.value.toNat + old → image.Taken a)
    (kept size : UInt64) (holds : kept.toNat = old) (granted : target ≠ .null) :
    (plain.settle (.move source kept size) (.pointer target)).memory =
        plain.memory.copy source.value.toNat target.value.toNat (min old size.toNat) ∧
      image.Copies (plain.settle (.move source kept size) (.pointer target)) source target
        (min old size.toNat) := by
  have settled : (plain.settle (.move source kept size) (.pointer target)).memory =
      plain.memory.copy source.value.toNat target.value.toNat (min old size.toNat) := by
    rw [settle, if_neg (fun null => granted (RealAddr.isNull_iff.1 null)), ← holds,
      ← Word.toNat_min]
  refine ⟨settled, fun j lt => ?_⟩
  rw [settled, Memory.byteAt_copy_of_mem _ (by omega), Nat.add_sub_cancel_left]
  exact growth.kept _ (taken _ (by omega) (by omega)) id

/-- No byte of the heap or the arena is changed, and none is handed out or given back. -/
structure Unchanged (image next : Image) : Prop where
  live : next.heap.live = image.heap.live
  used : next.heap.used = image.heap.used
  arena : next.arena = image.arena
  chunks : next.chunks = image.chunks
  memory : next.memory = image.memory

/-- Who answers a reallocation with `target`, and how the bytes get there: the heap moves its block,
or a chunk's bytes are copied to a block of the heap, or to another chunk while `malloc` is being
resolved. Nobody moves a block of the heap while `realloc` is being resolved. A copy reads and
writes as many bytes as both sizes have room for. -/
inductive Moves (image : Image) (resolving : List Symbol) (next : Image) (source target : RealAddr)
    (old : Nat) (size : UInt64) : Prop where
  | inHeap :
    image.arena.contains source = false →
    (next.table.slots .realloc).state = .ready →
    (image.real (.realloc source size)).1 = .pointer target →
    next.memory = (image.real (.realloc source size)).2.memory →
    Moves image resolving next source target old size
  | toHeap :
    image.arena.contains source = true →
    (next.table.slots .malloc).state = .ready →
    (image.real (.malloc size)).1 = .pointer target →
    (target ≠ .null → next.memory = (image.real (.malloc size)).2.memory.copy source.value.toNat
      target.value.toNat (min old size.toNat)) →
    Moves image resolving next source target old size
  | toArena :
    image.arena.contains source = true →
    .malloc ∈ resolving →
    (image.arenaAlloc size).1 = target →
    (target ≠ .null → next.chunks = ⟨target, size⟩ :: image.chunks ∧
      next.memory = (image.arenaAlloc size).2.memory.copy source.value.toNat target.value.toNat
        (min old size.toNat)) →
    Moves image resolving next source target old size
  | unserved :
    image.arena.contains source = false →
    .realloc ∈ resolving →
    target = .null →
    Moves image resolving next source target old size

/-- What a reallocation comes to that is answered with `target`: the bytes are moved there, or
`target` is null and nothing is changed. -/
structure Reallocates (image : Image) (resolving : List Symbol) (next : Image)
    (source target : RealAddr) (old : Nat) (size : UInt64) : Prop where
  moves : image.Moves resolving next source target old size
  copies : target ≠ .null → image.Copies next source target (min old size.toNat)
  refused : target = .null → image.Unchanged next

variable {resolving : List Symbol} {last : Image}

/-- A request of the heap that is refused changes nothing. -/
lemma unchanged_real (orderly : image.Orderly) {request : Request RealAddr}
    (refused : (image.real request).1 = .pointer .null) :
    image.Unchanged (image.real request).2 := by
  have same := Heap.serve_of_null image.memory orderly.heap refused
  unfold real
  simp only [same]
  exact ⟨rfl, rfl, rfl, rfl, rfl⟩

namespace Reallocates

/-- What happens to reports and events afterwards does not matter. -/
lemma before (reallocates : image.Reallocates resolving next source target old size)
    (live : last.heap.live = next.heap.live) (used : last.heap.used = next.heap.used)
    (arena : last.arena = next.arena) (chunks : last.chunks = next.chunks)
    (memory : last.memory = next.memory) (table : last.table = next.table) :
    image.Reallocates resolving last source target old size where
  moves := by
    cases reallocates.moves with
    | inHeap outside ready response moved =>
      exact .inHeap outside (by rwa [table]) response (memory.trans moved)
    | toHeap inside ready response copied =>
      exact .toHeap inside (by rwa [table]) response fun granted => memory.trans (copied granted)
    | toArena inside running response copied =>
      refine .toArena inside running response fun granted => ?_
      rw [chunks, memory]
      exact copied granted
    | unserved outside running null => exact .unserved outside running null
  copies := fun granted j lt => by
    rw [memory]
    exact reallocates.copies granted j lt
  refused := fun null => by
    obtain ⟨live', used', arena', chunks', memory'⟩ := reallocates.refused null
    exact ⟨live.trans live', used.trans used', arena.trans arena', chunks.trans chunks',
      memory.trans memory'⟩

/-- What happened to the symbol table, the settings, reports and events before does not matter. -/
lemma after {first : Image} {table : SymbolTable} {configured : Bool} {reports : List Diagnostic}
    {events : List Event}
    (reallocates : first.Reallocates resolving next source target old size)
    (same : first = { image with table, configured, reports, events }) :
    image.Reallocates resolving next source target old size := by
  subst same
  refine ⟨?_, reallocates.copies, fun null => ?_⟩
  · cases reallocates.moves with
    | inHeap outside ready response moved => exact .inHeap outside ready response moved
    | toHeap inside ready response copied => exact .toHeap inside ready response copied
    | toArena inside running response copied =>
      have same : (Image.arenaAlloc { image with table, configured, reports, events } size).1 =
            (image.arenaAlloc size).1 ∧
          (Image.arenaAlloc { image with table, configured, reports, events } size).2.memory =
            (image.arenaAlloc size).2.memory := by
        unfold arenaAlloc
        dsimp only
        split <;> exact ⟨rfl, rfl⟩
      rw [same.1] at response
      rw [same.2] at copied
      exact .toArena inside running response copied
    | unserved outside running null => exact .unserved outside running null
  · obtain ⟨live, used, arena, chunks, memory⟩ := reallocates.refused null
    exact ⟨live, used, arena, chunks, memory⟩

end Reallocates

/-- The heap carries out the reallocation of a pointer that is held. -/
lemma reallocates_carryOut {task : Task} (orderly : image.Orderly)
    (distinct : image.heap.Distinct) (backed : holding.Backed route image)
    (serves : task.Serves route image.arena (.realloc holding.pointer size))
    (kept : ∀ chunk kept size, task = .move chunk kept size → kept.toNat = holding.size)
    (taken : ∀ a, holding.Covers route a → image.Taken a)
    (ready : (image.table.slots task.symbol).state = .ready) :
    ∃ target, (image.carryOut task).1 = .pointer target ∧
      image.Reallocates resolving (image.carryOut task).2 (route.addressOf holding.pointer) target
        holding.size size := by
  have growth := (extends_real (fun _ => False) orderly (.malloc size)).1
  have range (a : Nat) (ge : (route.addressOf holding.pointer).value.toNat ≤ a)
      (lt : a < (route.addressOf holding.pointer).value.toNat + holding.size) : image.Taken a :=
    taken a ⟨ge, lt⟩
  cases serves with
  | realloc size outside =>
    refine ⟨_, rfl, .inHeap outside ready rfl rfl, fun granted => ?_, fun null => ?_⟩
    · exact copies_realloc orderly distinct backed.block range backed.nonnull rfl granted
    · have refused : (image.real (.realloc (route.addressOf holding.pointer) size)).1 =
          .pointer .null := congrArg Response.pointer null
      exact unchanged_real orderly refused
  | move kept' size inside =>
    obtain ⟨target, response⟩ : ∃ target, (image.real (.malloc size)).1 = .pointer target :=
      ⟨_, rfl⟩
    have settled : (image.carryOut (.move (route.addressOf holding.pointer) kept' size)).2 =
        (image.real (.malloc size)).2.settle (.move (route.addressOf holding.pointer) kept' size)
          (.pointer target) := by
      rw [← response]
      rfl
    have copied (granted : target ≠ .null) :=
      copies_settle growth range kept' size (kept _ _ _ rfl) granted
    rw [← settled] at copied
    refine ⟨target, response, ?_, fun granted => (copied granted).2, fun null => ?_⟩
    · refine .toHeap inside ?_ response fun granted => (copied granted).1
      rw [table_carryOut]
      exact ready
    · subst null
      rw [settled]
      exact unchanged_real orderly response

/-- A chunk that does not fit is not taken. -/
lemma arenaAlloc_of_null (placed : image.Placed) (null : (image.arenaAlloc size).1 = .null) :
    (image.arenaAlloc size).2 = image := by
  by_cases fits : image.arena.used + Arena.extent size ≤ image.arena.capacity
  · have below := placed.below
    have room := Arena.le_extent size
    have header := Arena.headerSize_eq
    -- a chunk lies above the start of the arena, so it is not null
    have top : (Arena.payload image.arena.used).value.toNat =
        Arena.base + image.arena.used + Arena.headerSize := Arena.toNat_payload (by omega)
    rw [arenaAlloc_eq placed, if_pos fits] at null
    rw [show Arena.payload image.arena.used = .null from null] at top
    have zero : RealAddr.null.value.toNat = 0 := rfl
    omega
  · rw [arenaAlloc_eq placed, if_neg fits]

/-- The arena carries out the reallocation of a pointer that is held: it moves its own chunks, and
refuses to move a block of the heap. -/
lemma reallocates_bootstrap {task : Task} (orderly : image.Orderly)
    (backed : holding.Backed route image)
    (serves : task.Serves route image.arena (.realloc holding.pointer size))
    (kept : ∀ chunk kept size, task = .move chunk kept size → kept.toNat = holding.size)
    (taken : ∀ a, holding.Covers route a → image.Taken a) (running : task.symbol ∈ resolving) :
    ∃ target, (image.bootstrap task).1 = .pointer target ∧
      image.Reallocates resolving (image.bootstrap task).2 (route.addressOf holding.pointer) target
        holding.size size := by
  have growth := (extends_arenaAlloc (fun _ => False) orderly size).1
  have range (a : Nat) (ge : (route.addressOf holding.pointer).value.toNat ≤ a)
      (lt : a < (route.addressOf holding.pointer).value.toNat + holding.size) : image.Taken a :=
    taken a ⟨ge, lt⟩
  cases serves with
  | realloc size outside =>
    rw [bootstrap, backed.nonnull, if_neg Bool.false_ne_true]
    exact ⟨.null, rfl, .unserved outside running rfl, (absurd rfl ·),
      fun _ => ⟨rfl, rfl, rfl, rfl, rfl⟩⟩
  | move kept' size inside =>
    have copied (granted : (image.arenaAlloc size).1 ≠ .null) :=
      copies_settle growth range kept' size (kept _ _ _ rfl) granted
    refine ⟨(image.arenaAlloc size).1, rfl, ?_, fun granted => (copied granted).2, fun null => ?_⟩
    · refine .toArena inside running rfl fun granted => ⟨?_, (copied granted).1⟩
      simp only [bootstrap, chunks_settle]
      rw [arenaAlloc_eq orderly.placed] at granted ⊢
      split at granted
      case isTrue fits => rw [if_pos fits]
      case isFalse => exact absurd rfl granted
    · have unmoved : (image.bootstrap (.move (route.addressOf holding.pointer) kept' size)).2 =
          image := by
        simp only [bootstrap, arenaAlloc_of_null orderly.placed null, settle, null]
        rfl
      rw [unmoved]
      exact ⟨rfl, rfl, rfl, rfl, rfl⟩

end Image

end Session

end PointerTagging
