import PointerTagging.Proofs.Session.Image

/-!
# What a process hands out

Neither the heap nor the arena hands out a byte twice. So an operation on the process leaves every
byte as it is that was handed out before (`Image.Extends`), and a pointer that it returns stands for
bytes that were not (`Image.Provides`). There is one lemma for each operation.
-/

namespace PointerTagging

namespace Heap

variable {heap heap' : Heap} {memory memory' : Memory} {block : Block} {size : UInt64}
  {wanted : Nat}

/-- From `state` to `next` the heap hands out the bytes from where the used ones end. It writes
nowhere else, and a pointer in the response stands for `wanted` bytes there. -/
structure HandsOut (wanted : Nat) (state : Heap × Memory) (response : Response RealAddr)
    (next : Heap × Memory) : Prop where
  capacity : next.1.capacity = state.1.capacity
  used : state.1.used ≤ next.1.used
  room : next.1.used ≤ state.1.capacity
  unforced : next.1.forced = none
  outside : ∀ a, ¬(base + state.1.used ≤ a ∧ a < base + next.1.used) →
    next.2.byteAt a = state.2.byteAt a
  block : ∀ addr ∈ response.pointer?, addr.isNull = true ∨
    base + state.1.used ≤ addr.value.toNat ∧ addr.value.toNat + wanted ≤ base + next.1.used

/-- A heap on which no answer is forced, and which ends in the addresses that fit in a word. -/
structure Orderly (heap : Heap) : Prop where
  small : base + heap.capacity < 2 ^ 64
  room : heap.used ≤ heap.capacity
  unforced : heap.forced = none

/-- Nothing is handed out. -/
lemma Orderly.handsOut (orderly : heap.Orderly) {response : Response RealAddr}
    (null : ∀ addr ∈ response.pointer?, addr.isNull = true) :
    HandsOut wanted (heap, memory) response (heap, memory) where
  capacity := rfl
  used := Nat.le_refl _
  room := orderly.room
  unforced := orderly.unforced
  outside := fun _ _ => rfl
  block := fun addr mem => .inl (null addr mem)

/-- The next block is handed out, and only its bytes are written. -/
lemma IsNext.handsOut (next : heap.IsNext size block) (orderly : heap.Orderly)
    (capacity : heap'.capacity = heap.capacity) (used : heap'.used = heap.used + block.extent)
    (unforced : heap'.forced = none)
    (same : ∀ a, ¬(base + heap.used ≤ a ∧ a < base + heap.used + block.extent) →
      memory'.byteAt a = memory.byteAt a) :
    HandsOut size.toNat (heap, memory) (.pointer block.addr) (heap', memory') where
  capacity := capacity
  used := by dsimp only; omega
  room := by rw [used]; exact next.fits
  unforced := unforced
  outside := fun a outside => same a (by dsimp only at outside; omega)
  block := by
    rintro _ ⟨⟩
    have start := next.toNat_addr orderly.small
    have holds := next.holds
    dsimp only
    omega

/-- A new block is filled inside its bytes. -/
lemma IsNext.byteAt_dress_of_not_mem (next : heap.IsNext size block) (orderly : heap.Orderly)
    (memory : Memory) {a : Nat}
    (outside : ¬(base + heap.used ≤ a ∧ a < base + heap.used + block.extent)) :
    (dress memory block).byteAt a = memory.byteAt a := by
  have start := next.toNat_addr orderly.small
  exact memory.byteAt_fill_of_not_mem pattern (by omega)

variable (memory)

/-- Allocating hands out the block. -/
lemma Orderly.handsOut_malloc (orderly : heap.Orderly) (size : UInt64) :
    HandsOut size.toNat (heap, memory) (.pointer (malloc size (heap, memory)).1)
      (malloc size (heap, memory)).2 := by
  rw [malloc]
  split
  case h_1 => exact orderly.handsOut (by rintro _ ⟨⟩; rfl)
  case h_2 block h =>
    have next := isNext_of_nextBlock? h
    exact next.handsOut orderly rfl rfl orderly.unforced fun a =>
      next.byteAt_dress_of_not_mem orderly memory

/-- Allocating an array hands out a block for all of it. -/
lemma Orderly.handsOut_calloc (orderly : heap.Orderly) (count size : UInt64) :
    HandsOut (count.toNat * size.toNat) (heap, memory)
      (.pointer (calloc count size (heap, memory)).1) (calloc count size (heap, memory)).2 := by
  rw [calloc]
  split
  case h_1 => exact orderly.handsOut (by rintro _ ⟨⟩; rfl)
  case h_2 total e =>
    rw [← (Word.mul?_eq_some.1 e).2]
    exact orderly.handsOut_malloc memory total

/-- Reallocating hands out the new block, which the old bytes are copied into. -/
lemma Orderly.handsOut_realloc (orderly : heap.Orderly) (addr : RealAddr) (size : UInt64) :
    HandsOut size.toNat (heap, memory) (.pointer (realloc addr size (heap, memory)).1)
      (realloc addr size (heap, memory)).2 := by
  rw [realloc]
  split
  case isTrue => exact orderly.handsOut_malloc memory size
  case isFalse =>
    split
    case h_1 => exact orderly.handsOut (by rintro _ ⟨⟩; rfl)
    case h_2 old _ =>
      split
      case h_1 => exact orderly.handsOut (by rintro _ ⟨⟩; rfl)
      case h_2 block h =>
        have next := isNext_of_nextBlock? h
        have start := next.toNat_addr orderly.small
        have holds := next.holds
        have len := Word.toNat_min old.size size
        refine next.handsOut orderly rfl rfl orderly.unforced fun a outside => ?_
        rw [Memory.byteAt_copy_of_not_mem _ (by omega)]
        exact next.byteAt_dress_of_not_mem orderly memory outside

/-- Serving a request hands out the bytes that it asks for, or none. -/
lemma Orderly.handsOut_serve (orderly : heap.Orderly) (request : Request RealAddr) :
    HandsOut request.wanted (heap, memory) (allocator.serve request (heap, memory)).1
      (allocator.serve request (heap, memory)).2 := by
  have unforced := orderly.unforced
  cases request with
  | malloc size =>
    have hands := orderly.handsOut_malloc memory size
    simp only [allocator, Allocator.serve, unforced]
    exact hands
  | calloc count size =>
    have hands := orderly.handsOut_calloc memory count size
    simp only [allocator, Allocator.serve, unforced]
    exact hands
  | realloc addr size =>
    have hands := orderly.handsOut_realloc memory addr size
    simp only [allocator, Allocator.serve, unforced]
    exact hands
  | free addr =>
    refine ⟨rfl, Nat.le_refl _, orderly.room, unforced, fun _ _ => rfl, ?_⟩
    intro addr mem
    cases mem
  | usableSize addr =>
    simp only [allocator, Allocator.serve, unforced]
    refine orderly.handsOut ?_
    intro addr mem
    cases mem

end Heap

namespace Arena

/-- The byte belongs to the header of a chunk. -/
def InHeader (chunks : List Chunk) (a : Nat) : Prop :=
  ∃ chunk ∈ chunks, chunk.addr.value.toNat - headerSize ≤ a ∧ a < chunk.addr.value.toNat

variable {chunks : List Chunk} {used : Nat}

/-- Headers lie in the used bytes. -/
lemma Tiles.used_of_inHeader (tiles : Tiles chunks used) (below : base + used ≤ 2 ^ 48) {a : Nat}
    (inHeader : InHeader chunks a) : base ≤ a ∧ a < base + used := by
  obtain ⟨chunk, mem, ge, lt⟩ := inHeader
  have bounds := tiles.bounds below mem
  have header := headerSize_eq
  omega

end Arena

namespace Session

namespace Image

variable {image next last : Image} {stored : Nat → Prop} {wanted : Nat}
  {response : Response RealAddr} {a : Nat}

/-- The byte was handed out, by the heap or by the arena. -/
def Taken (image : Image) (a : Nat) : Prop :=
  Heap.base ≤ a ∧ a < Heap.base + image.heap.used ∨
    Arena.base ≤ a ∧ a < Arena.base + image.arena.used

/-- The byte belongs to the header of a chunk. -/
def InHeader (image : Image) (a : Nat) : Prop := Arena.InHeader image.chunks a

/-- The heap and the arena have their places, and no answer is forced on the heap. -/
structure Orderly (image : Image) : Prop where
  placed : image.Placed
  room : image.heap.used ≤ image.heap.capacity
  unforced : image.heap.forced = none

/-- The image `next` comes from `image` by an operation that keeps what was handed out before, but
for the bytes that the application has `stored`. -/
structure Extends (stored : Nat → Prop) (image next : Image) : Prop where
  orderly : next.Orderly
  taken : ∀ a, image.Taken a → next.Taken a
  headers : ∀ a, image.InHeader a → next.InHeader a
  fresh : ∀ a, next.InHeader a → image.InHeader a ∨ ¬image.Taken a
  kept : ∀ a, image.Taken a → ¬stored a → next.memory.byteAt a = image.memory.byteAt a

/-- The bytes of the range are handed out between `image` and `next`, and none of them belongs to a
header. -/
def Fresh (image next : Image) (start len : Nat) : Prop :=
  ∀ a, start ≤ a → a < start + len → ¬image.Taken a ∧ next.Taken a ∧ ¬next.InHeader a

/-- A pointer in the response is null, or the `wanted` bytes behind it are handed out by the
operation. -/
def Provides (image next : Image) (wanted : Nat) : Response RealAddr → Prop
  | .pointer addr =>
    addr.isNull = true ∨ isEncoded addr.value = false ∧
      image.Fresh next addr.value.toNat wanted
  | _ => True

namespace Orderly

/-- Only the places that are handed out matter. -/
lemma congr (orderly : image.Orderly) (capacity : next.heap.capacity = image.heap.capacity)
    (used : next.heap.used = image.heap.used) (unforced : next.heap.forced = none)
    (arena : next.arena = image.arena) (chunks : next.chunks = image.chunks) : next.Orderly := by
  obtain ⟨⟨apart, below, within, tiles⟩, room, _⟩ := orderly
  refine ⟨⟨?_, ?_, ?_, ?_⟩, ?_, unforced⟩
  · rwa [capacity]
  · rwa [arena]
  · rwa [arena]
  · rwa [arena, chunks]
  · rwa [used, capacity]

/-- The heap of an orderly process is orderly. -/
lemma heap (orderly : image.Orderly) : image.heap.Orderly :=
  ⟨orderly.placed.small, orderly.room, orderly.unforced⟩

/-- Bytes that were handed out lie below the tag bits. -/
lemma lt_of_taken (orderly : image.Orderly) (taken : image.Taken a) : a < 2 ^ 48 := by
  have apart := orderly.placed.apart
  have below := orderly.placed.below
  have within := orderly.placed.within
  have room := orderly.room
  rcases taken with taken | taken <;> omega

/-- Headers were handed out. -/
lemma taken_of_inHeader (orderly : image.Orderly) (inHeader : image.InHeader a) :
    image.Taken a := by
  have below := orderly.placed.below
  have within := orderly.placed.within
  exact .inr (orderly.placed.tiles.used_of_inHeader (by omega) inHeader)

end Orderly

namespace Extends

/-- An operation that hands out nothing. -/
lemma of_memory (orderly : image.Orderly) (capacity : next.heap.capacity = image.heap.capacity)
    (used : next.heap.used = image.heap.used) (unforced : next.heap.forced = none)
    (arena : next.arena = image.arena) (chunks : next.chunks = image.chunks)
    (kept : ∀ a, image.Taken a → ¬stored a → next.memory.byteAt a = image.memory.byteAt a) :
    Extends stored image next where
  orderly := orderly.congr capacity used unforced arena chunks
  taken := fun a taken => by rwa [Taken, used, arena]
  headers := fun a inHeader => by rwa [InHeader, chunks]
  fresh := fun a inHeader => .inl (by rwa [InHeader, chunks] at inHeader)
  kept := kept

/-- An operation that hands out nothing and writes to no memory. -/
lemma of_same (orderly : image.Orderly) (heap : next.heap = image.heap)
    (arena : next.arena = image.arena) (chunks : next.chunks = image.chunks)
    (memory : next.memory = image.memory) : Extends stored image next :=
  .of_memory orderly (by rw [heap]) (by rw [heap]) (by rw [heap, orderly.unforced]) arena chunks
    fun _ _ _ => by rw [memory]

/-- One operation after the other. -/
lemma trans (first : Extends stored image next) (second : Extends stored next last) :
    Extends stored image last where
  orderly := second.orderly
  taken := fun a taken => second.taken a (first.taken a taken)
  headers := fun a inHeader => second.headers a (first.headers a inHeader)
  fresh := fun a inHeader => by
    obtain old | new := second.fresh a inHeader
    · exact first.fresh a old
    · exact .inr fun taken => new (first.taken a taken)
  kept := fun a taken unstored =>
    (second.kept a (first.taken a taken) unstored).trans (first.kept a taken unstored)

/-- What keeps the bytes but for some keeps them but for more. -/
lemma mono {stored' : Nat → Prop} (growth : Extends stored image next)
    (h : ∀ a, stored a → stored' a) : Extends stored' image next :=
  { growth with kept := fun a taken unstored => growth.kept a taken (mt (h a) unstored) }

/-- After an operation, a write to bytes that it has handed out. -/
lemma write (first : Extends stored image next) {start len : Nat} (heap : last.heap = next.heap)
    (arena : last.arena = next.arena) (chunks : last.chunks = next.chunks)
    (same : ∀ a, ¬(start ≤ a ∧ a < start + len) → last.memory.byteAt a = next.memory.byteAt a)
    (fresh : ∀ a, start ≤ a → a < start + len → ¬image.Taken a) : Extends stored image last where
  orderly := first.orderly.congr (by rw [heap]) (by rw [heap])
    (by rw [heap, first.orderly.unforced]) arena chunks
  taken := fun a taken => by
    rw [Taken, heap, arena]
    exact first.taken a taken
  headers := fun a inHeader => by
    rw [InHeader, chunks]
    exact first.headers a inHeader
  fresh := fun a inHeader => by
    rw [InHeader, chunks] at inHeader
    exact first.fresh a inHeader
  kept := fun a taken unstored => by
    rw [same a fun inside => fresh a inside.1 inside.2 taken]
    exact first.kept a taken unstored

end Extends

namespace Fresh

variable {start len : Nat}

/-- What an operation hands out was not handed out before earlier operations. -/
lemma after (first : Extends stored image next) (fresh : next.Fresh last start len) :
    image.Fresh last start len := by
  intro a ge lt
  obtain ⟨untaken, rest⟩ := fresh a ge lt
  exact ⟨fun taken => untaken (first.taken a taken), rest⟩

/-- What an operation has handed out stays so, and no later header lies in it. -/
lemma before (fresh : image.Fresh next start len) (second : Extends stored next last) :
    image.Fresh last start len := by
  intro a ge lt
  obtain ⟨untaken, taken, outside⟩ := fresh a ge lt
  refine ⟨untaken, second.taken a taken, fun inHeader => ?_⟩
  obtain old | new := second.fresh a inHeader
  · exact outside old
  · exact new taken

end Fresh

/-- A change that hands out nothing changes nothing about what was provided. -/
lemma Provides.congr (provides : image.Provides next wanted response)
    (heap : last.heap = next.heap) (arena : last.arena = next.arena)
    (chunks : last.chunks = next.chunks) : image.Provides last wanted response := by
  cases response with
  | pointer addr =>
    simp only [Provides, Fresh, Taken, InHeader, heap, arena, chunks]
    exact provides
  | _ => trivial

/-! ## The heap -/

/-- A request of the heap hands out the bytes that it asks for, or none. -/
lemma extends_real (stored : Nat → Prop) (orderly : image.Orderly) (request : Request RealAddr) :
    Extends stored image (image.real request).2 ∧
      image.Provides (image.real request).2 request.wanted (image.real request).1 := by
  obtain ⟨apart, below, within, tiles⟩ := orderly.placed
  have hands := orderly.heap.handsOut_serve image.memory request
  have low : image.heap.Low := ⟨by omega, orderly.unforced⟩
  have clear := (low.serve image.memory request).2
  unfold real
  generalize Heap.allocator.serve request (image.heap, image.memory) = result at hands clear ⊢
  obtain ⟨response, heap, memory⟩ := result
  obtain ⟨capacity, used, room, unforced, outside, block⟩ := hands
  dsimp only at capacity used room unforced outside block clear ⊢
  refine ⟨⟨⟨⟨?_, below, within, tiles⟩, ?_, unforced⟩, ?_, fun _ => id, fun _ => .inl, ?_⟩, ?_⟩
  · exact capacity.symm ▸ apart
  · exact capacity.symm ▸ room
  · intro a taken
    exact taken.imp_left fun old => ⟨old.1, by dsimp only [record]; omega⟩
  · intro a taken _
    exact outside a (by rcases taken with taken | taken <;> omega)
  · cases response with
    | pointer addr =>
      refine (block addr rfl).imp_right fun ⟨start, stop⟩ => ⟨clear addr rfl, fun a ge lt => ?_⟩
      refine ⟨?_, .inl ⟨by omega, by dsimp only [record]; omega⟩, fun inHeader => ?_⟩
      · rintro (taken | taken) <;> omega
      · have := tiles.used_of_inHeader (by omega) inHeader
        omega
    | _ => trivial

/-- A chunk's bytes are copied to the new place. -/
lemma Extends.settle (first : Extends stored image next) (task : Task)
    (provides : image.Provides next task.request.wanted response) :
    Extends stored image (next.settle task response) ∧
      image.Provides (next.settle task response) task.request.wanted response := by
  unfold Image.settle
  split
  case h_1 chunk kept size target =>
    split
    case isTrue => exact ⟨first, provides⟩
    case isFalse nonnull =>
      obtain ⟨_, block⟩ := provides.resolve_left nonnull
      have len := Word.toNat_min kept size
      refine ⟨first.write rfl rfl rfl (fun a => Memory.byteAt_copy_of_not_mem _) fun a ge lt => ?_,
        provides.congr rfl rfl rfl⟩
      -- no more bytes are copied than were asked for
      have room : a < target.value.toNat + size.toNat := by omega
      exact (block a ge room).1
  case h_2 => exact ⟨first, provides⟩

/-- A task that the heap carries out hands out the bytes that it asks for, or none. -/
lemma extends_carryOut (stored : Nat → Prop) (orderly : image.Orderly) (task : Task) :
    Extends stored image (image.carryOut task).2 ∧
      image.Provides (image.carryOut task).2 task.request.wanted (image.carryOut task).1 := by
  obtain ⟨real, provides⟩ := extends_real stored orderly task.request
  exact real.settle task provides

/-! ## The arena -/

/-- A new chunk lies behind the bytes that were handed out, its payload behind its header. -/
lemma extends_arenaAlloc (stored : Nat → Prop) (orderly : image.Orderly) (size : UInt64) :
    Extends stored image (image.arenaAlloc size).2 ∧
      image.Provides (image.arenaAlloc size).2 size.toNat (.pointer (image.arenaAlloc size).1) := by
  obtain ⟨apart, below, within, tiles⟩ := orderly.placed
  have header := Arena.headerSize_eq
  have extent := Arena.le_extent size
  have room := orderly.room
  rw [arenaAlloc_eq orderly.placed]
  split
  case isFalse => exact ⟨.of_same orderly rfl rfl rfl rfl, .inl rfl⟩
  case isTrue fits =>
    have top : (Arena.payload image.arena.used).value.toNat =
        Arena.base + image.arena.used + Arena.headerSize := Arena.toNat_payload (by omega)
    have inHeader (a : Nat)
        (h : Arena.InHeader (⟨Arena.payload image.arena.used, size⟩ :: image.chunks) a) :
        image.InHeader a ∨ Arena.base + image.arena.used ≤ a ∧
          a < Arena.base + image.arena.used + Arena.headerSize := by
      obtain ⟨chunk, mem, ge, lt⟩ := h
      cases mem with
      | head => exact .inr ⟨by dsimp only at ge; omega, by dsimp only at lt; omega⟩
      | tail _ mem => exact .inl ⟨chunk, mem, ge, lt⟩
    refine ⟨⟨⟨⟨apart, below, fits, tiles.cons size⟩, room, orderly.unforced⟩, ?_, ?_, ?_, ?_⟩, ?_⟩
    · intro a taken
      exact taken.imp_right fun old => ⟨old.1, by dsimp only; omega⟩
    · exact fun a ⟨chunk, mem, bounds⟩ => ⟨chunk, .tail _ mem, bounds⟩
    · refine fun a h => (inHeader a h).imp_right fun ⟨ge, lt⟩ => ?_
      rintro (taken | taken) <;> omega
    · intro a taken _
      refine image.memory.byteAt_writeWord_of_not_mem size ?_
      rcases taken with taken | taken <;> omega
    · refine .inr ⟨isEncoded_of_lt (by dsimp only; omega), fun a ge lt => ?_⟩
      dsimp only at ge lt
      refine ⟨?_, ?_, fun h => ?_⟩
      · rintro (taken | taken) <;> omega
      · exact .inr ⟨by omega, by dsimp only; omega⟩
      · obtain old | new := inHeader a h
        · have := tiles.used_of_inHeader (by omega) old
          omega
        · omega

/-- A task that the arena carries out hands out the bytes that it asks for, or none. -/
lemma extends_bootstrap (stored : Nat → Prop) (orderly : image.Orderly) (task : Task) :
    Extends stored image (image.bootstrap task).2 ∧
      image.Provides (image.bootstrap task).2 task.request.wanted (image.bootstrap task).1 := by
  have alloc (size : UInt64) := extends_arenaAlloc stored orderly size
  have unchanged : Extends stored image image := .of_same orderly rfl rfl rfl rfl
  cases task with
  | malloc size => exact alloc size
  | calloc count size =>
    simp only [bootstrap]
    split
    case h_1 => exact ⟨unchanged, .inl rfl⟩
    case h_2 total e =>
      have product := (Word.mul?_eq_some.1 e).2
      rw [Task.request, Request.wanted, ← product]
      obtain ⟨first, provides⟩ := alloc total
      split
      case isTrue null => exact ⟨first, provides⟩
      case isFalse nonnull =>
        obtain ⟨_, block⟩ := provides.resolve_left nonnull
        exact ⟨first.write rfl rfl rfl (fun a => Memory.byteAt_fill_of_not_mem _ 0)
          fun a ge lt => (block a ge lt).1, provides.congr rfl rfl rfl⟩
  | realloc addr size =>
    simp only [bootstrap]
    split
    case isTrue => exact alloc size
    case isFalse => exact ⟨unchanged, .inl rfl⟩
  | move chunk kept size =>
    obtain ⟨first, provides⟩ := alloc size
    exact first.settle (.move chunk kept size) provides
  | free addr => exact ⟨unchanged, trivial⟩
  | usableSize addr => exact ⟨unchanged, trivial⟩

/-! ## The interposer -/

/-- Where memory is touched through a presentation of fresh bytes, nothing was handed out before. -/
lemma not_taken_target (orderly : image.Orderly) (access : Access) (tag : Tag)
    (protection : Protection) {addr : RealAddr} {len : Nat} (nonnull : ¬addr.isNull = true)
    (clear : isEncoded addr.value = false)
    (block : ∀ a, addr.value.toNat ≤ a → a < addr.value.toNat + len → ¬image.Taken a) (a : Nat)
    (ge : (access.target (protection.present addr tag) tag).toNat ≤ a)
    (lt : a < (access.target (protection.present addr tag) tag).toNat + len) : ¬image.Taken a := by
  cases access with
  | tagIgnoring =>
    rw [Access.target, Protection.resolve_present tag protection clear] at ge lt
    exact block a ge lt
  | hardware =>
    cases protection with
    | plain => exact block a ge lt
    | tagged =>
      -- memory is touched through the tag here, far above what is handed out
      rw [Access.target, Protection.present, RealAddr.tagged, if_neg nonnull] at ge
      have above := Route.le_toNat_xor_mask clear tag
      intro taken
      have below := orderly.lt_of_taken taken
      dsimp only at ge
      omega

/-- An answer on its way up writes to the bytes that were handed out for it at most. -/
lemma Extends.leave (orderly : image.Orderly) (first : Extends stored image next) (route : Route)
    (access : Access) (request : Request PresentedAddr)
    (provides : image.Provides next request.wanted response) :
    Extends stored image (route.leave access next request response).2 ∧
      image.Provides (route.leave access next request response).2 request.wanted response := by
  unfold Route.leave
  split
  case h_1 => exact ⟨first, provides⟩
  case h_2 config _ =>
    dsimp only
    split
    case h_1 presented len h =>
      obtain ⟨addr, protection, rfl, nonnull, rfl, le⟩ := Route.cleared?_eq_some h
      obtain ⟨clear, block⟩ := provides.resolve_left nonnull
      unfold Image.clear
      split
      case isTrue =>
        refine ⟨first.write rfl rfl rfl (fun a => Memory.byteAt_fill_of_not_mem _ 0) ?_,
          provides.congr rfl rfl rfl⟩
        refine not_taken_target orderly access config.tag protection nonnull clear fun a ge lt => ?_
        exact (block a ge (by omega)).1
      case isFalse =>
        exact ⟨first.trans (.of_same first.orderly rfl rfl rfl rfl), provides.congr rfl rfl rfl⟩
    case h_2 =>
      exact ⟨first.trans (.of_same first.orderly rfl rfl rfl rfl), provides.congr rfl rfl rfl⟩

end Image

end Session

end PointerTagging
