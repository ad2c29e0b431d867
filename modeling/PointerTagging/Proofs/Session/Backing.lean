import PointerTagging.Proofs.Session.Conservation

/-!
# What stands behind a pointer

A pointer that a caller holds to an address of the heap is that of a live block, and one to an
address of the arena that of a chunk, with the size that the caller has asked for
(`Holding.Backed`). There is one lemma for each function of the machine, and the run lemma
`Machine.backed_after`.
-/

namespace PointerTagging

namespace Heap

variable {heap : Heap} {size : UInt64} {addr : RealAddr} {block : Block} {wanted : Nat}
  {request : Request RealAddr}

/-- A live block starts at the address, and holds as many bytes as were asked for. -/
def Holds (heap : Heap) (addr : RealAddr) (wanted : Nat) : Prop :=
  ∃ block ∈ heap.live, block.addr = addr ∧ block.size.toNat = wanted ∧
    extent? block.size = some block.extent

/-- The next block takes the bytes that its size takes. -/
lemma extent?_of_nextBlock? (h : heap.nextBlock? size = some block) :
    block.size = size ∧ extent? block.size = some block.extent := by
  obtain ⟨extent, takes, h⟩ := Option.bind_eq_some_iff.1 h
  split at h
  case isFalse => cases h
  case isTrue =>
    cases h
    exact ⟨rfl, takes⟩

/-- The address of a block that the heap holds is that of a live block. -/
lemma Holds.mem_addrs (holds : heap.Holds addr wanted) : addr ∈ heap.addrs := by
  obtain ⟨block, mem, rfl, -⟩ := holds
  exact List.mem_map_of_mem mem

/-- What the heap finds at an address is the block that it holds there. -/
lemma Holds.find?_eq (holds : heap.Holds addr wanted) (distinct : heap.Distinct) :
    ∃ block, heap.find? addr = some block ∧ block.size.toNat = wanted ∧
      extent? block.size = some block.extent := by
  obtain ⟨block, mem, rfl, size, takes⟩ := holds
  have found : (heap.find? block.addr).isSome = true :=
    List.find?_isSome.2 ⟨block, mem, beq_self_eq_true _⟩
  obtain ⟨other, found⟩ := Option.isSome_iff_exists.1 found
  have same : other = block := by
    have addr := List.find?_some found
    rw [beq_iff_eq] at addr
    exact List.inj_on_of_nodup_map distinct.nodup (List.mem_of_find?_eq_some found) mem addr
  exact ⟨block, same ▸ found, size, takes⟩

/-- What serving a request does to the blocks that are held: those that it does not give up stay,
and a pointer that it returns is null or that of a block as large as was asked for. -/
structure Keeps (heap : Heap) (request : Request RealAddr) (response : Response RealAddr)
    (heap' : Heap) : Prop where
  kept : ∀ addr wanted, heap.Holds addr wanted → request.retired? ≠ some addr →
    heap'.Holds addr wanted
  given : ∀ addr ∈ response.pointer?, addr = .null ∨ heap'.Holds addr request.wanted

/-- A heap that returns no pointer but null and stays as it is. -/
lemma keeps_refl (heap : Heap) (request : Request RealAddr) {response : Response RealAddr}
    (null : ∀ addr ∈ response.pointer?, addr = .null) : heap.Keeps request response heap :=
  ⟨fun _ _ holds _ => holds, fun addr mem => .inl (null addr mem)⟩

/-- A new block leaves the others as they are. -/
lemma keeps_malloc (memory : Memory) (size : UInt64) (asked : request.wanted = size.toNat) :
    heap.Keeps request (.pointer (malloc size (heap, memory)).1)
      (malloc size (heap, memory)).2.1 := by
  rw [malloc]
  split
  case h_1 => exact heap.keeps_refl request (by rintro _ ⟨⟩; rfl)
  case h_2 block h =>
    obtain ⟨size, takes⟩ := extent?_of_nextBlock? h
    constructor
    · rintro addr wanted ⟨old, mem, rest⟩ -
      exact ⟨old, List.mem_append_left _ mem, rest⟩
    rintro _ ⟨⟩
    exact .inr ⟨block, List.mem_append_right _ (List.mem_singleton_self _), rfl,
      by rw [asked, size], takes⟩

/-- The heap keeps its blocks but for the one that a request gives up. -/
lemma keeps_serve (distinct : heap.Distinct) (orderly : heap.Orderly) (memory : Memory)
    (request : Request RealAddr) :
    heap.Keeps request (allocator.serve request (heap, memory)).1
      (allocator.serve request (heap, memory)).2.1 := by
  have unforced := orderly.unforced
  cases request with
  | malloc size =>
    simp only [allocator, Allocator.serve, unforced]
    exact keeps_malloc memory size rfl
  | calloc count size =>
    simp only [allocator, Allocator.serve, unforced, calloc]
    split
    case h_1 => exact heap.keeps_refl _ (by rintro _ ⟨⟩; rfl)
    case h_2 total product => exact keeps_malloc memory total (Word.mul?_eq_some.1 product).2.symm
  | realloc addr size =>
    simp only [allocator, Allocator.serve, unforced, realloc]
    split
    case isTrue null => exact keeps_malloc memory size rfl
    case isFalse =>
      split
      case h_1 => exact heap.keeps_refl _ (by rintro _ ⟨⟩; rfl)
      case h_2 old found =>
        split
        case h_1 => exact heap.keeps_refl _ (by rintro _ ⟨⟩; rfl)
        case h_2 block h =>
          obtain ⟨same, takes⟩ := extent?_of_nextBlock? h
          have next := isNext_of_nextBlock? h
          have left {other : Block} (mem : other ∈ heap.live ++ [block]) (ne : other.addr ≠ addr) :
              other ∈ ((heap.handOut block).drop addr).live :=
            List.mem_filter.2 ⟨mem, bne_iff_ne.2 ne⟩
          constructor
          · rintro _ wanted ⟨other, mem, rfl, rest⟩ ne
            refine ⟨other, left (List.mem_append_left _ mem) fun same => ne ?_, rfl, rest⟩
            exact congrArg some same.symm
          · rintro _ ⟨⟩
            have live : addr ∈ heap.addrs := by
              have same := List.find?_some found
              rw [beq_iff_eq] at same
              exact List.mem_map.2 ⟨old, List.mem_of_find?_eq_some found, same⟩
            have fresh : block.addr ≠ addr := fun same =>
              distinct.next_not_mem orderly next (same ▸ live)
            exact .inr ⟨block, left (List.mem_append_right _ (List.mem_singleton_self _)) fresh,
              rfl, by rw [same]; rfl, takes⟩
  | free addr =>
    refine ⟨?_, by rintro _ ⟨⟩⟩
    rintro _ wanted ⟨other, mem, rfl, rest⟩ ne
    refine ⟨other, List.mem_filter.2 ⟨mem, bne_iff_ne.2 fun same => ne ?_⟩, rfl, rest⟩
    exact congrArg some same.symm
  | usableSize addr =>
    simp only [allocator, Allocator.serve, unforced]
    exact heap.keeps_refl _ (by rintro _ ⟨⟩)

end Heap

namespace Session

/-- The pointer is not null, and stands for a live block or a chunk of the size asked for. -/
structure Holding.Backed (route : Route) (image : Image) (holding : Holding) : Prop where
  nonnull : (route.addressOf holding.pointer).isNull = false
  block : image.heap.contains (route.addressOf holding.pointer) = true →
    image.heap.Holds (route.addressOf holding.pointer) holding.size
  chunk : image.arena.contains (route.addressOf holding.pointer) = true →
    ∃ chunk ∈ image.chunks, chunk.addr = route.addressOf holding.pointer ∧
      chunk.size.toNat = holding.size

variable {route : Route} {image next : Image} {held : List Holding} {dropped : List RealAddr}
  {request : Request PresentedAddr} {answer : Answer} {task : Task} {holding : Holding}

namespace Holding.Backed

/-- Only the live blocks and the chunks matter. -/
lemma of_same (backed : holding.Backed route image) (live : next.heap.live = image.heap.live)
    (capacity : next.heap.capacity = image.heap.capacity)
    (arena : next.arena.capacity = image.arena.capacity)
    (chunks : image.chunks ⊆ next.chunks) : holding.Backed route next where
  nonnull := backed.nonnull
  block := fun inside => by
    rw [Heap.contains_congr capacity] at inside
    rw [Heap.Holds, live]
    exact backed.block inside
  chunk := fun inside => by
    rw [Arena.contains_congr arena] at inside
    obtain ⟨chunk, mem, rest⟩ := backed.chunk inside
    exact ⟨chunk, chunks mem, rest⟩

end Holding.Backed

/-- What is held after an answer is backed: what is kept, all that was held if memory is refused,
and what the answer stands for. -/
lemma backed_heldAfter
    (kept : ∀ holding ∈ kept held request, holding.Backed route next)
    (refused : answer.address? = some 0 → ∀ holding ∈ held, holding.Backed route next)
    (given : ∀ value, answer.address? = some value → value ≠ 0 →
      Holding.Backed route next ⟨⟨value⟩, request.wanted⟩) :
    ∀ holding ∈ heldAfter held request answer, holding.Backed route next := by
  cases told : answer.address? with
  | none => rwa [heldAfter_none told]
  | some value =>
    by_cases null : value = 0
    · subst null
      rw [heldAfter_null told]
      exact refused told
    · rw [heldAfter_pointer told null]
      exact List.forall_mem_cons.2 ⟨given value told null, kept⟩

/-- Two pointers that are held to one address of the heap are one. -/
lemma Owned.holding_inj {heap : Heap} (own : Owned route heap held dropped) {other : Holding}
    (mem : holding ∈ held) (mem' : other ∈ held)
    (inside : heap.contains (route.addressOf holding.pointer) = true)
    (same : route.addressOf holding.pointer = route.addressOf other.pointer) : holding = other := by
  have nodup := own.nodup_owned
  rw [owned, List.filter_map] at nodup
  have inside' : heap.contains (route.addressOf other.pointer) = true := by rwa [← same]
  exact List.inj_on_of_nodup_map nodup (List.mem_filter.2 ⟨mem, inside⟩)
    (List.mem_filter.2 ⟨mem', inside'⟩) same

/-- A task asks for as many bytes as its request. -/
lemma Task.Serves.wanted_eq {arena : Arena} (serves : task.Serves route arena request) :
    task.request.wanted = request.wanted := by
  cases serves <;> rfl

namespace Image

/-- The heap serves the request that a task makes, and the arena stays as it is. -/
lemma heap_carryOut (image : Image) (task : Task) :
    (image.carryOut task).2.heap =
        (Heap.allocator.serve task.request (image.heap, image.memory)).2.1 ∧
      (image.carryOut task).2.arena = image.arena := by
  obtain ⟨memory, eq⟩ := image.carryOut_eq task
  rw [eq]
  exact ⟨rfl, rfl⟩

/-- The heap carries a task out: what is held then is backed. -/
lemma backed_carryOut (orderly : image.Orderly) (own : Owned route image.heap held dropped)
    (backed : ∀ holding ∈ held, holding.Backed route image)
    (serves : task.Serves route image.arena request)
    (holds : ∀ pointer ∈ request.givenUp?, Held held pointer)
    (tells : Tells route answer (image.carryOut task).1) :
    ∀ holding ∈ heldAfter held request answer,
      holding.Backed route (image.carryOut task).2 := by
  have apart := orderly.placed.apart
  obtain ⟨heap, arena⟩ := image.heap_carryOut task
  have grants : image.heap.Grants task.request (image.carryOut task).1
      (image.carryOut task).2.heap := by
    rw [heap]
    exact Heap.grants_serve own.distinct orderly.heap image.memory task.request
  have keeps : image.heap.Keeps task.request (image.carryOut task).1
      (image.carryOut task).2.heap := by
    rw [heap]
    exact Heap.keeps_serve own.distinct orderly.heap image.memory task.request
  have distinct := grants.distinct own.distinct orderly.heap
  have hands := orderly.heap.handsOut_serve image.memory task.request
  have room : (image.carryOut task).2.heap.used ≤ image.heap.capacity := by
    rw [heap]
    exact hands.room
  have contains : (image.carryOut task).2.heap.contains = image.heap.contains := by
    rw [heap]
    exact Heap.contains_congr hands.capacity
  have chunks : (image.carryOut task).2.chunks = image.chunks := chunks_carryOut _ task
  refine backed_heldAfter (fun holding mem => ?kept) (fun refused => ?refused)
    fun value told nonnull => ?given
  case kept =>
    obtain ⟨mem, other⟩ := List.mem_filter.1 mem
    rw [decide_eq_true_iff] at other
    refine ⟨(backed holding mem).nonnull, fun inside => ?_, fun inside => ?_⟩
    · rw [contains] at inside
      refine keeps.kept _ _ ((backed holding mem).block inside) fun retired => ?_
      -- the block that is given up is behind another pointer
      have given := (serves.retired?_iff apart inside).1 retired
      obtain ⟨pointer, given, same⟩ := Option.map_eq_some_iff.1 given
      obtain ⟨giver, mem', rfl⟩ := holds pointer
        (Request.givenUp?_of_contains given (same ▸ inside))
      exact other (by rw [given, own.holding_inj mem mem' inside same.symm])
    · rw [arena] at inside
      rw [chunks]
      exact (backed holding mem).chunk inside
  case refused =>
    rw [tells.refused refused] at grants
    have same := grants.eq_of_refused orderly.heap
    exact fun holding mem => (backed holding mem).of_same (by rw [same]) (by rw [same])
      (by rw [arena]) (by rw [chunks]; exact List.Subset.refl _)
  case given =>
    cases response : (image.carryOut task).1 with
    | pointer addr =>
      rw [response] at tells
      obtain ⟨value', told', meant, null⟩ := tells
      obtain rfl : value' = value := Option.some.inj (told'.symm.trans told)
      have nonnull : addr ≠ .null := fun same => nonnull (null.2 same)
      have holds := (keeps.given addr (by rw [response]; rfl)).resolve_left nonnull
      rw [← meant] at nonnull
      refine ⟨?_, fun _ => ?_, fun inside => ?_⟩
      · rw [Bool.eq_false_iff, Ne, RealAddr.isNull_iff]
        exact nonnull
      · dsimp only
        rw [meant, ← serves.wanted_eq]
        exact holds
      · have range := distinct.range addr holds.mem_addrs
        rw [arena] at inside
        have outside : image.heap.contains _ = false := Heap.contains_of_arena apart inside
        rw [meant, Bool.eq_false_iff, Ne, Heap.contains_iff] at outside
        omega
    | freed | size n =>
      rw [response] at tells
      cases tells.symm.trans told

/-- A chunk that the arena hands out is among the chunks from then on. -/
lemma exists_chunk_arenaAlloc (placed : image.Placed) (size : UInt64) :
    (image.arenaAlloc size).1 = .null ∨
      ⟨(image.arenaAlloc size).1, size⟩ ∈ (image.arenaAlloc size).2.chunks := by
  rw [arenaAlloc_eq placed]
  split
  · exact .inr List.mem_cons_self
  · exact .inl rfl

/-- The arena keeps its chunks and its capacity. -/
lemma chunks_arenaAlloc (placed : image.Placed) (size : UInt64) :
    image.chunks ⊆ (image.arenaAlloc size).2.chunks := by
  rw [arenaAlloc_eq placed]
  split
  · exact List.subset_cons_self _ _
  · exact List.Subset.refl _

/-- A pointer that the arena answers is null, or that of a chunk of the size that was asked for. -/
lemma exists_chunk_bootstrap (placed : image.Placed) (task : Task) :
    image.chunks ⊆ (image.bootstrap task).2.chunks ∧
      ∀ addr ∈ (image.bootstrap task).1.pointer?, addr = .null ∨
        ∃ chunk ∈ (image.bootstrap task).2.chunks, chunk.addr = addr ∧
          chunk.size.toNat = task.request.wanted := by
  have chunks := chunks_arenaAlloc placed
  have alloc (size : UInt64) : (image.arenaAlloc size).1 = .null ∨
      ∃ chunk ∈ (image.arenaAlloc size).2.chunks, chunk.addr = (image.arenaAlloc size).1 ∧
        chunk.size.toNat = size.toNat :=
    (exists_chunk_arenaAlloc placed size).imp_right fun mem => ⟨_, mem, rfl, rfl⟩
  have nothing : image.chunks ⊆ image.chunks ∧ ∀ addr ∈ (Response.pointer RealAddr.null).pointer?,
      addr = .null ∨ ∃ chunk ∈ image.chunks, chunk.addr = addr ∧
        chunk.size.toNat = task.request.wanted :=
    ⟨List.Subset.refl _, by rintro _ ⟨⟩; exact .inl rfl⟩
  cases task with
  | malloc size => exact ⟨chunks size, by rintro _ ⟨⟩; exact alloc size⟩
  | calloc count size =>
    simp only [bootstrap]
    split
    case h_1 => exact nothing
    case h_2 total product =>
      have wanted : total.toNat = count.toNat * size.toNat := (Word.mul?_eq_some.1 product).2
      have alloc := alloc total
      rw [wanted] at alloc
      split <;> exact ⟨chunks total, by rintro _ ⟨⟩; exact alloc⟩
  | realloc addr size =>
    simp only [bootstrap]
    split
    case isTrue => exact ⟨chunks size, by rintro _ ⟨⟩; exact alloc size⟩
    case isFalse => exact nothing
  | move chunk kept size =>
    simp only [bootstrap, chunks_settle]
    exact ⟨chunks size, by rintro _ ⟨⟩; exact alloc size⟩
  | free addr => exact ⟨List.Subset.refl _, by rintro _ ⟨⟩⟩
  | usableSize addr => exact ⟨List.Subset.refl _, by rintro _ ⟨⟩⟩

/-- The arena answers a request: what is held then is backed. -/
lemma backed_foreign (backed : ∀ holding ∈ held, holding.Backed route image)
    (live : next.heap.live = image.heap.live) (capacity : next.heap.capacity = image.heap.capacity)
    (arena : next.arena.capacity = image.arena.capacity) (chunks : image.chunks ⊆ next.chunks)
    (given : ∀ value, answer.address? = some value → value ≠ 0 →
      (route.addressOf ⟨value⟩).isNull = false ∧
        image.heap.contains (route.addressOf ⟨value⟩) = false ∧
        ∃ chunk ∈ next.chunks, chunk.addr = route.addressOf ⟨value⟩ ∧
          chunk.size.toNat = request.wanted) :
    ∀ holding ∈ heldAfter held request answer, holding.Backed route next := by
  have old : ∀ holding ∈ held, holding.Backed route next := fun holding mem =>
    (backed holding mem).of_same live capacity arena chunks
  refine backed_heldAfter (fun holding mem => old holding (List.mem_filter.1 mem).1) (fun _ => old)
    fun value told nonnull => ?_
  obtain ⟨nonnull, outside, chunk⟩ := given value told nonnull
  refine ⟨nonnull, fun inside => ?_, fun _ => chunk⟩
  rw [Heap.contains_congr capacity] at inside
  exact absurd inside (by simp [outside])

/-- The arena carries a task out: what is held then is backed. -/
lemma backed_bootstrap (placed : image.Placed)
    (backed : ∀ holding ∈ held, holding.Backed route image)
    (serves : task.Serves route image.arena request)
    (tells : Tells route answer (image.bootstrap task).1) :
    ∀ holding ∈ heldAfter held request answer, holding.Backed route (image.bootstrap task).2 := by
  obtain ⟨chunks, given⟩ := exists_chunk_bootstrap placed task
  have foreign := bootstrap_foreign placed task
  have capacity := (follows_bootstrap image task).1.capacity
  obtain ⟨arena, memory, _, same⟩ := image.bootstrap_same task
  have heap : (image.bootstrap task).2.heap = image.heap := by rw [same]
  refine backed_foreign backed (by rw [heap]) (by rw [heap]) capacity chunks
    fun value told nonnull => ?_
  generalize (image.bootstrap task).1 = response at tells given foreign
  cases response with
  | pointer addr =>
    obtain ⟨value', told', meant, null⟩ := tells
    obtain rfl : value' = value := Option.some.inj (told'.symm.trans told)
    have nonnull : addr ≠ .null := fun same => nonnull (null.2 same)
    rw [meant, ← serves.wanted_eq]
    refine ⟨?_, (foreign addr rfl).2, (given addr rfl).resolve_left nonnull⟩
    rw [Bool.eq_false_iff, Ne, RealAddr.isNull_iff]
    exact nonnull
  | freed | size n => cases tells.symm.trans told

/-- A chunk is taken straight from the arena: what is held then is backed. -/
lemma backed_arenaAlloc (placed : image.Placed)
    (backed : ∀ holding ∈ held, holding.Backed route image) (size : UInt64) :
    ∀ holding ∈ heldAfter held (.malloc size) (.chunk (if (image.arenaAlloc size).1.isNull then none
        else some (image.arenaAlloc size).1.value)),
      holding.Backed route (image.arenaAlloc size).2 := by
  obtain ⟨clear, outside⟩ := arenaAlloc_foreign placed size
  obtain ⟨arena, memory, _, same⟩ := image.arenaAlloc_same size
  have heap : (image.arenaAlloc size).2.heap = image.heap := by rw [same]
  refine backed_foreign backed (by rw [heap]) (by rw [heap])
    (follows_arenaAlloc image size).capacity (chunks_arenaAlloc placed size)
    fun value told nonnull => ?_
  simp only [Answer.address?] at told
  split at told
  case isTrue => cases told
  case isFalse taken =>
    cases told
    have meant : route.addressOf ⟨(image.arenaAlloc size).1.value⟩ = (image.arenaAlloc size).1 := by
      rw [Route.addressOf, Route.resolve_of_clear clear]
    rw [meant]
    refine ⟨Bool.eq_false_iff.2 taken, outside, ⟨(image.arenaAlloc size).1, size⟩, ?_, rfl, rfl⟩
    refine (exists_chunk_arenaAlloc placed size).resolve_left fun null => taken ?_
    rw [null]
    rfl

end Image

namespace Machine

variable {setup : Setup} {m m' caller : Machine} {step : Step}

/-- An answer leaves what is held backed. -/
lemma Answers.backed (answers : Answers m m' answer)
    (backed : ∀ holding ∈ held, holding.Backed route m.image) :
    ∀ holding ∈ held, holding.Backed route m'.image := fun holding mem =>
  (backed holding mem).of_same (by rw [answers.heap]) (by rw [answers.heap]) (by rw [answers.arena])
    (by rw [answers.chunks]; exact List.Subset.refl _)

/-- The conclusion of a task leaves what is held backed. -/
lemma Concludes.backed (concludes : Concludes setup m step request task m')
    (running : m.halted = none)
    (height : m.stack.length ≤ caller.stack.length) (orderly : m.image.Orderly)
    (own : Owned setup.route m.image.heap held dropped)
    (backed : ∀ holding ∈ held, holding.Backed setup.route m.image)
    (serves : task.Serves setup.route m.image.arena request)
    (holds : ∀ pointer ∈ request.givenUp?, Held held pointer) :
    ∀ holding ∈ heldOnce held request (caller.answer? m'),
      holding.Backed setup.route m'.image := by
  cases concludes with
  | carried ready =>
    have answers := answers_respond setup (m.carried task) step request (m.image.carryOut task).1
    obtain ⟨memory, carried⟩ := m.carried_eq task
    have same : (m.carried task).halted = m.halted ∧ (m.carried task).stack = m.stack := by
      rw [carried]
      exact ⟨rfl, rfl⟩
    rw [answers.answer?_eq (same.1.trans running) (by rw [same.2]; exact height)]
    exact answers.backed (Image.backed_carryOut orderly own backed serves holds
      (tells_leave _ _ _ (clear_carryOut orderly task)))
  | aborts failed =>
    rw [answer?_of_halted (Option.some_ne_none _)]
    exact fun holding mem => (backed holding mem).of_same rfl rfl rfl (List.Subset.refl _)

/-- A request that is met leaves what is held backed. -/
lemma Met.backed (met : Met setup m step request m') (running : m.halted = none)
    (height : m.stack.length = caller.stack.length) (orderly : m.image.Orderly)
    (own : Owned setup.route m.image.heap held dropped)
    (backed : ∀ holding ∈ held, holding.Backed setup.route m.image)
    (holds : ∀ pointer ∈ request.givenUp?, Held held pointer) :
    ∀ holding ∈ heldOnce held request (caller.answer? m'),
      holding.Backed setup.route m'.image := by
  have entered (configured : Bool) (reports : List Diagnostic) :
      ∀ holding ∈ held, holding.Backed setup.route (m.entered configured reports).image :=
    fun holding mem => (backed holding mem).of_same rfl rfl rfl (List.Subset.refl _)
  cases met with
  | known configured reports answer unneeded silent =>
    have answers := answers_deliver (m.entered configured reports) step answer
    rw [answers.answer?_eq running (Nat.le_of_eq height), heldOnce, heldAfter_none silent]
    exact answers.backed fun holding mem =>
      entered configured reports holding (List.mem_filter.1 mem).1
  | concludes configured reports task serves concludes =>
    exact concludes.backed running (Nat.le_of_eq height)
      (orderly.congr rfl rfl orderly.unforced rfl rfl) own (entered configured reports) serves holds
  | bootstrapped configured reports task serves resolving =>
    have answers := answers_respond setup ((m.entered configured reports).bootstrapped task) step
      request ((m.entered configured reports).image.bootstrap task).1
    have left : (m.entered configured reports).image.Orderly :=
      orderly.congr rfl rfl orderly.unforced rfl rfl
    have placed := left.placed
    rw [answers.answer?_eq running (Nat.le_of_eq height)]
    exact answers.backed (Image.backed_bootstrap placed (entered configured reports) serves
      (tells_leave _ _ _ fun addr mem => (Image.bootstrap_foreign placed task addr mem).1))
  | waits configured reports task serves unresolved =>
    rw [answer?_of_higher (by rw [← height]; exact Nat.lt_succ_self _)]
    exact fun holding mem => (backed holding mem).of_same rfl rfl rfl (List.Subset.refl _)

/-- A step leaves what is held backed. -/
theorem Proper.backed_step (layered : ∀ config, setup.route ≠ .direct config)
    (proper : Proper setup m) (orderly : m.image.Orderly)
    (own : Owned setup.route m.image.heap held dropped) (entrusted : Entrusted m held)
    (backed : ∀ holding ∈ held, holding.Backed setup.route m.image) (careful : m.Careful held)
    (h : m.step setup = some m') :
    ∀ holding ∈ m.tally m' held, holding.Backed setup.route m'.image := by
  obtain ⟨running, -⟩ := step_cases h
  have began (step : Step) : (m.begun.primed step).halted = none :=
    (m.halted_primed step).trans running
  have unforced {step : Step} (call : m.next? = some step) :
      (m.begun.primed step).image = m.image :=
    image_primed_of_unforced (careful.1 step call)
  have published (frame : Frame) :
      ∀ holding ∈ held, holding.Backed setup.route (m.published setup frame).image :=
    fun holding mem => (backed holding mem).of_same rfl rfl rfl (List.Subset.refl _)
  cases proper.course layered h with
  | answered step image answer call asks heap arena chunks table events silent =>
    rw [unforced call] at heap
    rw [tally_of_unserved (served?_of_not_asks call asks)]
    exact (answers_deliver { m.begun.primed step with image } step answer).backed
      fun holding mem => (backed holding mem).of_same (by rw [heap]) (by rw [heap]) (by rw [arena])
        (by rw [chunks]; exact List.Subset.refl _)
  | takes step size call kind =>
    have served : m.served? = some (.malloc size) := by simp [served?, call, request?, kind]
    have answers := answers_deliver { m.begun.primed step with
      image := ((m.begun.primed step).image.arenaAlloc size).2 } step
      (.chunk (if ((m.begun.primed step).image.arenaAlloc size).1.isNull then none
        else some ((m.begun.primed step).image.arenaAlloc size).1.value))
    have taken := Image.backed_arenaAlloc orderly.placed backed size
    rw [← unforced call] at taken
    rw [tally_of_served served,
      answers.answer?_eq (began step) (Nat.le_of_eq (m.length_primed step))]
    exact answers.backed taken
  | looks step s call kind unresolved =>
    have unserved : m.served? = none := by simp [served?, call, request?, kind]
    rw [← unforced call] at backed
    rw [tally_of_unserved unserved]
    exact fun holding mem => (backed holding mem).of_same rfl rfl rfl (List.Subset.refl _)
  | requests step operands call kind met =>
    have asked := asked?_of_request call kind
    rw [← unforced call] at orderly own backed
    rw [tally_of_served (served?_of_asked asked)]
    exact met.backed (began step) (m.length_primed step) orderly own backed
      fun pointer given => (careful.2 _ asked pointer given).1
  | finds frame stack answer returns eq job silent =>
    have unserved : m.served? = none := by simp [served?, returns, eq, job, Job.request?]
    rw [tally_of_unserved unserved]
    exact (answers_deliver (m.published setup frame) frame.step answer).backed (published frame)
  | @resumes frame stack request task _ returns eq job serves symbol concludes =>
    have served : m.served? = some request := by simp [served?, returns, eq, job, Job.request?]
    have retiring : m.retiring = request.givenUp?.toList ++ (m.published setup frame).retiring := by
      rw [retiring_eq eq, job]
      rfl
    rw [tally_of_served served]
    refine concludes.backed running ?_ (orderly.congr rfl rfl orderly.unforced rfl rfl) own
      (published frame) serves fun pointer given => ?_
    · simp [Machine.published]
    · exact entrusted.held pointer (retiring ▸ List.mem_append_left _ (Option.mem_toList.2 given))

/-- What is held is backed in every state of a session. -/
theorem backed_after (layered : ∀ config, setup.route ≠ .direct config)
    {heapCapacity capacity : Nat} (apart : Heap.base + heapCapacity ≤ Arena.base)
    (below : Arena.base + capacity < 2 ^ 48) (script : List Step) {n : Nat} :
    let first := start (.fresh heapCapacity capacity) script
    (∀ i < n, (after setup i first).Careful (ledger setup first i)) →
      ∀ i ≤ n, ∀ holding ∈ ledger setup first i,
        holding.Backed setup.route (after setup i first).image := by
  intro first careful i le
  induction i with
  | zero => exact List.forall_mem_nil _
  | succ i ih =>
    obtain ⟨orderly, conserves, entrusted⟩ :=
      custody_after layered apart below script careful i (Nat.le_of_succ_le le)
    have proper : Proper setup (after setup i first) :=
      (Proper.start setup heapCapacity capacity script).after layered i
    rw [after_succ, ledger]
    cases h : (after setup i first).step setup with
    | none => exact ih (Nat.le_of_succ_le le)
    | some next =>
      exact proper.backed_step layered orderly conserves.owned entrusted
        (ih (Nat.le_of_succ_le le)) (careful i le) h

/-! ## The sizes in the headers -/

/-- What the heap answers keeps the contract of a real allocator. -/
lemma honest_carryOut {image : Image} (orderly : image.Orderly) (task : Task) (known : Bool) :
    (Event.real task.request (image.carryOut task).1 known).Honest image.arena := by
  have apart := orderly.placed.apart
  have hands := orderly.heap.handsOut_serve image.memory task.request
  have room := hands.room
  have clear := clear_carryOut orderly task
  have block : ∀ addr ∈ (image.carryOut task).1.pointer?, _ := hands.block
  cases response : (image.carryOut task).1 with
  | pointer addr =>
    rw [response] at block clear
    refine (block addr rfl).imp_right fun bounds => ⟨clear addr rfl, .inl ?_⟩
    dsimp only at bounds room
    omega
  | freed | size n => trivial

/-- Whether the heap is honest shows in what was asked of it. -/
lemma honest_iff : m.Honest ↔ ∀ entry ∈ m.reached,
    (Event.real entry.1 entry.2.1 entry.2.2).Honest m.image.arena := by
  constructor
  · intro honest entry mem
    obtain ⟨event, happened, reached⟩ := List.mem_filterMap.1 mem
    cases event with
    | real request response known =>
      cases reached
      exact honest _ happened
    | cleared | resolve | inside | resolved => cases reached
  · intro honest event mem
    cases event with
    | real request response known =>
      exact honest (request, response, known) (List.mem_filterMap.2 ⟨_, mem, rfl⟩)
    | cleared | resolve | inside | resolved => trivial

/-- A machine of which nothing more was asked is as honest. -/
lemma Honest.of_same (honest : m.Honest) (reached : m'.reached = m.reached)
    (capacity : m'.image.arena.capacity = m.image.arena.capacity) : m'.Honest := by
  rw [honest_iff] at honest ⊢
  rw [reached]
  exact fun entry mem => (honest entry mem).congr capacity

/-- The conclusion of a task leaves the heap honest. -/
lemma Concludes.honest (concludes : Concludes setup m step request task m')
    (orderly : m.image.Orderly) (honest : m.Honest) : m'.Honest := by
  cases concludes with
  | carried ready =>
    have answers := answers_respond setup (m.carried task) step request (m.image.carryOut task).1
    obtain ⟨memory, carried⟩ := m.carried_eq task
    have arena : (m.carried task).image.arena = m.image.arena := by rw [carried]; rfl
    refine Honest.of_same (m := m.carried task) ?_ answers.reached (by rw [answers.arena])
    rw [honest_iff, reached_carried, arena]
    refine List.forall_mem_append.2 ⟨honest_iff.1 honest, List.forall_mem_singleton.2 ?_⟩
    exact honest_carryOut orderly task _
  | aborts failed => exact honest.of_same rfl rfl

/-- A request that is met leaves the heap honest. -/
lemma Met.honest (met : Met setup m step request m') (orderly : m.image.Orderly)
    (honest : m.Honest) : m'.Honest := by
  have entered (configured : Bool) (reports : List Diagnostic) :
      (m.entered configured reports).Honest := honest.of_same rfl rfl
  cases met with
  | known configured reports answer unneeded silent =>
    have answers := answers_deliver (m.entered configured reports) step answer
    exact (entered configured reports).of_same answers.reached (by rw [answers.arena])
  | concludes configured reports task serves concludes =>
    exact concludes.honest (orderly.congr rfl rfl orderly.unforced rfl rfl)
      (entered configured reports)
  | bootstrapped configured reports task serves resolving =>
    have answers := answers_respond setup ((m.entered configured reports).bootstrapped task) step
      request ((m.entered configured reports).image.bootstrap task).1
    refine (entered configured reports).of_same
      (answers.reached.trans (reached_bootstrapped _ task)) ?_
    rw [answers.arena]
    exact (Image.follows_bootstrap _ task).1.capacity
  | waits configured reports task serves unresolved =>
    exact (entered configured reports).of_same (reached_claimed ..) rfl

/-- A step leaves the heap honest. -/
theorem Proper.honest_step (layered : ∀ config, setup.route ≠ .direct config)
    (proper : Proper setup m) (orderly : m.image.Orderly)
    (unforced : ∀ step ∈ m.next?, step.forced = none) (honest : m.Honest)
    (h : m.step setup = some m') : m'.Honest := by
  have primed {step : Step} (call : m.next? = some step) : (m.begun.primed step).image = m.image :=
    image_primed_of_unforced (unforced step call)
  have begun {step : Step} (call : m.next? = some step) : (m.begun.primed step).Honest :=
    honest.of_same (reached_primed m step) (by rw [primed call])
  have published (frame : Frame) : (m.published setup frame).Honest :=
    honest.of_same (reached_published setup m frame) rfl
  cases proper.course layered h with
  | answered step image answer call asks heap arena chunks table events silent =>
    have answers := answers_deliver { m.begun.primed step with image } step answer
    have reached : ({ m.begun.primed step with image } : Machine).reached =
        (m.begun.primed step).reached := by
      simp only [reached, history, events, image_primed]
    exact (begun call).of_same (answers.reached.trans reached)
      (by rw [answers.arena, primed call]; exact congrArg Arena.capacity arena)
  | takes step size call kind =>
    have answers := answers_deliver { m.begun.primed step with
      image := ((m.begun.primed step).image.arenaAlloc size).2 } step
      (.chunk (if ((m.begun.primed step).image.arenaAlloc size).1.isNull then none
        else some ((m.begun.primed step).image.arenaAlloc size).1.value))
    obtain ⟨arena, memory, chunks, same⟩ := (m.begun.primed step).image.arenaAlloc_same size
    refine (begun call).of_same (answers.reached.trans ?_) ?_
    · rw [same]
      rfl
    · rw [answers.arena]
      exact (Image.follows_arenaAlloc _ size).capacity
  | looks step s call kind unresolved => exact (begun call).of_same (reached_claimed ..) rfl
  | requests step operands call kind met =>
    exact met.honest (by rwa [primed call]) (begun call)
  | finds frame stack answer returns eq job silent =>
    have answers := answers_deliver (m.published setup frame) frame.step answer
    exact (published frame).of_same answers.reached (by rw [answers.arena])
  | resumes frame stack returns eq job serves symbol concludes =>
    exact concludes.honest (orderly.congr rfl rfl orderly.unforced rfl rfl) (published frame)

/-- Who stores inside what is held spares the headers. -/
lemma Separate.tidy (separate : Separate setup.route m.image held) (placed : m.image.Placed)
    (fair : m.Fair setup held) : m.Tidy setup := by
  intro step call
  have owns := (fair step call).2
  unfold Owns at owns
  unfold Spares
  split
  case h_1 target bytes kind =>
    rw [kind] at owns
    obtain ⟨holding, mem, start, stop⟩ := owns
    intro chunk mem'
    have below := placed.below
    have within := placed.within
    have bounds := placed.tiles.bounds (by omega) mem'
    have header := Arena.headerSize_eq
    by_contra overlap
    -- the larger of the two starts is a byte of both ranges
    refine separate.apart holding mem (max (setup.route.resolve (m.value target)).toNat
      (chunk.addr.value.toNat - Arena.headerSize)) ⟨?_, ?_⟩ ⟨chunk, mem', ?_, ?_⟩ <;> omega
  case h_2 => trivial

/-- The headers hold the sizes of the chunks in every state of a session. -/
theorem intact_after (layered : ∀ config, setup.route ≠ .direct config)
    {heapCapacity capacity : Nat} (apart : Heap.base + heapCapacity ≤ Arena.base)
    (below : Arena.base + capacity < 2 ^ 48) (script : List Step) {n : Nat} :
    let first := start (.fresh heapCapacity capacity) script
    (∀ i < n, (after setup i first).Fair setup (ledger setup first i)) →
      ∀ i ≤ n, (after setup i first).image.Intact := by
  intro first fair i le
  have sound : first.Sound capacity False := Sound.start apart below script
  have orderly : first.image.Orderly := ⟨sound.placed, Nat.zero_le _, rfl⟩
  have separate (j : Nat) (le : j ≤ n) := separate_ledger layered sound orderly fair le
  have honest (j : Nat) (le : j ≤ n) : (after setup j first).Honest := by
    induction j with
    | zero => exact fun _ mem => nomatch mem
    | succ j ih =>
      have proper : Proper setup (after setup j first) :=
        (Proper.start setup heapCapacity capacity script).after layered j
      rw [after_succ]
      cases h : (after setup j first).step setup with
      | none => exact ih (Nat.le_of_succ_le le)
      | some next =>
        exact proper.honest_step layered (separate j (Nat.le_of_succ_le le)).1
          (fun step call => (fair j le step call).1) (ih (Nat.le_of_succ_le le)) h
  have tidy : ∀ j < i, (after setup j first).Tidy setup := fun j lt =>
    have lt := Nat.lt_of_lt_of_le lt le
    have ⟨orderly, separate⟩ := separate j (Nat.le_of_lt lt)
    separate.tidy orderly.placed (fair j lt)
  have started : first.Sound capacity True := Sound.start apart below script
  exact (started.after layered i fun _ => tidy).intact trivial (honest i le)

end Machine

end Session

end PointerTagging
