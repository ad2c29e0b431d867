import PointerTagging.Proofs.Session.Allocators

/-!
# Fresh arrays are zero

The interposer sets a fresh array to zero by a product of words that wraps around. What it sets is
the array exactly, because each of the two layers that make arrays refuses a product that does not
fit: the real allocator by its contract (`Callocs`), and the arena by a checked product
(`Machine.arrays_zeroed`).
-/

namespace PointerTagging.Session

/-- A real allocator that has gone from one state to the next grants an array the block: its address
has no tag bit set, it is mapped, there is room for the array in it, and nothing outside of it was
written. What was written to the block itself is not said. -/
structure Grants (count size : UInt64) (before : Heap × Memory) (block : Region)
    (after : RealAddr × Heap × Memory) : Prop where
  addr : after.1.value.toNat = block.start
  clear : isEncoded after.1.value = false
  mapped : after.2.1.region.covers block.start block.size = true
  room : count.toNat * size.toNat ≤ block.size
  outside : ∀ a, block.covers a 1 = false → after.2.2.byteAt a = before.2.byteAt a

/-- The contract of a real `calloc`: it returns null if the product overflows, and else null, with no
byte changed, or a block. -/
structure Callocs (count size : UInt64) (before : Heap × Memory)
    (after : RealAddr × Heap × Memory) : Prop where
  overflow : 2 ^ 64 ≤ count.toNat * size.toNat → after.1 = .null
  refused : after.1 = .null → after.2.2 = before.2
  granted : after.1 ≠ .null → ∃ block, Grants count size before block after

/-- The array at a presented address is what changed between the two memories: it lies in the block
and is zero, and outside of the block and the header no byte is another one. -/
structure Zeroed (route : Route) (count size value : UInt64) (block header : Region)
    (before after : Memory) : Prop where
  fits : count.toNat * size.toNat < 2 ^ 64
  product : (count * size).toNat = count.toNat * size.toNat
  inside : block.covers (route.addressOf ⟨value⟩).value.toNat (count.toNat * size.toNat) = true
  zero : ∀ i < count.toNat * size.toNat,
    after.byteAt ((route.addressOf ⟨value⟩).value.toNat + i) = 0
  outside : ∀ a, block.covers a 1 = false → header.covers a 1 = false →
    after.byteAt a = before.byteAt a

variable {count size : UInt64}

/-- An address lies in a region as the bounds say. -/
lemma covers_eq_true {region : Region} {addr len : Nat} :
    region.covers addr len = true ↔
      region.start ≤ addr ∧ addr + len ≤ region.start + region.size := by
  simp [Region.covers]

/-- An address lies outside of a region as the bounds say. -/
lemma covers_eq_false {region : Region} {a : Nat} :
    region.covers a 1 = false ↔ ¬(region.start ≤ a ∧ a < region.start + region.size) := by
  rw [← Bool.not_eq_true, covers_eq_true]
  omega

/-- A product that fits in a word is exact. -/
lemma toNat_mul_of_fits (fits : count.toNat * size.toNat < 2 ^ 64) :
    (count * size).toNat = count.toNat * size.toNat := by
  rw [UInt64.toNat_mul, Nat.mod_eq_of_lt fits]

/-- The array in a block that is granted is mapped. -/
lemma Grants.covers {before : Heap × Memory} {block : Region} {after : RealAddr × Heap × Memory}
    (grants : Grants count size before block after) :
    after.2.1.region.covers after.1.value.toNat (count.toNat * size.toNat) = true := by
  obtain ⟨addr, -, mapped, room, -⟩ := grants
  rw [covers_eq_true] at mapped ⊢
  omega

/-- The heap keeps the contract where no answer is forced on it. -/
lemma callocs_heap {heap : Heap} (orderly : heap.Orderly)
    (below : Heap.base + heap.capacity ≤ 2 ^ 48) (memory : Memory) (count size : UInt64) :
    Callocs count size (heap, memory) (Heap.allocator.calloc count size (heap, memory)) := by
  have same : Heap.allocator.calloc count size (heap, memory) =
      Heap.calloc count size (heap, memory) := by
    simp only [Heap.allocator, orderly.unforced]
  rw [same, Heap.calloc]
  split
  case h_1 overflow =>
    exact ⟨fun _ => rfl, fun _ => rfl, fun nonnull => absurd rfl nonnull⟩
  case h_2 total product =>
    obtain ⟨fits, number⟩ := Word.mul?_eq_some.1 product
    rw [Heap.malloc]
    split
    case h_1 => exact ⟨fun _ => rfl, fun _ => rfl, fun nonnull => absurd rfl nonnull⟩
    case h_2 block h =>
      have next := Heap.isNext_of_nextBlock? h
      have start := next.toNat_addr orderly.small
      have holds := next.holds
      have room := next.fits
      have nonnull := next.ne_null orderly
      have mapped : (heap.handOut block).region.covers (Heap.base + heap.used) block.extent = true :=
        covers_eq_true.2 ⟨Nat.le_add_right _ _, by dsimp only [Heap.region, Heap.handOut]; omega⟩
      refine ⟨fun overflow => absurd fits (by omega), fun null => absurd null nonnull, fun _ =>
        ⟨⟨Heap.base + heap.used, block.extent⟩, start, ?_, mapped, by dsimp only; omega, ?_⟩⟩
      · exact next.clear ⟨below, orderly.unforced⟩
      · intro a outside
        exact next.byteAt_dress_of_not_mem orderly memory (covers_eq_false.1 outside)

namespace Machine

variable {setup : Setup} {m m' next : Machine} {allocator : Allocator (Heap × Memory)}
  {handover : Handover} {capacity : Nat} {config : Config}

/-! ## What a step makes -/

/-- The machine `m'` is about to answer the call that the next step of `m` works on. Nothing has
changed yet of what arrays consist of. -/
structure Ready (m m' : Machine) : Prop where
  running : m'.halted = none
  stack : m'.stack.length ≤ m.stack.length
  arena : m'.image.arena = m.image.arena
  chunks : m'.image.chunks = m.image.chunks
  memory : m'.image.memory = m.image.memory

/-- Where the bytes of a new array come from: a block that the real allocator grants, or the payload
behind the header of a new chunk, if `calloc` is being resolved. -/
inductive Origin (allocator : Allocator (Heap × Memory)) (setup : Setup) (count size : UInt64)
    (m next : Machine) : Region → Region → Prop where
  | granted {handover : Handover} {block : Region} :
    m.handover? setup = some handover →
    Grants count size handover.state block (allocator.calloc count size handover.state) →
    Origin allocator setup count size m next block ⟨block.start, 0⟩
  | chunk :
    .calloc ∈ next.resolving →
    m.Takes next (count * size) →
    next.image.arena.used ≤ next.image.arena.capacity →
    Origin allocator setup count size m next
      ⟨Arena.base + m.image.arena.used + Arena.headerSize,
        Arena.extent (count * size) - Arena.headerSize⟩
      ⟨Arena.base + m.image.arena.used, Arena.headerSize⟩

/-- What a step does that works on a request for an array: it changes no byte and answers null or
nothing, or it answers an array that is set to zero. -/
inductive Makes (allocator : Allocator (Heap × Memory)) (setup : Setup) (count size : UInt64)
    (m next : Machine) : Prop where
  | nothing :
    (∀ answer ∈ m.answer? next, answer = .pointer 0) →
    next.image.memory = m.image.memory →
    Makes allocator setup count size m next
  | array {value : UInt64} {block header : Region} :
    m.answer? next = some (.pointer value) →
    value ≠ 0 →
    Origin allocator setup count size m next block header →
    Zeroed setup.route count size value block header m.image.memory next.image.memory →
    Makes allocator setup count size m next

/-- A step that answers nothing makes no array. -/
lemma Makes.of_silent (silent : m.answer? next = none)
    (memory : next.image.memory = m.image.memory) : Makes allocator setup count size m next :=
  .nothing (by rw [silent]; exact nofun) memory

/-- A range that was filled with zeros. -/
lemma zeroed_fill {route : Route} {value : UInt64} {block header : Region} {before written : Memory}
    (fits : count.toNat * size.toNat < 2 ^ 64)
    (inside : block.covers (route.addressOf ⟨value⟩).value.toNat (count.toNat * size.toNat) = true)
    (outside : ∀ a, block.covers a 1 = false → header.covers a 1 = false →
      written.byteAt a = before.byteAt a) :
    Zeroed route count size value block header before
      (written.fill (route.addressOf ⟨value⟩).value.toNat (count * size).toNat 0) := by
  have product := toNat_mul_of_fits fits
  refine ⟨fits, product, inside, fun i lt => ?_, fun a out aside => ?_⟩
  · exact written.byteAt_fill_of_mem 0 (by omega)
  · rw [covers_eq_true] at inside
    rw [written.byteAt_fill_of_not_mem 0 (by rw [covers_eq_false] at out; omega)]
    exact outside a out aside

/-- The payload of a chunk that fits lies behind its header, where no tag bit is set. -/
lemma payload_of_room {arena : Arena} {len : UInt64} (below : Arena.base + arena.capacity < 2 ^ 48)
    (room : arena.used + Arena.extent len ≤ arena.capacity) :
    (Arena.payload arena.used).value.toNat = Arena.base + arena.used + Arena.headerSize ∧
      Arena.payload arena.used ≠ .null ∧
      isEncoded (Arena.payload arena.used).value = false := by
  have header := Arena.le_extent len
  have place : (Arena.payload arena.used).value.toNat =
      Arena.base + arena.used + Arena.headerSize := Arena.toNat_payload (by omega)
  refine ⟨place, fun null => ?_, isEncoded_of_lt (by omega)⟩
  rw [null] at place
  exact absurd place (Nat.ne_of_lt (Nat.add_pos_right _ (by decide)))

/-- The payload of a chunk that fits, filled with zeros by the arena, and then by the interposer. -/
lemma zeroed_chunk {route : Route} {value : UInt64} {arena : Arena} (memory : Memory)
    (below : Arena.base + arena.capacity < 2 ^ 48) (fits : count.toNat * size.toNat < 2 ^ 64)
    (room : arena.used + Arena.extent (count * size) ≤ arena.capacity)
    (same : route.addressOf ⟨value⟩ = Arena.payload arena.used) :
    Zeroed route count size value
      ⟨Arena.base + arena.used + Arena.headerSize, Arena.extent (count * size) - Arena.headerSize⟩
      ⟨Arena.base + arena.used, Arena.headerSize⟩ memory
      (((memory.writeWord (Arena.base + arena.used) (count * size)).fill
        (route.addressOf ⟨value⟩).value.toNat (count * size).toNat 0).fill
          (route.addressOf ⟨value⟩).value.toNat (count * size).toNat 0) := by
  have header := Arena.le_extent (count * size)
  have product := toNat_mul_of_fits fits
  obtain ⟨place, -, -⟩ := payload_of_room below room
  rw [← same] at place
  refine zeroed_fill fits ?_ fun a out aside => ?_
  · rw [covers_eq_true, place]
    dsimp only
    omega
  · rw [covers_eq_false] at out aside
    dsimp only [Arena.headerSize_eq] at out aside
    rw [Memory.byteAt_fill_of_not_mem _ 0 (by omega),
      Memory.byteAt_writeWord_of_not_mem _ _ (by omega)]

/-- A request for an array that is handed over is answered with what the allocator returns. -/
lemma servedBy_calloc (allocator : Allocator (Heap × Memory)) (setup : Setup)
    (request : handover.request = .calloc count size) (task : handover.task = .calloc count size) :
    ∃ events, handover.servedBy allocator setup =
      ({ handover.machine with
        image := { handover.machine.image with
          heap := (allocator.calloc count size handover.state).2.1
          memory := (allocator.calloc count size handover.state).2.2
          events } } : Machine).respond setup handover.step (.calloc count size)
        (.pointer (allocator.calloc count size handover.state).1) := by
  obtain ⟨m', step, request, task⟩ := handover
  subst request task
  exact ⟨_, rfl⟩

/-- The arena answers a request for an array with null, and stays as it is, or with a chunk whose
payload it has set to zero. -/
lemma bootstrap_calloc_cases {image : Image} (below : Arena.base + image.arena.capacity < 2 ^ 48)
    (within : image.arena.used ≤ image.arena.capacity) (count size : UInt64) :
    image.bootstrap (.calloc count size) = (.pointer .null, image) ∨
    count.toNat * size.toNat < 2 ^ 64 ∧
      image.arena.used + Arena.extent (count * size) ≤ image.arena.capacity ∧
      image.bootstrap (.calloc count size) =
        (.pointer (Arena.payload image.arena.used),
          { image with
            arena := { image.arena with used := image.arena.used + Arena.extent (count * size) }
            chunks := ⟨Arena.payload image.arena.used, count * size⟩ :: image.chunks
            memory := (image.memory.writeWord (Arena.base + image.arena.used) (count * size)).fill
              (Arena.payload image.arena.used).value.toNat (count * size).toNat 0 }) := by
  simp only [Image.bootstrap]
  split
  case h_1 => exact .inl rfl
  case h_2 total product =>
    obtain ⟨fits, number⟩ := Word.mul?_eq_some.1 product
    obtain rfl : total = count * size := by
      rw [← UInt64.toNat_inj, number, toNat_mul_of_fits fits]
    rw [Image.arenaAlloc_eq_of_within (by omega) within]
    by_cases room : image.arena.used + Arena.extent (count * size) ≤ image.arena.capacity
    case neg =>
      simp only [if_neg room]
      exact .inl rfl
    case pos =>
      obtain ⟨-, nonnull, -⟩ := payload_of_room below room
      simp only [if_pos room, if_neg (mt RealAddr.isNull_iff.1 nonnull)]
      exact .inr ⟨fits, room, trivial⟩

/-! ## The two layers that make arrays -/

section Layers

variable (layer : setup.route.config? = some config)

include layer

/-- An interposer that ignores tags sets a mapped array to zero at its own address. -/
lemma memory_leave_calloc (image : Image) {addr : RealAddr} (clear : isEncoded addr.value = false)
    (mapped : addr ≠ .null → image.maps addr.value.toNat (count * size).toNat = true) :
    (setup.route.leave .tagIgnoring image (.calloc count size) (.pointer addr)).2.memory =
      if addr = .null then image.memory
      else image.memory.fill addr.value.toNat (count * size).toNat 0 := by
  have null := Protection.isNull_present config.tag
    (Interposer.resultClass config (.calloc count size)) clear
  have target := Protection.resolve_present config.tag
    (Interposer.resultClass config (.calloc count size)) clear
  simp only [Route.leave, layer, Interposer.present, Response.map, Interposer.cleared?, null]
  by_cases zero : addr = .null
  case pos => rw [if_pos zero, if_pos (RealAddr.isNull_iff.2 zero)]; rfl
  case neg =>
    rw [if_neg zero, if_neg (mt RealAddr.isNull_iff.1 zero)]
    simp only [Image.clear, Access.target, Access.zero, target, mapped zero, Bool.or_true, if_true]
    rfl

variable (ignores : setup.access = .tagIgnoring)

include ignores

/-- The response to a request for an array is delivered, and the array set to zero. -/
lemma exists_array (count size : UInt64) (m' : Machine) (running : m'.halted = none)
    (stack : m'.stack.length ≤ m.stack.length) (step : Step) (addr : RealAddr)
    (clear : isEncoded addr.value = false)
    (mapped : addr ≠ .null → m'.image.maps addr.value.toNat (count * size).toNat = true) :
    ∃ value, m.answer? (m'.respond setup step (.calloc count size) (.pointer addr)) =
        some (.pointer value) ∧
      setup.route.addressOf ⟨value⟩ = addr ∧ (value = 0 ↔ addr = .null) ∧
      (m'.respond setup step (.calloc count size) (.pointer addr)).image.memory =
        if addr = .null then m'.image.memory
        else m'.image.memory.fill addr.value.toNat (count * size).toNat 0 := by
  have answers := answers_respond setup m' step (.calloc count size) (.pointer addr)
  have tells : Tells setup.route (.ofResponse (setup.route.leave setup.access m'.image
      (.calloc count size) (.pointer addr)).1) (.pointer addr) :=
    tells_leave _ _ _ (by rintro _ ⟨⟩; exact clear)
  obtain ⟨value, told⟩ := exists_leave setup.route setup.access m'.image (.calloc count size) addr
  rw [told] at answers tells
  obtain ⟨_, ⟨⟩, same, null⟩ := tells
  refine ⟨value, ?_, same, null, ?_⟩
  · rw [answer?, if_pos ⟨answers.halted.trans running, by rwa [answers.stack]⟩, answers.last]
  · rw [respond_eq, memory_deliver, ignores]
    exact memory_leave_calloc layer m'.image clear mapped

/-- Null that is delivered makes no array. -/
lemma makes_null (m' : Machine) (running : m'.halted = none)
    (stack : m'.stack.length ≤ m.stack.length) (memory : m'.image.memory = m.image.memory)
    (step : Step) :
    Makes allocator setup count size m
      (m'.respond setup step (.calloc count size) (.pointer .null)) := by
  obtain ⟨value, answer, -, zero, written⟩ := exists_array layer ignores count size m' running stack
    step .null RealAddr.isEncoded_null fun nonnull => absurd rfl nonnull
  obtain rfl := zero.2 rfl
  refine .nothing ?_ (written.trans (by rw [if_pos rfl, memory]))
  rw [answer]
  rintro _ ⟨⟩
  rfl

/-- A real allocator that keeps its contract makes an array or nothing. -/
lemma makes_servedBy (hands : m.handover? setup = some handover) (ready : Ready m handover.machine)
    (request : handover.request = .calloc count size) (task : handover.task = .calloc count size)
    (contract : Callocs count size handover.state (allocator.calloc count size handover.state)) :
    Makes allocator setup count size m (handover.servedBy allocator setup) := by
  have origin (block : Region) := @Origin.granted allocator setup count size m
    (handover.servedBy allocator setup) handover block hands
  have kept : handover.state.2 = m.image.memory := ready.memory
  obtain ⟨events, served⟩ := servedBy_calloc allocator setup request task
  rw [served] at origin ⊢
  generalize allocator.calloc count size handover.state = after at contract origin ⊢
  obtain ⟨addr, heap, memory⟩ := after
  obtain ⟨overflow, refused, granted⟩ := contract
  by_cases null : addr = .null
  case pos =>
    subst null
    refine makes_null layer ignores _ ?_ ?_ ?_ _
    · exact ready.running
    · exact ready.stack
    · exact (refused rfl).trans kept
  case neg =>
    obtain ⟨block, grants⟩ := granted null
    have fits : count.toNat * size.toNat < 2 ^ 64 := by
      by_contra large
      exact null (overflow (by omega))
    obtain ⟨value, answer, rfl, zero, written⟩ := exists_array (m := m) layer ignores count size
      { handover.machine with image := { handover.machine.image with heap, memory, events } }
      ready.running ready.stack handover.step addr grants.clear fun _ => by
        rw [toNat_mul_of_fits fits]
        exact Bool.or_eq_true_iff.2 (.inl grants.covers)
    refine .array answer (mt zero.1 null) (origin block grants) ?_
    rw [written, if_neg null]
    refine zeroed_fill fits ?_ fun a outside _ => ?_
    · rw [covers_eq_true, ← grants.addr]
      exact ⟨Nat.le_refl _, Nat.add_le_add_left grants.room _⟩
    · rw [← kept]
      exact grants.outside a outside

/-- The arena makes an array or nothing. -/
lemma makes_bootstrapped (below : Arena.base + capacity < 2 ^ 48)
    (regular : Regular setup capacity m) (ready : Ready m m') (resolving : .calloc ∈ m'.resolving)
    (step : Step) :
    Makes allocator setup count size m ((m'.bootstrapped (.calloc count size)).respond setup step
      (.calloc count size) (m'.image.bootstrap (.calloc count size)).1) := by
  obtain ⟨running, stack, arena, chunks, memory⟩ := ready
  have within := regular.within
  rw [← regular.capacity, ← arena] at below within
  obtain null | ⟨fits, room, chunk⟩ := bootstrap_calloc_cases below within count size
  · simp only [bootstrapped, null]
    exact makes_null layer ignores _ running stack memory step
  · have header := Arena.le_extent (count * size)
    have product := toNat_mul_of_fits fits
    obtain ⟨place, nonnull, clear⟩ := payload_of_room below room
    have carried := congrArg Prod.snd chunk
    obtain ⟨value, answer, same, zero, written⟩ := exists_array (m := m) layer ignores count size
      (m'.bootstrapped (.calloc count size)) running stack step
      (Arena.payload m'.image.arena.used) clear fun _ => by
        rw [bootstrapped, carried]
        exact Bool.or_eq_true_iff.2 (.inr (covers_eq_true.2 (by dsimp only [Arena.region]; omega)))
    have answers := answers_respond setup (m'.bootstrapped (.calloc count size)) step
      (.calloc count size) (.pointer (Arena.payload m'.image.arena.used))
    rw [chunk]
    dsimp only
    generalize (m'.bootstrapped (.calloc count size)).respond setup step (.calloc count size)
      (.pointer (Arena.payload m'.image.arena.used)) = next at answer written answers ⊢
    have takes : m.Takes next (count * size) := by
      constructor
      · rw [answers.arena, bootstrapped, carried, arena]
      · rw [answers.chunks, bootstrapped, carried, arena, chunks]
    refine .array answer (mt zero.1 nonnull) (.chunk ?_ takes ?_) ?_
    · rw [Machine.resolving, answers.stack]
      exact resolving
    · rw [takes.arena, ← arena]
      exact room
    · rw [written, if_neg nonnull, bootstrapped, carried, ← memory, ← arena, ← same]
      exact zeroed_chunk m'.image.memory below fits room same

end Layers

/-! ## The steps of a call -/

/-- The machine is ready to answer a call that it has just begun. -/
lemma ready_entered (running : m.halted = none) (step : Step) (configured : Bool)
    (reports : List Diagnostic) : Ready m ((m.begun.primed step).entered configured reports) := by
  refine ⟨(m.halted_primed step).trans running, Nat.le_of_eq (m.length_primed step), ?_, ?_, ?_⟩ <;>
    simp only [entered, image_primed]

/-- How a step goes on with a request for an array: it is handed over to the real allocator, carried
out by the arena while `calloc` is being resolved, or not answered. -/
inductive Pursues (allocator : Allocator (Heap × Memory)) (setup : Setup) (count size : UInt64)
    (m : Machine) : Machine → Prop where
  | hands {handover : Handover} :
    m.handover? setup = some handover →
    Ready m handover.machine →
    handover.request = .calloc count size →
    handover.task = .calloc count size →
    Pursues allocator setup count size m (handover.servedBy allocator setup)
  | bootstraps {m' : Machine} (step : Step) :
    Ready m m' →
    .calloc ∈ m'.resolving →
    Pursues allocator setup count size m ((m'.bootstrapped (.calloc count size)).respond setup step
      (.calloc count size) (m'.image.bootstrap (.calloc count size)).1)
  | silent {next : Machine} :
    m.answer? next = none →
    next.image.memory = m.image.memory →
    Pursues allocator setup count size m next

/-- A call that asks for an array. -/
lemma Regular.pursues_of_asked (layered : ∀ config, setup.route ≠ .direct config)
    (regular : Regular setup capacity m) (running : m.halted = none) {step : Step}
    (call : m.next? = some step) (asked : m.asked? = some (.calloc count size))
    (h : m.stepBy allocator setup = some next) : Pursues allocator setup count size m next := by
  obtain ⟨unneeded, -⟩ | ⟨-, configured, reports, enter⟩ :=
    setup.route.enter_cases (m.begun.primed step).image (.calloc count size)
  · cases unneeded
  have ready := ready_entered running step configured reports
  have nested : ((m.begun.primed step).entered configured reports).Nested :=
    (regular.proper.nested.primed step).of_same ⟨rfl, rfl, rfl⟩
      (regular.proper.nested.primed step).waits
  obtain ⟨operands, kind, same⟩ := exists_operands call asked
  have made : m.step setup = some (((m.begun.primed step).entered configured reports).lookup setup
      .calloc step (.request (.calloc count size) (.calloc count size))) := by
    rw [step_eq_call setup running call, call_request setup m kind, same,
      request_of_need layered (.calloc count size) enter rfl]
    rfl
  -- what becomes of the request depends on the slot alone
  have handed : m.handover? setup =
      if (((m.begun.primed step).entered configured reports).image.table.slots .calloc).state = .ready
      then some ⟨(m.begun.primed step).entered configured reports, step, .calloc count size,
        .calloc count size⟩
      else none := by
    simp only [handover?, running, call, asked, Option.bind_some, bound?, enter, Image.plan,
      Request.map, Task.symbol]
    cases state : ((m.begun.primed step).image.table.slots .calloc).state <;>
      simp only [entered, state, reduceCtorEq, if_true, if_false]
  have above : m.stack.length < (((m.begun.primed step).entered configured reports).claimed setup
      .calloc step (.request (.calloc count size) (.calloc count size))).stack.length :=
    Nat.lt_succ_of_le (Nat.le_of_eq (m.length_primed step).symm)
  generalize (m.begun.primed step).entered configured reports = m' at ready nested made handed above
  unfold Machine.stepBy at h
  rw [handed, made, nested.lookup_eq] at h
  cases state : (m'.image.table.slots .calloc).state with
  | ready =>
    rw [state] at handed h
    cases h
    exact .hands handed ready rfl rfl
  | resolving =>
    have mem := (nested.slots .calloc).1 state
    rw [state, if_pos mem] at h
    cases h
    exact .bootstraps step ready mem
  | failed =>
    rw [state, if_neg (nested.not_mem_resolving (by rw [state]; decide))] at h
    cases h
    exact .silent (answer?_of_halted (Option.some_ne_none _)) ready.memory
  | unresolved =>
    rw [state, if_neg (nested.not_mem_resolving (by rw [state]; decide))] at h
    cases h
    exact .silent (answer?_of_higher above) ready.memory

/-- A resolver returns that a call waits for which asks for an array. -/
lemma Regular.pursues_of_returns (layered : ∀ config, setup.route ≠ .direct config)
    (regular : Regular setup capacity m) (running : m.halted = none) {frame : Frame}
    {stack : List Frame} (returns : m.next? = none) (eq : m.stack = frame :: stack)
    (waits : frame.job.request? = some (.calloc count size))
    (h : m.stepBy allocator setup = some next) : Pursues allocator setup count size m next := by
  have awaits := regular.proper.awaits frame (eq ▸ List.mem_cons_self)
  have job : frame.job = .request (.calloc count size) (.calloc count size) := by
    cases kind : frame.job with
    | lookup => rw [kind] at waits; cases waits
    | request request task =>
      rw [kind] at waits awaits
      cases waits
      cases awaits with
      | request serves symbol => cases serves; rfl
  have idle : frame.script = [] := by simpa [next?, eq] using returns
  have ready : Ready m (m.published setup frame) :=
    ⟨running, by simp [published], rfl, rfl, rfl⟩
  have handed : m.handover? setup = m.found? setup frame := by
    simp only [handover?, running, returns, eq, List.head?_cons, Option.bind_some]
  obtain ⟨addr, found, -⟩ | ⟨failed, state⟩ := state_published setup m frame
  · simp only [found?, job, found] at handed
    rw [Machine.stepBy, handed] at h
    cases h
    exact .hands handed ready rfl rfl
  · simp only [found?, job, failed] at handed
    rw [Machine.stepBy, handed] at h
    obtain ⟨symbol, concludes⟩ := regular.proper.concludes layered eq idle job h
    cases concludes with
    | carried bound =>
      rw [symbol, state] at bound
      cases bound
    | aborts => exact .silent (answer?_of_halted (Option.some_ne_none _)) rfl

/-- A step that works on a request for an array goes on with it. -/
lemma Regular.pursues (layered : ∀ config, setup.route ≠ .direct config)
    (regular : Regular setup capacity m) (served : m.served? = some (.calloc count size))
    (h : m.stepBy allocator setup = some next) : Pursues allocator setup count size m next := by
  have running : m.halted = none := by
    cases handed : m.handover? setup with
    | none =>
      rw [Machine.stepBy, handed] at h
      exact (step_cases h).1
    | some handover => exact (step_cases (step_of_handover layered handed)).1
  unfold served? at served
  split at served
  case h_1 step call =>
    refine regular.pursues_of_asked layered running call ?_ h
    unfold request? at served
    split at served
    case h_1 operands kind =>
      rw [asked?_of_request call kind]
      exact served
    all_goals cases served
  case h_2 returns =>
    obtain ⟨frame, top, waits⟩ := Option.bind_eq_some_iff.1 served
    obtain ⟨stack, eq⟩ := List.head?_eq_some_iff.1 top
    exact regular.pursues_of_returns layered running returns eq waits h

/-- Fresh arrays are zero, and nothing else is. Take any session over the symbol table behind an
interposer that ignores tags, with any configuration, any script, any resolvers and any allocator for
the real one, and a step in any state of it that works on a request for an array: it makes the call,
or the resolver returns that the call has waited for. If the step hands the request over to the real
allocator, let the allocator keep its contract there: it returns null if the product overflows, and
else null or a block that is mapped and has room for the array, with anything in it.

* The step answers with a pointer, or not at all.
* If the pointer is not null, then the product fits in a word, so that the wrapping product is the
  exact one. So many bytes at the pointer's real address are zero. They lie in the block that the
  real allocator has just granted, or, if `calloc` is being resolved, in the payload of a chunk that
  has just been taken from the arena. No byte outside of the block has changed except in the header
  of the new chunk.
* If the pointer is null, or there is no answer, then no byte has changed. -/
theorem arrays_zeroed (layer : setup.route.config? = some config)
    (layered : ∀ config, setup.route ≠ .direct config) (ignores : setup.access = .tagIgnoring)
    (heapCapacity : Nat) (below : Arena.base + capacity < 2 ^ 48)
    (allocator : Allocator (Heap × Memory)) (script : List Step) (k : Nat) :
    let m := afterBy allocator setup k (start (.fresh heapCapacity capacity) script)
    ∀ count size next, m.served? = some (.calloc count size) →
      m.stepBy allocator setup = some next →
      (∀ handover ∈ m.handover? setup, Callocs count size handover.state
        (allocator.calloc count size handover.state)) →
      (∀ answer ∈ m.answer? next, ∃ value, answer = .pointer value) ∧
      (∀ value, m.answer? next = some (.pointer value) → value ≠ 0 →
        ∃ block header, Origin allocator setup count size m next block header ∧
          Zeroed setup.route count size value block header m.image.memory next.image.memory) ∧
      ((∀ value, m.answer? next = some (.pointer value) → value = 0) →
        next.image.memory = m.image.memory) := by
  intro m count size next served h contract
  have regular : Regular setup capacity m :=
    (Regular.start setup heapCapacity capacity script).afterBy layered allocator k
  have makes : Makes allocator setup count size m next := by
    cases regular.pursues layered served h with
    | hands handed ready request task =>
      exact makes_servedBy layer ignores handed ready request task (contract _ handed)
    | bootstraps step ready resolving =>
      exact makes_bootstrapped layer ignores below regular ready resolving step
    | silent silent memory => exact .of_silent silent memory
  cases makes with
  | nothing null memory =>
    refine ⟨fun answer mem => ⟨0, null answer mem⟩, fun value answer nonnull => ?_, fun _ => memory⟩
    cases null _ answer
    exact absurd rfl nonnull
  | @array value block header answer nonnull origin zeroed =>
    refine ⟨fun other mem => ⟨value, ?_⟩, fun other told _ => ?_, fun null => ?_⟩
    · exact (Option.some.inj (answer.symm.trans mem)).symm
    · cases answer.symm.trans told
      exact ⟨block, header, origin, zeroed⟩
    · exact absurd (null value answer) nonnull

/-- A process whose loader takes an array to resolve `calloc`. -/
def callocLoader : Setup where
  route := .layered .default
  access := .tagIgnoring
  resolver
    | .calloc => ⟨.ok, none, [⟨.request (.calloc 1 3), none, none⟩]⟩
    | _ => ⟨.ok, none, []⟩

/-- The states of a process that takes an array, over the heap. -/
def callocRun (i : Nat) : Machine :=
  afterBy Heap.allocator callocLoader i
    (start (.fresh 65536 1024) [⟨.request (.calloc 2 4), none, none⟩])

/-- The array of the loader is a chunk of the arena, that of the application a block of the heap. -/
theorem arrays_zeroed_nested :
    (∃ block header, Origin Heap.allocator callocLoader 1 3 (callocRun 1) (callocRun 2) block header ∧
      Zeroed callocLoader.route 1 3 0x1110000000010 block header (callocRun 1).image.memory
        (callocRun 2).image.memory) ∧
    ∃ block header, Origin Heap.allocator callocLoader 2 4 (callocRun 2) (callocRun 3) block header ∧
      Zeroed callocLoader.route 2 4 0x1100000000000 block header (callocRun 2).image.memory
        (callocRun 3).image.memory := by
  have zeroed := @arrays_zeroed callocLoader 1024 .default rfl nofun rfl 65536 (by decide)
    Heap.allocator [⟨.request (.calloc 2 4), none, none⟩]
  constructor
  · refine (zeroed 1 1 3 (callocRun 2) rfl rfl ?_).2.1 0x1110000000010 (by decide) (by decide)
    exact fun _ mem => nomatch mem
  · refine (zeroed 2 2 4 (callocRun 3) rfl rfl ?_).2.1 0x1100000000000 (by decide) (by decide)
    rintro _ ⟨⟩
    exact callocs_heap ⟨by decide, by decide, rfl⟩ (by decide) _ 2 4

end Machine

end PointerTagging.Session
