import PointerTagging.Proofs.Arena
import PointerTagging.Proofs.Heap
import PointerTagging.Session.Image

/-!
# What the layers of a process keep

Every operation on an image keeps its layout, adds to its events no request that passes an address of
the arena to the heap, and keeps the sizes in the chunk headers as long as the real allocator keeps
its own contract (`Image.Follows`). There is one lemma for each operation.
-/

namespace PointerTagging

/-- The bytes that a request asks for. -/
def Request.wanted {α : Type} : Request α → Nat
  | .malloc size => size.toNat
  | .calloc count size => count.toNat * size.toNat
  | .realloc _ size => size.toNat
  | .free _ => 0
  | .usableSize _ => 0

namespace Session

/-- The address that the event passes to the heap. -/
def Event.passed? : Event → Option RealAddr
  | .real request _ _ => request.pointer?
  | _ => none

/-- The contract of a real allocator beside an arena: a pointer that it returns is null, or it has no
tag bit set and the requested bytes behind it lie outside the arena. -/
def Event.Honest (arena : Arena) : Event → Prop
  | .real request (.pointer addr) _ =>
    addr.isNull = true ∨ isEncoded addr.value = false ∧
      (addr.value.toNat + request.wanted ≤ Arena.base ∨
        Arena.base + arena.capacity ≤ addr.value.toNat)
  | _ => True

instance (arena : Arena) : DecidablePred (Event.Honest arena)
  | .real request (.pointer addr) _ =>
    inferInstanceAs (Decidable (addr.isNull = true ∨ isEncoded addr.value = false ∧
      (addr.value.toNat + request.wanted ≤ Arena.base ∨
        Arena.base + arena.capacity ≤ addr.value.toNat)))
  | .real _ .freed _ | .real _ (.size _) _ => isTrue trivial
  | .cleared _ _ _ | .resolve _ | .inside _ _ _ | .resolved _ _ => isTrue trivial

namespace Image

/-- The heap and the arena lie side by side below the tag bits, and the chunks tile the used bytes of
the arena. -/
structure Placed (image : Image) : Prop where
  apart : Heap.base + image.heap.capacity ≤ Arena.base
  below : Arena.base + image.arena.capacity < 2 ^ 48
  within : image.arena.used ≤ image.arena.capacity
  tiles : Arena.Tiles image.chunks image.arena.used

/-- The heap ends in the addresses that fit in a word. -/
lemma Placed.small {image : Image} (placed : image.Placed) :
    Heap.base + image.heap.capacity < 2 ^ 64 := by
  have apart := placed.apart
  have below := placed.below
  omega

/-- Every chunk's header holds the requested size. -/
def Intact (image : Image) : Prop := Arena.Intact image.memory image.chunks

/-- No byte of the range belongs to the size in a chunk's header. -/
def Avoids (image : Image) (start len : Nat) : Prop := Arena.Avoids image.chunks start len

/-- A pointer in the response is null, or `wanted` bytes behind it can be written. -/
def Accepts (image : Image) (wanted : Nat) : Response RealAddr → Prop
  | .pointer addr =>
    addr.isNull = true ∨ isEncoded addr.value = false ∧ image.Avoids addr.value.toNat wanted
  | _ => True

/-- The image `next` comes from `image` by an operation. It keeps the headers if it is `safe`. -/
structure Follows (safe : Prop) (image next : Image) : Prop where
  capacity : next.arena.capacity = image.arena.capacity
  placed : image.Placed → next.Placed
  events : ∃ new, next.events = image.events ++ new ∧
    ∀ event ∈ new, ∀ addr ∈ event.passed?, image.arena.contains addr = false
  intact : safe → image.Placed → image.Intact → next.Intact

variable {image next last : Image} {safe safe' : Prop}

namespace Follows

/-- One operation after the other. -/
lemma trans (first : Follows safe image next) (second : Follows safe' next last) :
    Follows (safe ∧ safe') image last where
  capacity := second.capacity.trans first.capacity
  placed := fun placed => second.placed (first.placed placed)
  events := by
    obtain ⟨new, e, apart⟩ := first.events
    obtain ⟨new', e', apart'⟩ := second.events
    refine ⟨new ++ new', by rw [e', e, List.append_assoc], ?_⟩
    intro event mem addr passed
    rcases List.mem_append.1 mem with mem | mem
    · exact apart event mem addr passed
    · rw [← Arena.contains_congr first.capacity]
      exact apart' event mem addr passed
  intact := fun h placed intact => second.intact h.2 (first.placed placed) (first.intact h.1 placed intact)

/-- An operation that is always safe after another. -/
lemma andSafe (first : Follows safe image next) (second : Follows True next last) :
    Follows safe image last where
  capacity := (first.trans second).capacity
  placed := (first.trans second).placed
  events := (first.trans second).events
  intact := fun h => (first.trans second).intact ⟨h, trivial⟩

/-- What is safe under a condition is safe under a stronger one. -/
lemma mono (follows : Follows safe image next) (h : image.Placed → safe' → safe) :
    Follows safe' image next :=
  { follows with intact := fun safe placed => follows.intact (h placed safe) placed }

/-- An operation that writes to a range only. -/
lemma of_write {start len : Nat} (capacity : next.heap.capacity = image.heap.capacity)
    (arena : next.arena = image.arena) (chunks : next.chunks = image.chunks)
    (events : next.events = image.events)
    (same : ∀ a, ¬(start ≤ a ∧ a < start + len) → next.memory.byteAt a = image.memory.byteAt a) :
    Follows (image.Avoids start len) image next where
  capacity := by rw [arena]
  placed := by
    rintro ⟨apart, below, within, tiles⟩
    constructor
    · rwa [capacity]
    · rwa [arena]
    · rwa [arena]
    · rwa [arena, chunks]
  events := ⟨[], by rw [events, List.append_nil], fun _ mem => nomatch mem⟩
  intact := fun avoids _ intact => by
    rw [Intact, chunks]
    exact Arena.Intact.of_avoids intact avoids same

/-- An operation that writes to no memory. -/
lemma of_same (capacity : next.heap.capacity = image.heap.capacity)
    (arena : next.arena = image.arena) (chunks : next.chunks = image.chunks)
    (events : next.events = image.events) (memory : next.memory = image.memory) :
    Follows True image next :=
  have write : Follows (image.Avoids 0 0) image next :=
    of_write capacity arena chunks events fun _ _ => by rw [memory]
  write.mono fun _ _ _ _ => .inl rfl

end Follows

/-! ## The heap -/

/-- Reports do not touch the arena. -/
lemma follows_report (image : Image) (reports : List Diagnostic) :
    Follows True image (image.report reports) :=
  .of_same rfl rfl rfl rfl rfl

/-- The symbol table does not lie in the arena. -/
lemma follows_table (image : Image) (table : SymbolTable) :
    Follows True image { image with table } :=
  .of_same rfl rfl rfl rfl rfl

/-- A recorded event that passes no address to the heap adds itself. -/
lemma follows_record (image : Image) (event : Event) (quiet : event.passed? = none) :
    Follows True image (image.record event) where
  capacity := rfl
  placed := fun placed => ⟨placed.apart, placed.below, placed.within, placed.tiles⟩
  events := by
    refine ⟨[event], rfl, List.forall_mem_singleton.2 ?_⟩
    rw [quiet]
    exact fun _ mem => nomatch mem
  intact := fun _ _ intact => intact

/-- A request of the heap that passes no address of the arena writes to the heap's bytes only. -/
lemma follows_real (image : Image) {request : Request RealAddr}
    (apart : ∀ addr ∈ request.pointer?, image.arena.contains addr = false) :
    Follows True image (image.real request).2 where
  capacity := rfl
  placed := fun placed => by
    have within := Heap.within_serve image.memory placed.small request
    exact ⟨within.capacity ▸ placed.apart, placed.below, placed.within, placed.tiles⟩
  events := ⟨[_], rfl, List.forall_mem_singleton.2 apart⟩
  intact := fun _ placed intact => by
    have written := Heap.within_serve image.memory placed.small request
    have avoids : image.Avoids Heap.base image.heap.capacity := by
      have below := placed.below
      have within := placed.within
      exact placed.tiles.avoids_of_outside (by omega) (.inl placed.apart)
    exact Arena.Intact.of_avoids intact avoids fun a outside =>
      written.outside a (by dsimp only; omega)

/-- An honest pointer can be written through. -/
lemma accepts_of_honest (placed : image.Placed) {request : Request RealAddr}
    {response : Response RealAddr} {known : Bool}
    (honest : (Event.real request response known).Honest image.arena) :
    image.Accepts request.wanted response := by
  cases response with
  | freed => trivial
  | size n => trivial
  | pointer addr =>
    refine honest.imp_right fun ⟨clear, outside⟩ => ⟨clear, ?_⟩
    have below := placed.below
    have within := placed.within
    exact placed.tiles.avoids_of_outside (by omega) (by omega)

/-- A moved chunk's bytes are copied to the new place. -/
lemma follows_settle (image : Image) (task : Task) (response : Response RealAddr) :
    Follows (image.Accepts task.request.wanted response) image (image.settle task response) := by
  cases task with
  | move chunk kept size =>
    cases response with
    | freed => exact (Follows.of_same rfl rfl rfl rfl rfl).mono fun _ _ => trivial
    | size n => exact (Follows.of_same rfl rfl rfl rfl rfl).mono fun _ _ => trivial
    | pointer target =>
      simp only [settle]
      split
      case isTrue => exact (Follows.of_same rfl rfl rfl rfl rfl).mono fun _ _ => trivial
      case isFalse nonnull =>
        refine Follows.mono (.of_write rfl rfl rfl rfl fun a => Memory.byteAt_copy_of_not_mem _) ?_
        intro _ accepts
        obtain ⟨_, avoids⟩ := accepts.resolve_left nonnull
        refine avoids.mono ?_
        rw [Word.toNat_min]
        exact Nat.min_le_right _ _
  | _ => exact (Follows.of_same rfl rfl rfl rfl rfl).mono fun _ _ => trivial

/-- Settling a task takes no chunk. -/
lemma chunks_settle (image : Image) (task : Task) (response : Response RealAddr) :
    (image.settle task response).chunks = image.chunks := by
  unfold settle
  split
  · split <;> rfl
  · rfl

/-- Settling a task records nothing. -/
lemma events_settle (image : Image) (task : Task) (response : Response RealAddr) :
    (image.settle task response).events = image.events := by
  unfold settle
  split
  · split <;> rfl
  · rfl

/-- The pointer of a task that the heap carries out can be written through, if it is honest. -/
lemma accepts_carryOut (placed : image.Placed) {task : Task}
    (honest : ∀ event ∈ (image.carryOut task).2.events, event.Honest image.arena) :
    image.Accepts task.request.wanted (image.carryOut task).1 := by
  have mem : .real task.request (image.carryOut task).1 (image.knows task.request) ∈
      (image.carryOut task).2.events := by
    simp only [carryOut, events_settle]
    exact List.mem_append_right _ (List.mem_singleton_self _)
  exact accepts_of_honest placed (honest _ mem)

/-- A pointer can be written through also when other things have changed than the chunks. -/
lemma Accepts.congr {wanted : Nat} {response : Response RealAddr}
    (accepts : image.Accepts wanted response) (chunks : next.chunks = image.chunks) :
    next.Accepts wanted response := by
  cases response with
  | pointer addr =>
    rw [Accepts, Avoids, chunks]
    exact accepts
  | _ => trivial

/-- The heap takes no chunk. -/
lemma chunks_carryOut (image : Image) (task : Task) :
    (image.carryOut task).2.chunks = image.chunks := chunks_settle _ task _

/-- A task that passes no address of the arena is carried out by the heap, and safe if the heap's
answer is honest. -/
lemma follows_carryOut (image : Image) {task : Task}
    (apart : ∀ addr ∈ task.request.pointer?, image.arena.contains addr = false) :
    Follows (∀ event ∈ (image.carryOut task).2.events, event.Honest image.arena) image
      (image.carryOut task).2 :=
  ((follows_real image apart).trans (follows_settle _ task _)).mono fun placed honest =>
    ⟨trivial, accepts_carryOut placed honest⟩

/-! ## The arena -/

/-- A chunk is taken behind the used bytes of the arena. -/
lemma arenaAlloc_eq_of_within (small : image.arena.capacity < 2 ^ 64)
    (within : image.arena.used ≤ image.arena.capacity) (size : UInt64) :
    image.arenaAlloc size =
      if image.arena.used + Arena.extent size ≤ image.arena.capacity then
        (Arena.payload image.arena.used,
          { image with
            arena := { image.arena with used := image.arena.used + Arena.extent size }
            memory := image.memory.writeWord (Arena.base + image.arena.used) size
            chunks := ⟨Arena.payload image.arena.used, size⟩ :: image.chunks })
      else (.null, image) := by
  rw [arenaAlloc]
  split
  case h_1 addr arena memory h =>
    obtain ⟨fits, rfl, rfl, rfl⟩ := (Arena.alloc_eq_some small within).1 h
    rw [if_pos fits]
  case h_2 h =>
    split
    case isTrue fits =>
      rw [(Arena.alloc_eq_some small within).2 ⟨fits, rfl, rfl, rfl⟩] at h
      cases h
    case isFalse => rfl

/-- A chunk is taken behind the others. -/
lemma arenaAlloc_eq (placed : image.Placed) (size : UInt64) :
    image.arenaAlloc size =
      if image.arena.used + Arena.extent size ≤ image.arena.capacity then
        (Arena.payload image.arena.used,
          { image with
            arena := { image.arena with used := image.arena.used + Arena.extent size }
            memory := image.memory.writeWord (Arena.base + image.arena.used) size
            chunks := ⟨Arena.payload image.arena.used, size⟩ :: image.chunks })
      else (.null, image) := by
  have below := placed.below
  exact arenaAlloc_eq_of_within (by omega) placed.within size

/-- Taking a chunk keeps the tiling, and the headers of the other chunks. -/
lemma follows_arenaAlloc (image : Image) (size : UInt64) :
    Follows True image (image.arenaAlloc size).2 where
  capacity := by
    unfold arenaAlloc Arena.alloc
    cases Arena.chunkEnd? image.arena.capacity image.arena.used size <;> rfl
  placed := fun placed => by
    rw [arenaAlloc_eq placed]
    split
    case isTrue fits => exact ⟨placed.apart, placed.below, fits, placed.tiles.cons size⟩
    case isFalse => exact placed
  events := by
    refine ⟨[], ?_, fun _ mem => nomatch mem⟩
    unfold arenaAlloc
    split <;> exact (List.append_nil _).symm
  intact := fun _ placed intact => by
    rw [arenaAlloc_eq placed]
    split
    case isTrue fits =>
      have below := placed.below
      have room := Arena.le_extent size
      exact Arena.Intact.cons intact placed.tiles (by omega) size
    case isFalse => exact intact

/-- The payload of a new chunk can be written to. -/
lemma accepts_arenaAlloc (placed : image.Placed) (size : UInt64) :
    (image.arenaAlloc size).2.Accepts size.toNat (.pointer (image.arenaAlloc size).1) := by
  have follows := (follows_arenaAlloc image size).placed placed
  rw [arenaAlloc_eq placed] at follows ⊢
  split
  case isFalse => exact .inl rfl
  case isTrue fits =>
    simp only [if_pos fits] at follows
    have below := placed.below
    have room := Arena.le_extent size
    have top : (Arena.payload image.arena.used).value.toNat =
        Arena.base + image.arena.used + Arena.headerSize := Arena.toNat_payload (by omega)
    have avoids := follows.tiles.avoids_payload (by dsimp only; omega) List.mem_cons_self
    refine .inr ⟨isEncoded_of_lt (by dsimp only; omega), ?_⟩
    exact Arena.Avoids.mono avoids (Nat.le_sub_of_add_le' room)

/-- A task is carried out by the arena inside fresh payloads, and its pointer can be written
through. -/
lemma follows_bootstrap (image : Image) (task : Task) :
    Follows True image (image.bootstrap task).2 ∧
      (image.Placed → (image.bootstrap task).2.Accepts task.request.wanted
        (image.bootstrap task).1) := by
  have alloc (size : UInt64) := follows_arenaAlloc image size
  cases task with
  | malloc size => exact ⟨alloc size, fun placed => accepts_arenaAlloc placed size⟩
  | calloc count size =>
    simp only [bootstrap]
    split
    case h_1 => exact ⟨.of_same rfl rfl rfl rfl rfl, fun _ => .inl rfl⟩
    case h_2 total e =>
      have product := (Word.mul?_eq_some.1 e).2
      split
      case isTrue null => exact ⟨alloc total, fun _ => .inl null⟩
      case isFalse nonnull =>
        constructor
        · -- what is set to zero is the payload of the new chunk
          have fill : Follows _ (image.arenaAlloc total).2 { (image.arenaAlloc total).2 with
              memory := (image.arenaAlloc total).2.memory.fill
                (image.arenaAlloc total).1.value.toNat total.toNat 0 } :=
            .of_write rfl rfl rfl rfl fun a => Memory.byteAt_fill_of_not_mem _ 0
          refine ((alloc total).trans fill).mono fun placed _ => ⟨trivial, ?_⟩
          exact ((accepts_arenaAlloc placed total).resolve_left nonnull).2
        · intro placed
          rw [Task.request, Request.wanted, ← product]
          exact accepts_arenaAlloc placed total
  | realloc addr size =>
    simp only [bootstrap]
    split
    case isTrue => exact ⟨alloc size, fun placed => accepts_arenaAlloc placed size⟩
    case isFalse => exact ⟨.of_same rfl rfl rfl rfl rfl, fun _ => .inl rfl⟩
  | move chunk kept size =>
    constructor
    · exact ((alloc size).trans (follows_settle _ (.move chunk kept size) _)).mono fun placed _ =>
        ⟨trivial, accepts_arenaAlloc placed size⟩
    · intro placed
      exact (accepts_arenaAlloc placed size).congr (chunks_settle _ _ _)
  | free addr => exact ⟨.of_same rfl rfl rfl rfl rfl, fun _ => trivial⟩
  | usableSize addr => exact ⟨.of_same rfl rfl rfl rfl rfl, fun _ => trivial⟩

/-- Setting a range to zero is safe if no header lies in it. -/
lemma follows_clear (image : Image) (access : Access) (tag : Tag) (addr : PresentedAddr)
    (len : UInt64) :
    Follows (image.Avoids (access.target addr tag).toNat len.toNat) image
      (image.clear access tag addr len) := by
  unfold clear
  split
  case isTrue =>
    have write : Follows _ image { image with memory := access.zero image.memory addr tag len } :=
      .of_write rfl rfl rfl rfl fun a => Memory.byteAt_fill_of_not_mem _ 0
    exact write.andSafe (follows_record _ (.cleared addr len _) rfl)
  case isFalse => exact (follows_record _ (.cleared addr len _) rfl).mono fun _ _ => trivial

end Image

/-! ## The interposer -/

namespace Route

open Image

variable {route : Route} {image : Image}

/-- Reading the configuration does not touch the arena. -/
lemma follows_configure (route : Route) (image : Image) :
    Follows True image (route.configure image) := by
  unfold configure
  split
  · split <;> exact .of_same rfl rfl rfl rfl rfl
  · exact .of_same rfl rfl rfl rfl rfl

/-- A call on its way down does not touch the arena. -/
lemma follows_enter (route : Route) (image : Image) (request : Request PresentedAddr) :
    Follows True image (route.enter image request).2 := by
  unfold enter
  split
  · exact .of_same rfl rfl rfl rfl rfl
  · split
    · exact .of_same rfl rfl rfl rfl rfl
    · exact (follows_configure route image).andSafe (follows_report _ _)

/-- A tagged address lies above every address whose tag bits are clear. -/
lemma le_toNat_xor_mask {a : UInt64} (clear : isEncoded a = false) (tag : Tag) :
    2 ^ 48 ≤ (a ^^^ tag.mask).toNat := by
  refine Nat.le_of_not_lt fun lt => ?_
  have h := isEncoded_eq_false.1 (isEncoded_of_lt lt)
  rw [xor_and, isEncoded_eq_false.1 clear, tag.mask_and_highBits, UInt64.zero_xor] at h
  exact tag.mask_ne_zero h

/-- Where memory is touched through a presentation no header lies, if none lies at the address. -/
lemma avoids_target (placed : image.Placed) (access : Access) (tag : Tag) (protection : Protection)
    {addr : RealAddr} {len : Nat} (nonnull : ¬addr.isNull = true)
    (clear : isEncoded addr.value = false) (avoids : image.Avoids addr.value.toNat len) :
    image.Avoids (access.target (protection.present addr tag) tag).toNat len := by
  cases access with
  | tagIgnoring =>
    rw [Access.target, Protection.resolve_present tag protection clear]
    exact avoids
  | hardware =>
    cases protection with
    | plain => exact avoids
    | tagged =>
      -- memory is touched through the tag here, far above the arena
      rw [Access.target, Protection.present, RealAddr.tagged, if_neg nonnull]
      have above := le_toNat_xor_mask clear tag
      have below := placed.below
      have within := placed.within
      exact placed.tiles.avoids_of_outside (by omega) (.inr (by dsimp only; omega))

/-- A range that is set to zero is that of a pointer in the response, and no longer than wanted. -/
lemma cleared?_eq_some {config : Config} {request : Request PresentedAddr}
    {response : Response RealAddr} {presented : PresentedAddr} {len : UInt64}
    (h : Interposer.cleared? request (Interposer.present config request response) =
      some (presented, len)) :
    ∃ addr protection, response = .pointer addr ∧ ¬addr.isNull = true ∧
      presented = Protection.present protection addr config.tag ∧ len.toNat ≤ request.wanted := by
  cases request with
  | calloc count size =>
    cases response with
    | pointer addr =>
      simp only [Interposer.present, Response.map, Interposer.cleared?] at h
      split at h
      case isTrue => cases h
      case isFalse nonnull =>
        cases h
        refine ⟨addr, _, rfl, fun null => nonnull ?_, rfl, ?_⟩
        · rw [RealAddr.isNull_iff.1 null, Protection.present_null]
          rfl
        · rw [UInt64.toNat_mul]
          exact Nat.mod_le _ _
    | freed => cases h
    | size n => cases h
  | _ => cases h

/-- An answer on its way up is safe if its pointer can be written through. -/
lemma follows_leave (route : Route) (access : Access) (image : Image)
    (request : Request PresentedAddr) (response : Response RealAddr) :
    Follows (image.Accepts request.wanted response) image
      (route.leave access image request response).2 := by
  unfold leave
  split
  case h_1 => exact (Follows.of_same rfl rfl rfl rfl rfl).mono fun _ _ => trivial
  case h_2 config _ =>
    refine Follows.andSafe ?_ (follows_report _ _)
    split
    case h_1 presented len h =>
      refine (follows_clear image access config.tag presented len).mono fun placed accepts => ?_
      obtain ⟨addr, protection, rfl, nonnull, rfl, le⟩ := cleared?_eq_some h
      obtain ⟨clear, avoids⟩ := accepts.resolve_left nonnull
      exact avoids_target placed access config.tag protection nonnull clear (avoids.mono le)
    case h_2 => exact (Follows.of_same rfl rfl rfl rfl rfl).mono fun _ _ => trivial

end Route

/-- A task of a request passes no address of the arena to the heap, and asks for as much as the
request does. -/
structure Task.Sound (arena : Arena) (request : Request PresentedAddr) (task : Task) : Prop where
  apart : ∀ addr ∈ task.request.pointer?, arena.contains addr = false
  wanted : task.request.wanted = request.wanted

/-- Soundness depends on the capacity of the arena only. -/
lemma Task.Sound.congr {arena arena' : Arena} {request : Request PresentedAddr} {task : Task}
    (sound : task.Sound arena request) (capacity : arena'.capacity = arena.capacity) :
    task.Sound arena' request where
  apart := fun addr mem => by
    rw [Arena.contains_congr capacity]
    exact sound.apart addr mem
  wanted := sound.wanted

/-- Honesty depends on the capacity of the arena only. -/
lemma Event.Honest.congr {arena arena' : Arena} {event : Event} (honest : event.Honest arena)
    (capacity : arena'.capacity = arena.capacity) : event.Honest arena' := by
  cases event with
  | real request response known =>
    cases response with
    | pointer addr =>
      rw [Event.Honest, capacity]
      exact honest
    | _ => trivial
  | _ => trivial

/-- A request on its way down asks for the same as at its start. -/
lemma Route.wanted_enter {route : Route} {image image' : Image} {request : Request PresentedAddr}
    {real : Request RealAddr} (h : route.enter image request = (.ok real, image')) :
    real.wanted = request.wanted := by
  unfold enter at h
  split at h
  case h_1 =>
    cases h
    cases request <;> rfl
  case h_2 config _ =>
    split at h
    case h_1 => cases h
    case h_2 e =>
      cases h
      cases request with
      | malloc | calloc | realloc => cases e; rfl
      | free addr | usableSize addr =>
        simp only [Interposer.forward] at e
        split at e
        case isTrue => cases e
        case isFalse => cases e; rfl

/-- What a request needs from the symbol table passes no address of the arena to the heap. -/
lemma Image.sound_plan {image : Image} {real : Request RealAddr} {request : Request PresentedAddr}
    {task : Task} (wanted : real.wanted = request.wanted) (h : image.plan real = .need task) :
    task.Sound image.arena request := by
  cases real with
  | malloc size => cases h; exact ⟨nofun, wanted⟩
  | calloc count size => cases h; exact ⟨nofun, wanted⟩
  | realloc addr size =>
    simp only [plan, Arena.usableSize?] at h
    cases outside : image.arena.contains addr with
    | true =>
      simp only [outside] at h
      cases h
      exact ⟨nofun, wanted⟩
    | false =>
      simp only [outside] at h
      cases h
      exact ⟨by rintro _ ⟨⟩; exact outside, wanted⟩
  | free addr =>
    simp only [plan] at h
    split at h
    case isTrue => cases h
    case isFalse outside =>
      cases h
      refine ⟨?_, wanted⟩
      rintro _ ⟨⟩
      simp_all
  | usableSize addr =>
    simp only [plan, Arena.usableSize?] at h
    cases outside : image.arena.contains addr with
    | true =>
      simp only [outside] at h
      cases h
    | false =>
      simp only [outside] at h
      cases h
      exact ⟨by rintro _ ⟨⟩; exact outside, wanted⟩

/-- An answer that needs no symbol holds no pointer. -/
lemma Image.accepts_plan {image : Image} {real : Request RealAddr} {response : Response RealAddr}
    (h : image.plan real = .answer response) (wanted : Nat) : image.Accepts wanted response := by
  cases real with
  | malloc size | calloc count size => cases h
  | realloc addr size =>
    simp only [plan] at h
    split at h <;> cases h
  | free addr =>
    simp only [plan] at h
    split at h <;> cases h
    trivial
  | usableSize addr =>
    simp only [plan] at h
    split at h <;> cases h
    trivial

/-- Over the symbol table a request is planned by the allocator there. -/
lemma Route.plan_eq {route : Route} (layered : ∀ config, route ≠ .direct config) (image : Image)
    (request : Request RealAddr) : route.plan image request = (image.plan request, image) := by
  cases route with
  | direct config => exact absurd rfl (layered config)
  | _ => rfl

end Session

end PointerTagging
