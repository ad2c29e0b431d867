import Mathlib.Data.List.Nodup
import PointerTagging.Proofs.Session.Blocks
import PointerTagging.Proofs.Session.Course

/-!
# Ownership

Who owns the live blocks of the heap (`Owned`): each is the block behind one of the pointers that the
callers hold, or one that was let go by. What the heap does with a request, and what the arena does
with one while its symbol is being resolved, keeps this up, and so does the answer that the caller is
told. What was freed is dead for good (`Released`).
-/

namespace PointerTagging

/-- The pointer that a request gives up, if it is not null. -/
def Request.givenUp? (request : Request PresentedAddr) : Option PresentedAddr :=
  request.retired?.filter fun pointer => !pointer.isNull

namespace Session

/-- The addresses of the heap behind the pointers that are held. -/
def owned (route : Route) (heap : Heap) (held : List Holding) : List RealAddr :=
  (held.map fun holding => route.addressOf holding.pointer).filter heap.contains

/-- What is held without the pointer that a request gives up. -/
def kept (held : List Holding) (request : Request PresentedAddr) : List Holding :=
  held.filter fun holding => request.retired? ≠ some holding.pointer

/-- The pointer is held. -/
def Held (held : List Holding) (pointer : PresentedAddr) : Prop :=
  ∃ holding ∈ held, holding.pointer = pointer

instance (held : List Holding) (pointer : PresentedAddr) : Decidable (Held held pointer) :=
  inferInstanceAs (Decidable (∃ holding ∈ held, _))

variable {route : Route} {heap heap' : Heap} {held : List Holding} {dropped : List RealAddr}
  {request : Request PresentedAddr} {real : Request RealAddr} {answer : Answer}
  {pointer : PresentedAddr} {addr : RealAddr}

/-- A pointer that is held to an address of the heap owns it. -/
lemma mem_owned :
    addr ∈ owned route heap held ↔
      (∃ holding ∈ held, route.addressOf holding.pointer = addr) ∧ heap.contains addr = true := by
  simp [owned]

/-- A pointer that is given up to an address of the heap is not null. -/
lemma Request.givenUp?_of_contains (retired : request.retired? = some pointer)
    (contains : heap.contains (route.addressOf pointer) = true) :
    request.givenUp? = some pointer := by
  have nonnull : pointer.isNull = false := by
    rw [Bool.eq_false_iff, Ne, PresentedAddr.isNull_iff]
    rintro rfl
    rw [Route.addressOf_null, Heap.contains_null] at contains
    cases contains
  simp [Request.givenUp?, retired, nonnull]

/-- Without a pointer that is held once, the callers own an address less. -/
lemma owned_kept (nodup : (owned route heap held).Nodup)
    (holds : ∀ pointer ∈ request.givenUp?, Held held pointer) :
    owned route heap (kept held request) =
      retire (owned route heap held) (request.retired?.map route.addressOf) := by
  cases retired : request.retired? with
  | none => simp [kept, retired]
  | some pointer =>
    simp only [owned, kept, retire, retired, Option.map_some, List.filter_map, List.filter_filter,
      ne_eq, Option.some.injEq]
    congr 1
    refine List.filter_congr fun holding mem => ?_
    simp only [Function.comp_apply]
    cases contains : heap.contains (route.addressOf holding.pointer) with
    | false => simp
    | true =>
      -- only one pointer that is held stands for the address
      have only (same : route.addressOf pointer = route.addressOf holding.pointer) :
          pointer = holding.pointer := by
        obtain ⟨other, memOther, rfl⟩ :=
          holds pointer (Request.givenUp?_of_contains retired (same ▸ contains))
        rw [owned, List.filter_map] at nodup
        have inside (h : Holding) (mem : h ∈ held)
            (contains : heap.contains (route.addressOf h.pointer) = true) :
            h ∈ held.filter (heap.contains ∘ fun holding => route.addressOf holding.pointer) :=
          List.mem_filter.2 ⟨mem, contains⟩
        rw [List.inj_on_of_nodup_map nodup (inside other memOther (same ▸ contains))
          (inside holding mem contains) same]
      have iff : pointer = holding.pointer ↔
          route.addressOf pointer = route.addressOf holding.pointer :=
        ⟨fun same => by rw [same], only⟩
      simp [iff]

/-- The answer tells the caller the pointer of a response. -/
def Tells (route : Route) (answer : Answer) (response : Response RealAddr) : Prop :=
  match response.pointer? with
  | none => answer.address? = none
  | some addr => ∃ value, answer.address? = some value ∧ route.addressOf ⟨value⟩ = addr ∧
      (value = 0 ↔ addr = .null)

/-- An answer without a pointer leaves what is kept. -/
lemma heldAfter_none (silent : answer.address? = none) :
    heldAfter held request answer = kept held request := by
  simp only [heldAfter, silent, kept]

/-- An answer that refuses memory changes nothing. -/
lemma heldAfter_null (refused : answer.address? = some 0) :
    heldAfter held request answer = held := by
  simp only [heldAfter, refused, if_pos]

/-- An answer with a pointer adds it to what is kept. -/
lemma heldAfter_pointer {value : UInt64} (told : answer.address? = some value)
    (nonnull : value ≠ 0) :
    heldAfter held request answer = ⟨⟨value⟩, request.wanted⟩ :: kept held request := by
  simp only [heldAfter, told, if_neg nonnull, kept]

/-- What is held stays held, unless it is given up. -/
lemma mem_heldAfter {holding : Holding} (mem : holding ∈ held)
    (other : request.retired? ≠ some holding.pointer) (answer : Answer) :
    holding ∈ heldAfter held request answer := by
  have keeps : holding ∈ kept held request := List.mem_filter.2 ⟨mem, by simpa using other⟩
  cases told : answer.address? with
  | none =>
    rw [heldAfter_none told]
    exact keeps
  | some value =>
    by_cases null : value = 0
    · rw [heldAfter_null (null ▸ told)]
      exact mem
    · rw [heldAfter_pointer told null]
      exact List.mem_cons_of_mem _ keeps

/-- What is held, and what was dropped, are the live blocks of the heap, each once. -/
structure Owned (route : Route) (heap : Heap) (held : List Holding) (dropped : List RealAddr) :
    Prop where
  distinct : heap.Distinct
  perm : heap.addrs.Perm (owned route heap held ++ dropped.filter heap.contains)

namespace Owned

variable (own : Owned route heap held dropped)

include own

/-- No address is owned twice, or owned and dropped. -/
lemma nodup : (owned route heap held ++ dropped.filter heap.contains).Nodup :=
  own.perm.nodup_iff.1 own.distinct.nodup

/-- No address is owned twice. -/
lemma nodup_owned : (owned route heap held).Nodup := own.nodup.of_append_left

/-- What is owned is live. -/
lemma live (mem : addr ∈ owned route heap held) : addr ∈ heap.addrs :=
  own.perm.mem_iff.2 (List.mem_append_left _ mem)

/-- Only the live blocks and the place of the heap matter. -/
lemma congr (addrs : heap'.addrs = heap.addrs) (used : heap'.used = heap.used)
    (capacity : heap'.capacity = heap.capacity) : Owned route heap' held dropped where
  distinct := by
    obtain ⟨nodup, range⟩ := own.distinct
    exact ⟨addrs ▸ nodup, by rw [addrs, used]; exact range⟩
  perm := by
    rw [addrs, owned, Heap.contains_congr capacity]
    exact own.perm

/-- Callers who hold other pointers, but own the same. -/
lemma of_owned_eq {held' : List Holding}
    (same : owned route heap held' = owned route heap held) : Owned route heap held' dropped :=
  ⟨own.distinct, by rw [same]; exact own.perm⟩

/-- The live blocks without the one that is given up. -/
lemma perm_kept (holds : ∀ pointer ∈ request.givenUp?, Held held pointer)
    (agree : ∀ addr, heap.contains addr = true →
      (real.retired? = some addr ↔ request.retired?.map route.addressOf = some addr)) :
    (retire heap.addrs real.retired?).Perm
      (owned route heap (kept held request) ++ dropped.filter heap.contains) := by
  obtain ⟨-, -, apart⟩ := List.nodup_append.1 own.nodup
  have same : retire (owned route heap held) real.retired? =
      retire (owned route heap held) (request.retired?.map route.addressOf) := by
    refine List.filter_congr fun addr mem => ?_
    simp [agree addr (mem_owned.1 mem).2]
  -- what was let go by is not held, so that no request gives it up again
  have untouched : retire (dropped.filter heap.contains) real.retired? =
      dropped.filter heap.contains := by
    refine retire_of_not_mem fun addr retired mem => ?_
    have contains := (List.mem_filter.1 mem).2
    obtain ⟨pointer, given, rfl⟩ := Option.map_eq_some_iff.1 ((agree addr contains).1 retired)
    obtain ⟨holding, held, rfl⟩ := holds pointer (Request.givenUp?_of_contains given contains)
    exact apart _ (mem_owned.2 ⟨⟨holding, held, rfl⟩, contains⟩) _ mem rfl
  have left := own.perm.filter fun addr => real.retired? ≠ some addr
  rw [List.filter_append] at left
  rw [owned_kept own.nodup_owned holds, ← same]
  refine left.trans ?_
  change (retire _ _ ++ retire _ _).Perm _
  rw [untouched]

/-- The heap has answered a request, and the caller is told so. -/
lemma granted {response : Response RealAddr} (orderly : heap.Orderly)
    (grants : heap.Grants real response heap')
    (holds : ∀ pointer ∈ request.givenUp?, Held held pointer)
    (agree : ∀ addr, heap.contains addr = true →
      (real.retired? = some addr ↔ request.retired?.map route.addressOf = some addr))
    (tells : Tells route answer response) :
    Owned route heap' (heldAfter held request answer) dropped := by
  have distinct := grants.distinct own.distinct orderly
  have perm := own.perm_kept holds agree
  cases grants with
  | refuses =>
    obtain ⟨value, told, -, null⟩ := tells
    rw [heldAfter_null (null.2 rfl ▸ told)]
    exact own
  | @hands size block heap' next capacity used addrs =>
    have inside := next.contains orderly
    obtain ⟨value, told, meant, null⟩ := tells
    have nonnull : value ≠ 0 := by
      intro zero
      rw [null.1 zero, Heap.contains_null] at inside
      cases inside
    refine ⟨distinct, ?_⟩
    rw [addrs, heldAfter_pointer told nonnull, owned, Heap.contains_congr capacity, List.map_cons,
      meant, List.filter_cons_of_pos inside]
    exact (List.perm_append_singleton _ _).trans (perm.cons _)
  | drops silent capacity used addrs =>
    rw [Tells, silent] at tells
    refine ⟨distinct, ?_⟩
    rw [addrs, heldAfter_none tells, owned, Heap.contains_congr capacity]
    exact perm

/-- An exchange that is not about the heap. -/
lemma foreign (holds : ∀ pointer ∈ request.givenUp?, Held held pointer)
    (retired : ∀ pointer ∈ request.retired?, heap.contains (route.addressOf pointer) = false)
    (told : ∀ value ∈ answer.address?, heap.contains (route.addressOf ⟨value⟩) = false) :
    Owned route heap (heldAfter held request answer) dropped := by
  have same : owned route heap (kept held request) = owned route heap held := by
    rw [owned_kept own.nodup_owned holds]
    refine retire_of_not_mem fun addr given mem => ?_
    obtain ⟨pointer, retires, rfl⟩ := Option.map_eq_some_iff.1 given
    have outside := retired pointer retires
    rw [(mem_owned.1 mem).2] at outside
    cases outside
  cases address : answer.address? with
  | none =>
    rw [heldAfter_none address]
    exact own.of_owned_eq same
  | some value =>
    by_cases null : value = 0
    · rw [heldAfter_null (null ▸ address)]
      exact own
    · rw [heldAfter_pointer address null]
      refine own.of_owned_eq ?_
      have outside := told value address
      rw [owned, List.map_cons, List.filter_cons_of_neg (by simp [outside])]
      exact same

/-- An address that is let go by and does not belong to the heap. -/
lemma drop_foreign {drops? : Option RealAddr}
    (outside : ∀ addr ∈ drops?, heap.contains addr = false) :
    Owned route heap held (drops?.toList ++ dropped) := by
  have none : drops?.toList.filter heap.contains = [] :=
    List.filter_eq_nil_iff.2 fun addr mem => by simp [outside addr (Option.mem_toList.1 mem)]
  refine ⟨own.distinct, ?_⟩
  rw [List.filter_append, none, List.nil_append]
  exact own.perm

/-- A pointer that is given up and let go by: its block stays live, and nobody owns it. -/
lemma let_go (holds : ∀ given ∈ (Request.free pointer).givenUp?, Held held given)
    (silent : answer.address? = none) :
    Owned route heap (heldAfter held (.free pointer) answer)
      (route.addressOf pointer :: dropped) := by
  cases inside : heap.contains (route.addressOf pointer) with
  | false =>
    have foreign : ∀ given ∈ some pointer, heap.contains (route.addressOf given) = false := by
      rintro _ ⟨⟩
      exact inside
    have kept : Owned route heap (heldAfter held (.free pointer) answer) dropped :=
      own.foreign holds foreign (by simp [silent])
    have outside : ∀ addr ∈ some (route.addressOf pointer), heap.contains addr = false := by
      rintro _ ⟨⟩
      exact inside
    exact kept.drop_foreign outside
  | true =>
    -- the address moves from what is owned to what was let go by
    obtain ⟨holding, mem, same⟩ := holds pointer (Request.givenUp?_of_contains rfl inside)
    have mem : route.addressOf pointer ∈ owned route heap held :=
      mem_owned.2 ⟨⟨holding, mem, by rw [same]⟩, inside⟩
    have taken : (owned route heap held).Perm (route.addressOf pointer ::
        retire (owned route heap held) (some (route.addressOf pointer))) := by
      rw [retire_some, ← own.nodup_owned.erase_eq_filter]
      exact List.perm_cons_erase mem
    refine ⟨own.distinct, ?_⟩
    rw [heldAfter_none silent, owned_kept own.nodup_owned holds, List.filter_cons_of_pos inside]
    refine own.perm.trans ((taken.append_right _).trans ?_)
    exact List.perm_middle.symm

end Owned

/-! ## What the heap's own `free` is told -/

/-- The address that an event of the heap frees, and whether it was live. -/
def freedBy : Request RealAddr × Response RealAddr × Bool → Option (RealAddr × Bool)
  | (.free addr, _, known) => some (addr, known)
  | _ => none

/-- What was freed: of the addresses of the heap, each was live, and none is any more. -/
structure Released (heap : Heap) (freed : List (RealAddr × Bool)) : Prop where
  once : ((freed.map (·.1)).filter heap.contains).Nodup
  known : ∀ entry ∈ freed, heap.contains entry.1 = true → entry.2 = true
  dead : ∀ entry ∈ freed, heap.contains entry.1 = true →
    entry.1 ∉ heap.addrs ∧ entry.1.value.toNat < Heap.base + heap.used

namespace Released

variable {freed : List (RealAddr × Bool)} (released : Released heap freed)

include released

/-- Only the live blocks and the place of the heap matter. -/
lemma congr (addrs : heap'.addrs = heap.addrs) (used : heap'.used = heap.used)
    (capacity : heap'.capacity = heap.capacity) : Released heap' freed := by
  obtain ⟨once, known, dead⟩ := released
  have same := Heap.contains_congr capacity
  refine ⟨?_, ?_, ?_⟩
  · rwa [same]
  · rwa [same]
  · rwa [same, addrs, used]

/-- What was freed stays dead: the heap hands out new addresses only. -/
lemma granted {response : Response RealAddr} (orderly : heap.Orderly)
    (grants : heap.Grants real response heap') : Released heap' freed := by
  obtain ⟨once, known, dead⟩ := released
  cases grants with
  | refuses => exact ⟨once, known, dead⟩
  | @hands size block heap' next capacity used addrs =>
    have same := Heap.contains_congr capacity
    refine ⟨by rwa [same], by rwa [same], fun entry mem inside => ?_⟩
    rw [same] at inside
    obtain ⟨absent, below⟩ := dead entry mem inside
    have start := next.toNat_addr orderly.small
    refine ⟨?_, by omega⟩
    rw [addrs, List.mem_append, mem_retire, List.mem_singleton]
    rintro (⟨live, -⟩ | new)
    · exact absent live
    · rw [new] at below
      omega
  | drops silent capacity used addrs =>
    have same := Heap.contains_congr capacity
    refine ⟨by rwa [same], by rwa [same], fun entry mem inside => ?_⟩
    rw [same] at inside
    obtain ⟨absent, below⟩ := dead entry mem inside
    rw [addrs, used, mem_retire]
    exact ⟨fun live => absent live.1, below⟩

/-- One more address is freed, and its block is dropped. -/
lemma free {known : Bool} (range : heap.Distinct)
    (live : heap.contains addr = true → addr ∈ heap.addrs ∧ known = true)
    (addrs : heap'.addrs = retire heap.addrs (some addr)) (used : heap'.used = heap.used)
    (capacity : heap'.capacity = heap.capacity) :
    Released heap' (freed ++ [(addr, known)]) := by
  have same := Heap.contains_congr capacity
  refine ⟨?_, ?_, ?_⟩
  · rw [same, List.map_append, List.filter_append]
    cases inside : heap.contains addr with
    | false => simpa [inside] using released.once
    | true =>
      simp only [List.map_cons, List.map_nil, List.filter_cons, inside, if_true, List.filter_nil]
      refine List.nodup_append.2 ⟨released.once, List.pairwise_singleton _ _, ?_⟩
      rintro other before _ last rfl
      obtain rfl := List.mem_singleton.1 last
      obtain ⟨entry, mem, rfl⟩ := List.mem_map.1 (List.mem_filter.1 before).1
      exact (released.dead entry mem inside).1 (live inside).1
  · rw [same]
    intro entry mem inside
    obtain mem | mem := List.mem_append.1 mem
    · exact released.known entry mem inside
    · obtain rfl := List.mem_singleton.1 mem
      exact (live inside).2
  · rw [same, addrs, used]
    intro entry mem inside
    rw [mem_retire]
    obtain mem | mem := List.mem_append.1 mem
    · obtain ⟨absent, below⟩ := released.dead entry mem inside
      exact ⟨fun live => absent live.1, below⟩
    · obtain rfl := List.mem_singleton.1 mem
      exact ⟨fun live => live.2 rfl, (range.range _ (live inside).1).2⟩

end Released

/-! ## Requests on their way -/

/-- A pointer that is answered means the address of the response. -/
lemma tells_leave (access : Access) (image : Image) (request : Request PresentedAddr)
    {response : Response RealAddr}
    (clear : ∀ addr ∈ response.pointer?, isEncoded addr.value = false) :
    Tells route (.ofResponse (route.leave access image request response).1) response := by
  cases response with
  | freed =>
    unfold Route.leave
    split <;> rfl
  | size n =>
    unfold Route.leave
    split <;> rfl
  | pointer addr =>
    have clear := clear addr rfl
    unfold Route.leave
    cases layers : route.config? with
    | none =>
      refine ⟨addr.value, rfl, Route.addressOf_of_bare layers _, ?_⟩
      cases addr
      simp [RealAddr.null]
    | some config =>
      refine ⟨_, rfl, ?_, ?_⟩
      · rw [Route.addressOf_of_config layers]
        exact Protection.resolve_present _ _ clear
      · have same := Protection.isNull_present config.tag
          (Interposer.resultClass config request) clear
        rw [Bool.eq_iff_iff, RealAddr.isNull_iff] at same
        rw [← same]
        exact beq_iff_eq.symm

/-- The address that a request lets go by while the resolver of `free` is running. -/
def Route.drops? (route : Route) (resolving : List Symbol) : Request PresentedAddr → Option RealAddr
  | .free pointer => if .free ∈ resolving then some (route.addressOf pointer) else none
  | .malloc _ | .calloc _ _ | .realloc _ _ | .usableSize _ => none

/-- A request that waits for a symbol that is not being resolved lets nothing go by. -/
lemma Task.Serves.drops?_eq {arena : Arena} {task : Task} {resolving : List Symbol}
    (serves : task.Serves route arena request) (idle : task.symbol ∉ resolving) :
    route.drops? resolving request = none := by
  cases serves with
  | free nonnull outside => exact if_neg idle
  | malloc | calloc | realloc | move | usableSize => rfl

/-- An address of the arena is none of the heap. -/
lemma Heap.contains_of_arena {arena : Arena} (apart : Heap.base + heap.capacity ≤ Arena.base)
    (contains : arena.contains addr = true) : heap.contains addr = false := by
  rw [Bool.eq_false_iff, Ne, Heap.contains_iff]
  simp only [Arena.contains, Bool.and_eq_true, decide_eq_true_eq] at contains
  omega

/-- Of the addresses of the heap, a task gives up the one that its request gives up. -/
lemma Task.Serves.retired?_iff {arena : Arena} {task : Task}
    (serves : task.Serves route arena request) (apart : Heap.base + heap.capacity ≤ Arena.base)
    (inside : heap.contains addr = true) :
    task.request.retired? = some addr ↔ request.retired?.map route.addressOf = some addr := by
  cases serves with
  | malloc | calloc | realloc | free | usableSize => rfl
  | @move pointer kept size contains =>
    refine ⟨nofun, fun same => ?_⟩
    obtain rfl : route.addressOf pointer = addr := Option.some.inj same
    rw [Heap.contains_of_arena apart contains] at inside
    cases inside

/-- A request that needs no symbol gives up nothing of the heap. -/
lemma Route.contains_of_unneeded {arena : Arena}
    (unneeded : route.needed? arena request = none)
    (apart : Heap.base + heap.capacity ≤ Arena.base) :
    ∀ pointer ∈ request.retired?, heap.contains (route.addressOf pointer) = false := by
  cases request with
  | malloc size => cases unneeded
  | calloc count size => cases unneeded
  | realloc pointer size =>
    rw [needed?] at unneeded
    split at unneeded <;> cases unneeded
  | free pointer =>
    rintro _ ⟨⟩
    rw [needed?] at unneeded
    split at unneeded
    case isTrue own =>
      obtain null | inside := Bool.or_eq_true_iff.1 own
      · rw [RealAddr.isNull_iff.1 null]
        exact Heap.contains_null
      · exact Heap.contains_of_arena apart inside
    case isFalse => cases unneeded
  | usableSize pointer => rintro _ ⟨⟩

/-- What a request lets go by is what it gives up. -/
lemma Route.exists_of_drops? {resolving : List Symbol}
    (drops : addr ∈ route.drops? resolving request) :
    ∃ pointer ∈ request.retired?, route.addressOf pointer = addr := by
  cases request with
  | free pointer =>
    rw [drops?] at drops
    split at drops <;> cases drops
    exact ⟨pointer, rfl, rfl⟩
  | malloc | calloc | realloc | usableSize => cases drops

/-! ## The arena -/

/-- The arena takes chunks, and leaves the heap and what happened as they are. -/
lemma Image.arenaAlloc_same (image : Image) (size : UInt64) :
    ∃ arena memory chunks, (image.arenaAlloc size).2 = { image with arena, memory, chunks } := by
  unfold arenaAlloc
  split <;> exact ⟨_, _, _, rfl⟩

/-- So do the tasks that it carries out. -/
lemma Image.bootstrap_same (image : Image) (task : Task) :
    ∃ arena memory chunks, (image.bootstrap task).2 = { image with arena, memory, chunks } := by
  have alloc := image.arenaAlloc_same
  cases task with
  | malloc size => exact alloc size
  | calloc count size =>
    simp only [bootstrap]
    split
    case h_1 => exact ⟨_, _, _, rfl⟩
    case h_2 total _ =>
      obtain ⟨arena, memory, chunks, same⟩ := alloc total
      rw [same]
      split <;> exact ⟨_, _, _, rfl⟩
  | realloc addr size =>
    simp only [bootstrap]
    split
    case isTrue => exact alloc size
    case isFalse => exact ⟨_, _, _, rfl⟩
  | move chunk kept size =>
    obtain ⟨arena, memory, chunks, same⟩ := alloc size
    simp only [bootstrap, same, settle]
    split <;> exact ⟨_, _, _, rfl⟩
  | free addr => exact ⟨_, _, _, rfl⟩
  | usableSize addr => exact ⟨_, _, _, rfl⟩

/-- What the arena hands out are addresses below the tag bits that are none of the heap. -/
lemma Image.arenaAlloc_foreign {image : Image} (placed : image.Placed) (size : UInt64) :
    isEncoded (image.arenaAlloc size).1.value = false ∧
      image.heap.contains (image.arenaAlloc size).1 = false := by
  rw [arenaAlloc_eq placed]
  split
  case isFalse => exact ⟨RealAddr.isEncoded_null, Heap.contains_null⟩
  case isTrue fits =>
    have below := placed.below
    have apart := placed.apart
    have room := Arena.le_extent size
    have top : (Arena.payload image.arena.used).value.toNat =
        Arena.base + image.arena.used + Arena.headerSize := Arena.toNat_payload (by omega)
    refine ⟨isEncoded_of_lt (by dsimp only; omega), ?_⟩
    rw [Bool.eq_false_iff, Ne, Heap.contains_iff]
    dsimp only
    omega

/-- So are the pointers of tasks that the arena carries out. -/
lemma Image.bootstrap_foreign {image : Image} (placed : image.Placed) (task : Task) :
    ∀ addr ∈ (image.bootstrap task).1.pointer?,
      isEncoded addr.value = false ∧ image.heap.contains addr = false := by
  have alloc := arenaAlloc_foreign placed
  have null : isEncoded RealAddr.null.value = false ∧ image.heap.contains .null = false :=
    ⟨rfl, Heap.contains_null⟩
  cases task with
  | malloc size =>
    rintro _ ⟨⟩
    exact alloc size
  | calloc count size =>
    simp only [bootstrap]
    split
    case h_1 => rintro _ ⟨⟩; exact null
    case h_2 total _ => split <;> rintro _ ⟨⟩ <;> exact alloc total
  | realloc addr size =>
    simp only [bootstrap]
    split
    case isTrue => rintro _ ⟨⟩; exact alloc size
    case isFalse => rintro _ ⟨⟩; exact null
  | move chunk kept size =>
    rintro _ ⟨⟩
    exact alloc size
  | free addr => rintro _ ⟨⟩
  | usableSize addr => rintro _ ⟨⟩

/-- A response without an address of the heap tells the caller of none. -/
lemma Tells.foreign {response : Response RealAddr} (tells : Tells route answer response)
    (outside : ∀ addr ∈ response.pointer?, heap.contains addr = false) :
    ∀ value ∈ answer.address?, heap.contains (route.addressOf ⟨value⟩) = false := by
  unfold Tells at tells
  intro value told
  split at tells
  case h_1 =>
    rw [tells] at told
    cases told
  case h_2 addr pointer =>
    obtain ⟨value', told', meant, -⟩ := tells
    obtain rfl : value' = value := Option.some.inj (told'.symm.trans told)
    rw [meant]
    exact outside addr pointer

/-- A caller is told null when memory was refused. -/
lemma Tells.refused {response : Response RealAddr} (tells : Tells route answer response)
    (refused : answer.address? = some 0) : response = .pointer .null := by
  cases response with
  | pointer addr =>
    obtain ⟨value, told, -, null⟩ := tells
    obtain rfl : value = 0 := Option.some.inj (told.symm.trans refused)
    rw [null.1 rfl]
  | freed | size n => cases tells.symm.trans refused

/-- While its symbol is being resolved, a request takes nothing from the heap and gives nothing back
to it. -/
lemma Owned.bootstrap {image : Image} {task : Task} {resolving : List Symbol}
    (own : Owned route image.heap held dropped) (placed : image.Placed)
    (serves : task.Serves route image.arena request) (running : task.symbol ∈ resolving)
    (holds : ∀ pointer ∈ request.givenUp?, Held held pointer)
    (tells : Tells route answer (image.bootstrap task).1) :
    Owned route image.heap (heldAfter held request answer)
      ((route.drops? resolving request).toList ++ dropped) := by
  have told (value : UInt64) (mem : value ∈ answer.address?) :=
    tells.foreign (fun addr mem => (Image.bootstrap_foreign placed task addr mem).2) value mem
  have foreign (retired : ∀ pointer ∈ request.retired?,
      image.heap.contains (route.addressOf pointer) = false) :
      Owned route image.heap (heldAfter held request answer) dropped :=
    own.foreign holds retired told
  cases serves with
  | malloc | calloc | usableSize => exact foreign fun _ mem => nomatch mem
  | @realloc pointer size outside =>
    cases null : (route.addressOf pointer).isNull with
    | true =>
      refine foreign ?_
      rintro _ ⟨⟩
      rw [RealAddr.isNull_iff.1 null]
      exact Heap.contains_null
    | false =>
      -- the block stays with the caller: the arena cannot move it
      simp only [Image.bootstrap, null] at tells
      obtain ⟨value, told, -, refused⟩ := tells
      rw [heldAfter_null (refused.2 rfl ▸ told)]
      exact own
  | move kept size inside =>
    refine foreign ?_
    rintro _ ⟨⟩
    exact Heap.contains_of_arena placed.apart inside
  | @free pointer nonnull outside =>
    have drops : route.drops? resolving (.free pointer) = some (route.addressOf pointer) :=
      if_pos running
    rw [drops]
    exact own.let_go holds tells

end Session

end PointerTagging
