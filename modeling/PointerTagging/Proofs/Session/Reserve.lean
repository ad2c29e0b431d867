import PointerTagging.Proofs.Session.Course

/-!
# What the arena is for

The arena serves the requests that a resolver makes of the very symbol that is being resolved, and
no others: a step takes a chunk if and only if it makes such a request and the chunk fits
(`Machine.reserved`). So the arena stands still while no resolver is running, and for good once the
symbols that allocate have been published.
-/

namespace PointerTagging.Session

/-- The size of the chunk that a task asks the arena for. -/
def Task.chunk? : Task → Option UInt64
  | .malloc size => some size
  | .calloc count size => Word.mul? count size
  | .realloc addr size => if addr.isNull then some size else none
  | .move _ _ size => some size
  | .free _ | .usableSize _ => none

/-- The size of the chunk that a request takes from the arena if it fits: the symbol that the request
needs is being resolved. An array whose size does not fit in a word takes none. -/
def Route.reentrantSize? (route : Route) (arena : Arena) (resolving : List Symbol) :
    Request PresentedAddr → Option UInt64
  | .malloc size => if .malloc ∈ resolving then some size else none
  | .calloc count size => if .calloc ∈ resolving then Word.mul? count size else none
  | .realloc pointer size =>
    if arena.contains (route.addressOf pointer) then
      if .malloc ∈ resolving then some size else none
    else if (route.addressOf pointer).isNull ∧ .realloc ∈ resolving then some size else none
  | .free _ | .usableSize _ => none

/-- The call takes a chunk straight from the arena. -/
def Call.isStraight : Call → Bool
  | .arenaAlloc _ => true
  | _ => false

namespace Image

/-- The arena and its chunks once a chunk was asked for: it is taken if it fits. -/
def granted (image : Image) : Option UInt64 → Arena × List Arena.Chunk
  | some size =>
    if image.arena.used + Arena.extent size ≤ image.arena.capacity then
      ({ image.arena with used := image.arena.used + Arena.extent size },
        ⟨Arena.payload image.arena.used, size⟩ :: image.chunks)
    else (image.arena, image.chunks)
  | none => (image.arena, image.chunks)

variable {image : Image}

/-- A chunk is taken if it fits. -/
lemma granted_arenaAlloc (placed : image.Placed) (size : UInt64) :
    ((image.arenaAlloc size).2.arena, (image.arenaAlloc size).2.chunks) =
      image.granted (some size) := by
  rw [arenaAlloc_eq placed, granted]
  split <;> rfl

/-- Copying what a chunk held takes no other. -/
lemma arena_settle (image : Image) (task : Task) (response : Response RealAddr) :
    (image.settle task response).arena = image.arena := by
  unfold settle
  split
  · split <;> rfl
  · rfl

/-- A task that the arena carries out takes the chunk that it asks for, if it fits. -/
lemma granted_bootstrap (placed : image.Placed) (task : Task) :
    ((image.bootstrap task).2.arena, (image.bootstrap task).2.chunks) =
      image.granted task.chunk? := by
  have alloc := granted_arenaAlloc placed
  cases task with
  | malloc size => exact alloc size
  | calloc count size =>
    simp only [bootstrap, Task.chunk?]
    cases Word.mul? count size with
    | none => rfl
    | some total =>
      rw [← alloc total]
      dsimp only
      split <;> rfl
  | realloc addr size =>
    simp only [bootstrap, Task.chunk?]
    split
    case isTrue => exact alloc size
    case isFalse => rfl
  | move chunk kept size =>
    simp only [bootstrap, Task.chunk?, arena_settle, chunks_settle]
    exact alloc size
  | free addr => rfl
  | usableSize addr => rfl

end Image

/-- A task that waits for a symbol asks the arena for a chunk if the symbol is being resolved. -/
lemma Task.Serves.reentrantSize?_eq {route : Route} {arena : Arena}
    {request : Request PresentedAddr} {task : Task} (serves : task.Serves route arena request)
    (resolving : List Symbol) :
    route.reentrantSize? arena resolving request =
      if task.symbol ∈ resolving then task.chunk? else none := by
  cases serves with
  | malloc size => rfl
  | calloc count size => rfl
  | @realloc pointer size outside =>
    rw [Route.reentrantSize?, outside, if_neg Bool.false_ne_true]
    by_cases null : (route.addressOf pointer).isNull = true <;>
      simp [Task.chunk?, Task.symbol, null]
  | move kept size inside =>
    rw [Route.reentrantSize?, inside, if_pos rfl]
    rfl
  | free nonnull outside => simp [Route.reentrantSize?, Task.chunk?]
  | usableSize outside nonnull => simp [Route.reentrantSize?, Task.chunk?]

/-- A request that needs no symbol takes no chunk. -/
lemma Route.reentrantSize?_of_unneeded {route : Route} {arena : Arena}
    {request : Request PresentedAddr} (unneeded : route.needed? arena request = none)
    (resolving : List Symbol) : route.reentrantSize? arena resolving request = none := by
  cases request with
  | malloc size => cases unneeded
  | calloc count size => cases unneeded
  | realloc pointer size =>
    rw [needed?] at unneeded
    split at unneeded <;> cases unneeded
  | free pointer => rfl
  | usableSize pointer => rfl

namespace Machine

variable {setup : Setup} {m next : Machine} {request : Request PresentedAddr} {task : Task}
  {value : UInt64}

/-- The size of the chunk that the next call takes from the arena if it fits. -/
def reentrantSize? (setup : Setup) (m : Machine) : Option UInt64 :=
  m.asked?.bind (setup.route.reentrantSize? m.image.arena m.resolving)

/-- No resolver of a symbol that allocates is running. -/
def Idle (m : Machine) : Prop := ∀ s ∈ m.resolving, s = .free ∨ s = .mallocUsableSize

/-- A chunk is taken from the arena, behind the others. -/
structure Takes (m next : Machine) (size : UInt64) : Prop where
  arena : next.image.arena = { m.image.arena with used := m.image.arena.used + Arena.extent size }
  chunks : next.image.chunks = ⟨Arena.payload m.image.arena.used, size⟩ :: m.image.chunks

/-- The conclusion of a task takes no chunk. -/
lemma Concludes.granted {step : Step} (concludes : Concludes setup m step request task next) :
    (next.image.arena, next.image.chunks) = m.image.granted none := by
  cases concludes with
  | carried ready =>
    obtain ⟨memory, carried⟩ := m.carried_eq task
    have answers := answers_respond setup (m.carried task) step request (m.image.carryOut task).1
    rw [answers.arena, answers.chunks, carried]
    rfl
  | aborts failed => rfl

/-- A request that is met takes a chunk if the symbol that it needs is being resolved. -/
lemma Met.granted {step : Step} (nested : m.Nested) (placed : m.image.Placed)
    (met : Met setup m step request next) :
    (next.image.arena, next.image.chunks) =
      m.image.granted (setup.route.reentrantSize? m.image.arena m.resolving request) := by
  cases met with
  | known configured reports answer unneeded silent =>
    have answers := answers_deliver (m.entered configured reports) step answer
    rw [Route.reentrantSize?_of_unneeded unneeded, answers.arena, answers.chunks]
    rfl
  | concludes configured reports task serves concludes =>
    have idle : task.symbol ∉ m.resolving := nested.not_mem_resolving concludes.not_resolving
    rw [serves.reentrantSize?_eq, if_neg idle]
    exact concludes.granted
  | bootstrapped configured reports task serves running =>
    have answers := answers_respond setup ((m.entered configured reports).bootstrapped task) step
      request ((m.entered configured reports).image.bootstrap task).1
    have entered : (m.entered configured reports).image.Placed :=
      ⟨placed.apart, placed.below, placed.within, placed.tiles⟩
    rw [serves.reentrantSize?_eq, if_pos running, answers.arena, answers.chunks]
    exact Image.granted_bootstrap entered task
  | waits configured reports task serves unresolved =>
    have idle : task.symbol ∉ m.resolving :=
      nested.not_mem_resolving (by rw [unresolved]; nofun)
    rw [serves.reentrantSize?_eq, if_neg idle]
    rfl

/-- What a step does to the arena: it takes the chunk that its call takes. -/
theorem Proper.granted (layered : ∀ config, setup.route ≠ .direct config) (proper : Proper setup m)
    (placed : m.image.Placed) (sparing : ∀ step ∈ m.next?, step.call.isStraight = false)
    (h : m.step setup = some next) :
    (next.image.arena, next.image.chunks) = m.image.granted (m.reentrantSize? setup) := by
  have quiet (unasked : m.asked? = none) : m.reentrantSize? setup = none := by
    unfold reentrantSize?
    rw [unasked, Option.bind_none]
  cases proper.course layered h with
  | answered step image answer call asks heap arena chunks table events silent =>
    rw [quiet (asked?_of_not_asks call asks), (answers_deliver _ _ _).arena,
      (answers_deliver _ _ _).chunks, arena, chunks]
    rfl
  | takes step size call kind =>
    have straight := sparing step call
    rw [kind] at straight
    cases straight
  | looks step s call kind unresolved =>
    have unasked : m.asked? = none := by simp [asked?, call, kind]
    rw [quiet unasked, claimed, image_primed]
    rfl
  | requests step operands call kind met =>
    have asked : m.reentrantSize? setup = setup.route.reentrantSize? m.image.arena m.resolving
        (operands.map fun operand => ⟨m.value operand⟩) := by
      rw [reentrantSize?, asked?_of_request call kind, Option.bind_some]
    have image := m.image_primed step
    have placed : (m.begun.primed step).image.Placed := by
      rw [image]
      exact ⟨placed.apart, placed.below, placed.within, placed.tiles⟩
    rw [asked, met.granted (proper.nested.primed step) placed, m.resolving_primed, image]
    rfl
  | finds frame stack answer returns eq job silent =>
    rw [quiet (asked?_of_returns returns), (answers_deliver _ _ _).arena,
      (answers_deliver _ _ _).chunks]
    rfl
  | resumes frame stack returns eq job serves symbol concludes =>
    rw [quiet (asked?_of_returns returns), concludes.granted]
    rfl

/-! ## Where pointers come from -/

/-- The heap has just answered with an address, and the caller is told this pointer for it. -/
def FromHeap (setup : Setup) (m next : Machine) (value : UInt64) : Prop :=
  ∃ request addr known, next.reached = m.reached ++ [(request, .pointer addr, known)] ∧
    setup.route.Presents ⟨value⟩ addr

/-- A task that concludes with a pointer has it from the heap. -/
lemma Concludes.fromHeap {step : Step} (concludes : Concludes setup m step request task next)
    (running : next.halted = none) (last : next.lastAnswer? = some (.pointer value)) :
    FromHeap setup m next value := by
  cases concludes with
  | carried ready =>
    have answers := answers_respond setup (m.carried task) step request (m.image.carryOut task).1
    rw [answers.last, Option.some.injEq] at last
    obtain ⟨addr, response, presents⟩ := exists_of_leave last
    refine ⟨task.request, addr, m.image.knows task.request, ?_, presents⟩
    rw [answers.reached, reached_carried, response]
  | aborts failed => cases running

/-- A request that is met with a pointer has it from the heap, unless a resolver of a symbol that
allocates is running. -/
lemma Met.fromHeap {step : Step} (met : Met setup m step request next)
    (idle : m.Idle)
    (height : next.stack.length ≤ m.stack.length) (running : next.halted = none)
    (last : next.lastAnswer? = some (.pointer value)) : FromHeap setup m next value := by
  cases met with
  | known configured reports answer unneeded silent =>
    rw [(answers_deliver _ _ _).last, Option.some.injEq] at last
    rw [last] at silent
    cases silent
  | concludes configured reports task serves concludes => exact concludes.fromHeap running last
  | bootstrapped configured reports task serves resolving =>
    have kind := idle _ resolving
    rw [(answers_respond _ _ _ _ _).last, Option.some.injEq] at last
    obtain ⟨addr, response, -⟩ := exists_of_leave last
    cases task with
    | malloc | calloc | realloc | move => simp [Task.symbol] at kind
    | free addr => cases response
    | usableSize addr => cases response
  | waits configured reports task serves unresolved =>
    exact absurd height (Nat.not_succ_le_self _)

/-- A step answers with a pointer that it has from the heap, unless a resolver of a symbol that
allocates is running. -/
theorem Proper.fromHeap (layered : ∀ config, setup.route ≠ .direct config) (proper : Proper setup m)
    (sparing : ∀ step ∈ m.next?, step.call.isStraight = false)
    (idle : m.Idle) (h : m.step setup = some next)
    (answer : m.answer? next = some (.pointer value)) : FromHeap setup m next value := by
  unfold answer? at answer
  split at answer
  case isFalse => cases answer
  case isTrue returned =>
    obtain ⟨running, height⟩ := returned
    cases proper.course layered h with
    | answered step image given call asks heap arena chunks table events silent =>
      rw [(answers_deliver _ _ _).last, Option.some.injEq] at answer
      rw [answer] at silent
      cases silent
    | takes step size call kind =>
      have straight := sparing step call
      rw [kind] at straight
      cases straight
    | looks step s call kind unresolved =>
      refine absurd height ?_
      rw [claimed, List.length_cons, length_primed]
      exact Nat.not_succ_le_self _
    | requests step operands call kind met =>
      have idle : (m.begun.primed step).Idle := by
        rw [Idle, resolving_primed]
        exact idle
      have height : next.stack.length ≤ (m.begun.primed step).stack.length := by
        rw [length_primed]
        exact height
      have made := met.fromHeap idle height running answer
      rwa [FromHeap, reached_primed] at made
    | finds frame stack given returns eq job silent =>
      rw [(answers_deliver _ _ _).last, Option.some.injEq] at answer
      rw [answer] at silent
      cases silent
    | resumes frame stack returns eq job serves symbol concludes =>
      have made := concludes.fromHeap running answer
      rwa [FromHeap, reached_published] at made

/-! ## Every state of a session -/

/-- While no resolver of a symbol that allocates is running, no call takes a chunk. -/
lemma Idle.reentrantSize?_eq (idle : m.Idle) : m.reentrantSize? setup = none := by
  have malloc : .malloc ∉ m.resolving := fun mem => by simpa using idle _ mem
  have calloc : .calloc ∉ m.resolving := fun mem => by simpa using idle _ mem
  have realloc : .realloc ∉ m.resolving := fun mem => by simpa using idle _ mem
  unfold reentrantSize?
  cases m.asked? with
  | none => rfl
  | some request =>
    rw [Option.bind_some]
    cases request <;> simp [Route.reentrantSize?, malloc, calloc, realloc]

/-- Once the symbols that allocate have been published, their resolvers do not run. -/
lemma Proper.idle (proper : Proper setup m) (malloc : m.Settled .malloc)
    (calloc : m.Settled .calloc) (realloc : m.Settled .realloc) : m.Idle := by
  intro s mem
  have resolving := (proper.nested.slots s).2 mem
  have unsettled : ¬m.Settled s := by simp [Settled, resolving]
  cases s with
  | malloc => exact absurd malloc unsettled
  | calloc => exact absurd calloc unsettled
  | realloc => exact absurd realloc unsettled
  | free => exact .inl rfl
  | mallocUsableSize => exact .inr rfl

section Granted

variable {size? : Option UInt64}
  (granted : (next.image.arena, next.image.chunks) = m.image.granted size?)

include granted

/-- A step takes the chunk that it is granted, if it fits. -/
lemma takes_iff (size : UInt64) :
    m.Takes next size ↔ size? = some size ∧
      m.image.arena.used + Arena.extent size ≤ m.image.arena.capacity := by
  have refused (same : next.image.chunks = m.image.chunks) : ¬m.Takes next size := by
    intro takes
    have grown := takes.chunks
    rw [same] at grown
    exact List.cons_ne_self _ _ grown.symm
  cases size? with
  | none =>
    obtain ⟨-, chunks⟩ := Prod.mk.inj granted
    exact ⟨fun takes => absurd takes (refused chunks), nofun⟩
  | some wanted =>
    rw [Image.granted] at granted
    split at granted <;> obtain ⟨arena, chunks⟩ := Prod.mk.inj granted
    case isTrue fits =>
      constructor
      · intro takes
        have same := takes.chunks
        rw [chunks, List.cons.injEq, Arena.Chunk.mk.injEq] at same
        obtain ⟨⟨-, rfl⟩, -⟩ := same
        exact ⟨rfl, fits⟩
      · rintro ⟨⟨⟩, -⟩
        exact ⟨arena, chunks⟩
    case isFalse full =>
      refine ⟨fun takes => absurd takes (refused chunks), ?_⟩
      rintro ⟨⟨⟩, fits⟩
      exact absurd fits full

/-- A step that takes no chunk leaves the arena as it is. -/
lemma kept_of_not_takes (without : ∀ size, ¬m.Takes next size) :
    next.image.arena = m.image.arena ∧ next.image.chunks = m.image.chunks := by
  cases size? with
  | none => exact Prod.mk.inj granted
  | some size =>
    have full := mt (takes_iff granted size).2 (without size)
    rw [Image.granted, if_neg fun fits => full ⟨rfl, fits⟩] at granted
    exact Prod.mk.inj granted

end Granted

/-- The arena is kept for reentrant calls. Take any session over the symbol table, with or without
the interposer above it, any arena and any resolvers, whatever they call, in which no call takes a
chunk straight from the arena, and any state that it passes through.

* A step takes a chunk if and only if it makes a call that is entitled to one and the chunk fits:
  `malloc`, or `realloc` of a chunk, while the resolver of `malloc` is running, `calloc` of an array
  whose size fits in a word while that of `calloc` is, and `realloc` of null while that of `realloc`
  is. All other steps leave the arena as it is; so do all steps while no resolver is running.
* Once the slots of `malloc`, `calloc` and `realloc` have been published, the arena stays as it is,
  and every pointer that is answered comes from the heap. -/
theorem reserved {setup : Setup} (layered : ∀ config, setup.route ≠ .direct config)
    {heapCapacity capacity : Nat} (apart : Heap.base + heapCapacity ≤ Arena.base)
    (below : Arena.base + capacity < 2 ^ 48) (script : List Step) (n : Nat) :
    let state := fun i => after setup i (start (.fresh heapCapacity capacity) script)
    (∀ i < n, ∀ step ∈ (state i).next?, step.call.isStraight = false) →
      (∀ i < n, ∀ next, (state i).step setup = some next →
        (∀ size, (state i).Takes next size ↔ (state i).reentrantSize? setup = some size ∧
          (state i).image.arena.used + Arena.extent size ≤ capacity) ∧
        ((∀ size, ¬(state i).Takes next size) → next.image.arena = (state i).image.arena ∧
          next.image.chunks = (state i).image.chunks) ∧
        ((state i).stack = [] → next.image.arena = (state i).image.arena)) ∧
      ∀ i, (state i).Settled .malloc → (state i).Settled .calloc → (state i).Settled .realloc →
        (∀ j, i ≤ j → j ≤ n → (state j).image.arena = (state i).image.arena) ∧
        ∀ j, i ≤ j → j < n → ∀ next, (state j).step setup = some next →
          ∀ value, (state j).answer? next = some (.pointer value) →
            FromHeap setup (state j) next value := by
  intro state sparing
  have proper (i : Nat) : Proper setup (state i) :=
    (Proper.start setup heapCapacity capacity script).after layered i
  have sound (i : Nat) : (state i).Sound capacity False :=
    (Sound.start apart below script).after layered i nofun
  have granted (i : Nat) (lt : i < n) (next : Machine) (h : (state i).step setup = some next) :=
    (proper i).granted layered (sound i).placed (sparing i lt) h
  have still (i : Nat) (lt : i < n) (next : Machine) (h : (state i).step setup = some next)
      (idle : (state i).Idle) : next.image.arena = (state i).image.arena := by
    have granted := granted i lt next h
    rw [idle.reentrantSize?_eq] at granted
    exact (Prod.mk.inj granted).1
  refine ⟨fun i lt next h => ⟨fun size => ?takes, kept_of_not_takes (granted i lt next h), ?alone⟩,
    fun i malloc calloc realloc => ?settled⟩
  case takes =>
    rw [takes_iff (granted i lt next h), (sound i).capacity]
  case alone =>
    intro alone
    refine still i lt next h fun s mem => ?_
    rw [resolving, alone] at mem
    cases mem
  case settled =>
    have idle (j : Nat) (le : i ≤ j) : (state j).Idle := by
      obtain ⟨k, rfl⟩ := Nat.exists_eq_add_of_le le
      have later (s : Symbol) (settled : (state i).Settled s) : (state (i + k)).Settled s := by
        have after := (proper i).settled_after layered settled k
        rwa [← after_add] at after
      exact (proper (i + k)).idle (later .malloc malloc) (later .calloc calloc)
        (later .realloc realloc)
    refine ⟨fun j le => ?_, fun j le lt next h value => ?_⟩
    · -- on the steps after the last symbol was published
      induction le with
      | refl => exact fun _ => rfl
      | @step j le ih =>
        intro within
        refine Eq.trans ?_ (ih (Nat.le_of_succ_le within))
        change (after setup (j + 1) _).image.arena = _
        rw [after_succ]
        cases h : (state j).step setup with
        | none => rfl
        | some next => exact still j within next h (idle j le)
    · exact (proper j).fromHeap layered (sparing j lt) (idle j le) h

/-- A script that allocates in every way, and once more when all symbols that allocate are known. -/
def takeAll : List Step :=
  [⟨.request (.malloc 24), some "a", none⟩, ⟨.request (.calloc 3 5), none, none⟩,
    ⟨.request (.realloc (.label "a") 50), none, none⟩, ⟨.request (.malloc 7), none, none⟩]

/-- The busy loader: its reallocation of a chunk takes another chunk, and the last allocation of the
application is served by the heap. -/
theorem reserved_busy :
    let state := fun i => after busyLoader i (start (.fresh 65536 1024) takeAll)
    (∀ i < 11, ∀ step ∈ (state i).next?, step.call.isStraight = false) ∧
      (state 3).Takes (state 4) 40 ∧ (state 11).image.arena = (state 10).image.arena ∧
      (state 10).answer? (state 11) = some (.pointer 0x1100000000070) ∧
      FromHeap busyLoader (state 10) (state 11) 0x1100000000070 := by
  intro state
  have sparing : ∀ i < 11, ∀ step ∈ (state i).next?, step.call.isStraight = false := by decide
  have last : (state 10).answer? (state 11) = some (.pointer 0x1100000000070) := by decide
  obtain ⟨takes, settled⟩ :=
    @reserved busyLoader nofun 65536 1024 (by decide) (by decide) takeAll 11 sparing
  obtain ⟨constant, heap⟩ := settled 10 (by decide) (by decide) (by decide)
  refine ⟨sparing, ?_, constant 11 (by decide) (by decide), last, ?_⟩
  · exact ((takes 3 (by decide) (state 4) rfl).1 40).2 (by decide)
  · exact heap 10 (Nat.le_refl _) (by decide) (state 11) rfl _ last

end Machine

end PointerTagging.Session
