import PointerTagging.Proofs.Session.Machine
import PointerTagging.Proofs.Transparency

/-!
# Confinement of arena chunks

No session passes a chunk of the arena to the heap's own functions, however the chunk came to be
handed out, except a chunk without payload at the very end of the arena, whose address is the first
one behind it and is not recognised (`Machine.confined`). Such a chunk does reach the heap
(`Machine.chunk_at_end_reaches_heap`).
-/

namespace PointerTagging.Session

/-- The application knows the address by this pointer. -/
def Route.Presents (route : Route) (pointer : PresentedAddr) (addr : RealAddr) : Prop :=
  match route.config? with
  | none => pointer = ⟨addr.value⟩
  | some config => ∃ protection, pointer = Protection.present protection addr config.tag

namespace Machine

/-- The three calls on a chunk stay in the process: it is not freed, its size is known, and to
reallocate it is to allocate anew and to move `kept` bytes. Nothing but the configuration and the
reports has changed by then. -/
structure Confines (setup : Setup) (m : Machine) (step : Step) (pointer : PresentedAddr)
    (addr : RealAddr) (kept : UInt64) : Prop where
  free : ∃ configured reports,
    m.request setup step (.free pointer) =
      { m with image := { m.image with configured, reports } }.deliver step .freed
  usableSize : ∃ configured reports,
    m.request setup step (.usableSize pointer) =
      { m with image := { m.image with configured, reports } }.deliver step (.size kept)
  realloc : ∀ size, ∃ configured reports,
    m.request setup step (.realloc pointer size) =
      { m with image := { m.image with configured, reports } }.lookup setup .malloc step
        (.request (.realloc pointer size) (.move addr kept size))

/-- The three calls on an address are made of the heap, once their symbols are known. -/
structure PassesOn (setup : Setup) (m : Machine) (step : Step) (pointer : PresentedAddr)
    (addr : RealAddr) : Prop where
  free : ∃ configured reports,
    m.request setup step (.free pointer) =
      { m with image := { m.image with configured, reports } }.lookup setup .free step
        (.request (.free pointer) (.free addr))
  usableSize : ∃ configured reports,
    m.request setup step (.usableSize pointer) =
      { m with image := { m.image with configured, reports } }.lookup setup .mallocUsableSize step
        (.request (.usableSize pointer) (.usableSize addr))
  realloc : ∀ size, ∃ configured reports,
    m.request setup step (.realloc pointer size) =
      { m with image := { m.image with configured, reports } }.lookup setup .realloc step
        (.request (.realloc pointer size) (.realloc addr size))

end Machine

namespace Route

variable {route : Route} {image : Image} {pointer : PresentedAddr} {addr : RealAddr}

/-- A request that is forwarded changes the configuration and the reports at most. -/
lemma enter_eq {request : Request PresentedAddr} {real : Request RealAddr}
    (bare : route.config? = none → request.map (fun addr => ⟨addr.value⟩) = real)
    (layered : ∀ config, route.config? = some config →
      Interposer.forward config request = .ok real) (image : Image) :
    ∃ configured reports,
      route.enter image request = (.ok real, { image with configured, reports }) := by
  unfold enter
  cases h : route.config? with
  | none => exact ⟨image.configured, image.reports, by rw [bare h]⟩
  | some config =>
    simp only [layered config h]
    cases route with
    | exported env =>
      simp only [configure]
      split
      · exact ⟨_, _, rfl⟩
      · exact ⟨_, _, rfl⟩
    | _ => exact ⟨_, _, rfl⟩

/-- A request that names an address goes on as that of the address. -/
lemma Presents.enter (presents : route.Presents pointer addr) (nonnull : addr.isNull = false)
    (clear : isEncoded addr.value = false) {request : Request PresentedAddr}
    {real : Request RealAddr}
    (h : Request.Mirrors (fun p a => p = pointer ∧ a = addr) request real) (image : Image) :
    ∃ configured reports,
      route.enter image request = (.ok real, { image with configured, reports }) := by
  refine enter_eq (fun bare => ?_) (fun config layered => ?_) image
  · simp only [Presents, bare] at presents
    subst presents
    cases h with
    | malloc | calloc => rfl
    | realloc size h | free h | usableSize h =>
      obtain ⟨rfl, rfl⟩ := h
      rfl
  · simp only [Presents, layered] at presents
    obtain ⟨protection, rfl⟩ := presents
    have stands : Stands config.tag (protection.present addr config.tag) addr :=
      .present protection clear
    cases h with
    | malloc | calloc => rfl
    | realloc size h =>
      obtain ⟨rfl, rfl⟩ := h
      exact Interposer.forward_of_reaches (.realloc size stands) rfl
    | free h =>
      obtain ⟨rfl, rfl⟩ := h
      exact Interposer.forward_of_reaches (.free stands) (by simp [Request.reaches, nonnull])
    | usableSize h =>
      obtain ⟨rfl, rfl⟩ := h
      exact Interposer.forward_of_reaches (.usableSize stands) (by simp [Request.reaches, nonnull])

/-- A response without a pointer passes the interposer as it is. -/
lemma leave_eq (route : Route) (access : Access) (image : Image) (request : Request PresentedAddr)
    {response : Response RealAddr} (h : response.pointer? = none) :
    route.leave access image request response = (response.map RealAddr.plain, image) := by
  have silent (presented : Response PresentedAddr) (config : Config)
      (h : presented.pointer? = none) : Interposer.cleared? request presented = none ∧
        Interposer.traceAfter config request presented = [] := by
    cases presented with
    | pointer addr => cases h
    | freed | size n => cases request <;> simp [Interposer.cleared?, Interposer.traceAfter]
  unfold leave
  split
  case h_1 => rfl
  case h_2 config _ =>
    cases response with
    | pointer addr => cases h
    | freed =>
      obtain ⟨cleared, trace⟩ := silent .freed config rfl
      simp only [Interposer.present, Response.map, cleared, trace, Image.report, List.append_nil]
    | size n =>
      obtain ⟨cleared, trace⟩ := silent (.size n) config rfl
      simp only [Interposer.present, Response.map, cleared, trace, Image.report, List.append_nil]

end Route

namespace Machine

variable {setup : Setup} {m : Machine} {image : Image} {step : Step}
  {request : Request PresentedAddr} {real : Request RealAddr} {pointer : PresentedAddr}
  {chunk : Arena.Chunk} {capacity heapCapacity : Nat}

/-- A request that needs a symbol waits for it. -/
lemma request_of_need (layered : ∀ config, setup.route ≠ .direct config) (task : Task)
    (enter : setup.route.enter m.image request = (.ok real, image))
    (plan : image.plan real = .need task) :
    m.request setup step request =
      { m with image }.lookup setup task.symbol step (.request request task) := by
  simp only [Machine.request, enter, Route.plan_eq layered, plan]

/-- A request whose answer is known, and is no pointer, is answered at once. -/
lemma request_of_answer (layered : ∀ config, setup.route ≠ .direct config)
    (response : Response RealAddr) (h : response.pointer? = none)
    (enter : setup.route.enter m.image request = (.ok real, image))
    (plan : image.plan real = .answer response) :
    m.request setup step request =
      { m with image }.deliver step (.ofResponse (response.map RealAddr.plain)) := by
  simp only [Machine.request, enter, Route.plan_eq layered, plan, respond_eq,
    Route.leave_eq _ _ _ _ h]

/-- The calls on a recognised chunk stay in the process. -/
lemma confines (layered : ∀ config, setup.route ≠ .direct config)
    (presents : setup.route.Presents pointer chunk.addr) (nonnull : chunk.addr.isNull = false)
    (clear : isEncoded chunk.addr.value = false)
    (inside : m.image.arena.contains chunk.addr = true) (step : Step) :
    m.Confines setup step pointer chunk.addr
      (m.image.memory.readWord (chunk.addr.value.toNat - Arena.headerSize)) where
  free := by
    obtain ⟨configured, reports, enter⟩ :=
      presents.enter nonnull clear (.free ⟨rfl, rfl⟩) m.image
    refine ⟨configured, reports, request_of_answer layered .freed rfl enter ?_⟩
    simp [Image.plan, inside]
  usableSize := by
    obtain ⟨configured, reports, enter⟩ :=
      presents.enter nonnull clear (.usableSize ⟨rfl, rfl⟩) m.image
    refine ⟨configured, reports, request_of_answer layered (.size _) rfl enter ?_⟩
    simp [Image.plan, Arena.usableSize?, inside]
  realloc size := by
    obtain ⟨configured, reports, enter⟩ :=
      presents.enter nonnull clear (.realloc size ⟨rfl, rfl⟩) m.image
    refine ⟨configured, reports, request_of_need layered (.move chunk.addr _ size) enter ?_⟩
    simp [Image.plan, Arena.usableSize?, inside]

/-- The calls on an address that is not recognised as one of the arena are made of the heap. -/
lemma passesOn (layered : ∀ config, setup.route ≠ .direct config)
    (presents : setup.route.Presents pointer chunk.addr) (nonnull : chunk.addr.isNull = false)
    (clear : isEncoded chunk.addr.value = false)
    (outside : m.image.arena.contains chunk.addr = false) (step : Step) :
    m.PassesOn setup step pointer chunk.addr where
  free := by
    obtain ⟨configured, reports, enter⟩ :=
      presents.enter nonnull clear (.free ⟨rfl, rfl⟩) m.image
    refine ⟨configured, reports, request_of_need layered (.free chunk.addr) enter ?_⟩
    simp [Image.plan, outside, nonnull]
  usableSize := by
    obtain ⟨configured, reports, enter⟩ :=
      presents.enter nonnull clear (.usableSize ⟨rfl, rfl⟩) m.image
    refine ⟨configured, reports, request_of_need layered (.usableSize chunk.addr) enter ?_⟩
    simp [Image.plan, Arena.usableSize?, outside]
  realloc size := by
    obtain ⟨configured, reports, enter⟩ :=
      presents.enter nonnull clear (.realloc size ⟨rfl, rfl⟩) m.image
    refine ⟨configured, reports, request_of_need layered (.realloc chunk.addr size) enter ?_⟩
    simp [Image.plan, Arena.usableSize?, outside]

/-- Chunks of the arena are confined. Take any session over the symbol table, with or without the
interposer above it, any arena and any resolvers, and any state that it passes through. A chunk that
the arena has handed out, unless it lies without payload at the very end of the arena,

* was never passed to the heap's own functions,
* stays in the process whenever one of the three calls is made on it: `free` does nothing, `realloc`
  allocates by `malloc`, and `usableSize` answers a size, which is the requested one if no call
  stored to a chunk's header and the heap kept the contract of a real allocator.

The calls on the one chunk at the end are made of the heap. -/
theorem confined {setup : Setup} (layered : ∀ config, setup.route ≠ .direct config)
    {heapCapacity capacity : Nat} (apart : Heap.base + heapCapacity ≤ Arena.base)
    (below : Arena.base + capacity < 2 ^ 48) (script : List Step) (n : Nat) :
    let state := fun i => after setup i (start (.fresh heapCapacity capacity) script)
    ∀ chunk ∈ (state n).image.chunks,
      (¬chunk.AtEnd capacity → ∀ event ∈ (state n).history, event.passed? ≠ some chunk.addr) ∧
      ∀ m : Machine, m.image = (state n).image → ∀ step pointer,
        setup.route.Presents pointer chunk.addr →
        if chunk.AtEnd capacity then m.PassesOn setup step pointer chunk.addr
        else ∃ kept, m.Confines setup step pointer chunk.addr kept ∧
          ((∀ i < n, (state i).Tidy setup) → (state n).Honest → kept = chunk.size) := by
  intro state chunk mem
  have sound : (state n).Sound capacity (∀ i < n, (state i).Tidy setup) :=
    (Sound.start apart below script).after layered n id
  have placed := sound.placed
  have size := sound.capacity
  have within := placed.within
  have bounds := placed.tiles.bounds (by omega) mem
  have room := Arena.le_extent chunk.size
  have nonnull : chunk.addr.isNull = false := by
    rw [Bool.eq_false_iff, Ne, RealAddr.isNull_iff]
    intro e
    rw [e] at bounds
    exact absurd bounds.1 (by decide)
  have clear : isEncoded chunk.addr.value = false := isEncoded_of_lt (by omega)
  have atEnd := placed.tiles.contains_eq_false within (by omega) mem
  rw [size] at atEnd
  -- the chunk is recognised if and only if it is not the one at the end
  constructor
  · intro inside event mem' passed
    exact inside (atEnd.1 (sound.apart event mem' chunk.addr passed))
  · intro m same step pointer presents
    split
    case isTrue outside =>
      exact passesOn layered presents nonnull clear (same ▸ atEnd.2 outside) step
    case isFalse inside =>
      have contains : m.image.arena.contains chunk.addr = true := by
        rw [same]
        cases h : (state n).image.arena.contains chunk.addr with
        | true => rfl
        | false => exact absurd (atEnd.1 h) inside
      refine ⟨_, confines layered presents nonnull clear contains step, fun tidy honest => ?_⟩
      rw [same]
      exact sound.intact tidy honest chunk mem

/-- A process whose loader takes memory of the given size while it resolves `malloc`. -/
def greedyLoader (route : Route) (size : UInt64) : Setup where
  route := route
  access := .tagIgnoring
  resolver
    | .malloc => ⟨.ok, none, [⟨.request (.malloc size), some "p", none⟩]⟩
    | _ => ⟨.ok, none, []⟩

/-- A script that frees what the loader took. -/
def freeLoaded : List Step :=
  [⟨.request (.malloc 8), none, none⟩, ⟨.request (.free (.label "p")), none, none⟩]

/-- A loader that takes three bytes: its chunk is confined. -/
theorem confined_small_chunk :
    let m := after (greedyLoader (.layered .default) 3) 4 (start (.fresh 65536 1024) freeLoaded)
    m.image.chunks = [⟨⟨0x110000000010⟩, 3⟩] ∧
      (∀ event ∈ m.history, event.passed? ≠ some ⟨0x110000000010⟩) ∧
      m.Confines (greedyLoader (.layered .default) 3) ⟨.stats, none, none⟩ ⟨0x1110000000010⟩
        ⟨0x110000000010⟩ 3 := by
  intro m
  have chunks : m.image.chunks = [⟨⟨0x110000000010⟩, 3⟩] := by decide
  have tidy : ∀ i < 4, (after (greedyLoader (.layered .default) 3) i
      (start (.fresh 65536 1024) freeLoaded)).Tidy (greedyLoader (.layered .default) 3) := by decide
  have honest : m.Honest := by decide
  obtain ⟨unpassed, calls⟩ := @confined (greedyLoader (.layered .default) 3) nofun 65536 1024
    (by decide) (by decide) freeLoaded 4 ⟨⟨0x110000000010⟩, 3⟩
    (by rw [chunks]; exact List.mem_singleton_self _)
  have h := calls m rfl ⟨.stats, none, none⟩ ⟨0x1110000000010⟩ ⟨.tagged, by decide⟩
  rw [if_neg (by decide)] at h
  obtain ⟨kept, confines, e⟩ := h
  obtain rfl := e tidy honest
  exact ⟨chunks, unpassed (by decide), confines⟩

/-- A loader that takes nothing at the end of the arena: its chunk is freed by the heap. -/
theorem chunk_at_end_reaches_heap :
    let m := after (greedyLoader .bare 0) 5 (start (.fresh 65536 16) freeLoaded)
    m.image.chunks = [⟨⟨0x110000000010⟩, 0⟩] ∧
      .real (.free ⟨0x110000000010⟩) .freed false ∈ m.history := by
  decide

end Machine

end PointerTagging.Session
