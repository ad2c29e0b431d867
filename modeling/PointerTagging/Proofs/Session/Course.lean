import PointerTagging.Proofs.Session.Confinement
import PointerTagging.Proofs.Session.Reentry
import PointerTagging.Proofs.Session.Separation

/-!
# The course of a call

What a request of the allocator comes to over the symbol table (`Machine.Met`): it is answered
without a symbol, carried out by the heap or by the arena, aborts the process, or waits for a
resolver. Every step of a session makes a call or lets a resolver return, and all that it does to the
heap, the arena and the symbol table it does in one of these ways (`Machine.Course`).
-/

namespace PointerTagging.Session

/-- The real address that a caller means by a pointer. -/
def Route.addressOf (route : Route) (pointer : PresentedAddr) : RealAddr :=
  ⟨route.resolve pointer.value⟩

/-- The symbol that a request needs. An interposer answers for the size of null by itself. -/
def Route.needed? (route : Route) (arena : Arena) : Request PresentedAddr → Option Symbol
  | .malloc _ => some .malloc
  | .calloc _ _ => some .calloc
  | .realloc pointer _ =>
    if arena.contains (route.addressOf pointer) then some .malloc else some .realloc
  | .free pointer =>
    if (route.addressOf pointer).isNull || arena.contains (route.addressOf pointer) then none
    else some .free
  | .usableSize pointer =>
    if arena.contains (route.addressOf pointer) || route.config?.isSome && pointer.isNull then none
    else some .mallocUsableSize

/-- The task is that of the request. -/
inductive Task.Serves (route : Route) (arena : Arena) : Request PresentedAddr → Task → Prop where
  | malloc (size : UInt64) :
    Serves route arena (.malloc size) (.malloc size)
  | calloc (count size : UInt64) :
    Serves route arena (.calloc count size) (.calloc count size)
  | realloc {pointer : PresentedAddr} (size : UInt64) :
    arena.contains (route.addressOf pointer) = false →
    Serves route arena (.realloc pointer size) (.realloc (route.addressOf pointer) size)
  | move {pointer : PresentedAddr} (kept size : UInt64) :
    arena.contains (route.addressOf pointer) = true →
    Serves route arena (.realloc pointer size) (.move (route.addressOf pointer) kept size)
  | free {pointer : PresentedAddr} :
    (route.addressOf pointer).isNull = false →
    arena.contains (route.addressOf pointer) = false →
    Serves route arena (.free pointer) (.free (route.addressOf pointer))
  | usableSize {pointer : PresentedAddr} :
    arena.contains (route.addressOf pointer) = false →
    (route.config?.isSome && pointer.isNull) = false →
    Serves route arena (.usableSize pointer) (.usableSize (route.addressOf pointer))

/-- A waiting call waits for the symbol that its request needs. -/
inductive Job.Awaits (route : Route) (arena : Arena) (s : Symbol) : Job → Prop where
  | lookup :
    Awaits route arena s .lookup
  | request {request : Request PresentedAddr} {task : Task} :
    task.Serves route arena request →
    task.symbol = s →
    Awaits route arena s (.request request task)

namespace Task.Serves

variable {route : Route} {arena arena' : Arena} {request : Request PresentedAddr} {task : Task}

/-- The task of a request waits for the symbol that the request needs. -/
lemma needed?_eq (serves : task.Serves route arena request) :
    route.needed? arena request = some task.symbol := by
  cases serves with
  | malloc | calloc => rfl
  | realloc size outside => simp [Route.needed?, outside, Task.symbol]
  | move kept size inside => simp [Route.needed?, inside, Task.symbol]
  | free nonnull outside => simp [Route.needed?, nonnull, outside, Task.symbol]
  | usableSize outside nonnull => simp [Route.needed?, outside, nonnull, Task.symbol]

/-- Which task serves a request depends on the capacity of the arena only. -/
lemma congr (serves : task.Serves route arena request)
    (capacity : arena'.capacity = arena.capacity) : task.Serves route arena' request := by
  have same := Arena.contains_congr capacity
  cases serves with
  | malloc size => exact .malloc size
  | calloc count size => exact .calloc count size
  | realloc size outside => exact .realloc size (by rw [same, outside])
  | move kept size inside => exact .move kept size (by rw [same, inside])
  | free nonnull outside => exact .free nonnull (by rw [same, outside])
  | usableSize outside nonnull => exact .usableSize (by rw [same, outside]) nonnull

end Task.Serves

/-- What a call waits for depends on the capacity of the arena only. -/
lemma Job.Awaits.congr {route : Route} {arena arena' : Arena} {s : Symbol} {job : Job}
    (awaits : job.Awaits route arena s) (capacity : arena'.capacity = arena.capacity) :
    job.Awaits route arena' s := by
  cases awaits with
  | lookup => exact .lookup
  | request serves symbol => exact .request (serves.congr capacity) symbol

/-- What an event says was asked of the heap. -/
def Event.reached? : Event → Option (Request RealAddr × Response RealAddr × Bool)
  | .real request response known => some (request, response, known)
  | _ => none

/-! ## Requests on their way down -/

/-- A pointer without an interposer means its own address. -/
lemma Route.addressOf_of_bare {route : Route} (bare : route.config? = none)
    (pointer : PresentedAddr) : route.addressOf pointer = ⟨pointer.value⟩ := by
  simp only [addressOf, resolve, bare]

/-- A pointer through an interposer means what the interposer resolves it to. -/
lemma Route.addressOf_of_config {route : Route} {config : Config}
    (layered : route.config? = some config) (pointer : PresentedAddr) :
    route.addressOf pointer = pointer.resolve config.tag := by
  simp only [addressOf, resolve, layered]

/-- Null means null. -/
lemma Route.addressOf_null (route : Route) : route.addressOf .null = .null := by
  cases h : route.config? with
  | none => rw [addressOf_of_bare h]; rfl
  | some config => rw [addressOf_of_config h, PresentedAddr.resolve_null]

/-- Reading the settings changes the configuration and the reports at most. -/
lemma Route.configure_eq (route : Route) (image : Image) :
    ∃ configured reports, route.configure image = { image with configured, reports } := by
  cases route with
  | exported env =>
    simp only [configure]
    split <;> exact ⟨_, _, rfl⟩
  | _ => exact ⟨image.configured, image.reports, rfl⟩

/-- A request goes on with the addresses that it means, or needs no symbol and is answered without a
pointer. -/
lemma Route.enter_cases (route : Route) (image : Image) (request : Request PresentedAddr) :
    (route.needed? image.arena request = none ∧ ∃ response, response.pointer? = none ∧
      route.enter image request = (.error response, image)) ∨
    (∀ pointer, request = .usableSize pointer →
      (route.config?.isSome && pointer.isNull) = false) ∧
    ∃ configured reports, route.enter image request =
      (.ok (request.map route.addressOf), { image with configured, reports }) := by
  cases h : route.config? with
  | none =>
    refine .inr ⟨fun _ _ => rfl, enter_eq (fun _ => ?_) (fun config layered => ?_) image⟩
    · rw [show route.addressOf = fun pointer => ⟨pointer.value⟩ from
        funext (addressOf_of_bare h)]
    · cases h.symm.trans layered
  | some config =>
    have address := addressOf_of_config h
    -- the interposer keeps to itself what is done with null, and forwards the rest
    have forwards (real : Interposer.forward config request = .ok (request.map route.addressOf)) :
        ∃ configured reports, route.enter image request =
          (.ok (request.map route.addressOf), { image with configured, reports }) := by
      refine enter_eq (fun bare => ?_) (fun config' layered => ?_) image
      · cases h.symm.trans bare
      · cases h.symm.trans layered
        exact real
    cases request with
    | malloc size => exact .inr ⟨by rintro _ ⟨⟩, forwards rfl⟩
    | calloc count size => exact .inr ⟨by rintro _ ⟨⟩, forwards rfl⟩
    | realloc pointer size =>
      exact .inr ⟨by rintro _ ⟨⟩, forwards (by simp only [Interposer.forward, Request.map, address])⟩
    | free pointer =>
      cases null : pointer.isNull with
      | true =>
        refine .inl ⟨?_, .freed, rfl, ?_⟩
        · rw [PresentedAddr.isNull_iff.1 null]
          simp [needed?, addressOf_null, RealAddr.isNull_iff.2]
        · simp only [enter, h, Interposer.forward, null, if_true]
      | false =>
        refine .inr ⟨by rintro _ ⟨⟩, forwards ?_⟩
        simp [Interposer.forward, Request.map, address, null]
    | usableSize pointer =>
      cases null : pointer.isNull with
      | true =>
        refine .inl ⟨?_, .size 0, rfl, ?_⟩
        · simp [needed?, h, null]
        · simp only [enter, h, Interposer.forward, null, if_true]
      | false =>
        refine .inr ⟨fun other same => ?_, forwards ?_⟩
        · cases same
          simp [null]
        · simp [Interposer.forward, Request.map, address, null]

/-- What a request needs is known from the addresses that it means. -/
lemma Image.plan_cases {image : Image} (route : Route) {request : Request PresentedAddr}
    (nonnull : ∀ pointer, request = .usableSize pointer →
      (route.config?.isSome && pointer.isNull) = false) :
    (∃ response, image.plan (request.map route.addressOf) = .answer response ∧
      route.needed? image.arena request = none ∧ response.pointer? = none) ∨
    ∃ task, image.plan (request.map route.addressOf) = .need task ∧
      task.Serves route image.arena request := by
  cases request with
  | malloc size => exact .inr ⟨_, rfl, .malloc size⟩
  | calloc count size => exact .inr ⟨_, rfl, .calloc count size⟩
  | realloc pointer size =>
    cases inside : image.arena.contains (route.addressOf pointer) with
    | true =>
      refine .inr ⟨_, ?_, .move (image.memory.readWord
        ((route.addressOf pointer).value.toNat - Arena.headerSize)) size inside⟩
      simp [plan, Request.map, Arena.usableSize?, inside]
    | false =>
      refine .inr ⟨_, ?_, .realloc size inside⟩
      simp [plan, Request.map, Arena.usableSize?, inside]
  | free pointer =>
    cases own : (route.addressOf pointer).isNull || image.arena.contains (route.addressOf pointer)
    with
    | true => exact .inl ⟨.freed, by simp [plan, Request.map, own], by simp [Route.needed?, own], rfl⟩
    | false =>
      obtain ⟨null, outside⟩ := Bool.or_eq_false_iff.1 own
      exact .inr ⟨_, by simp [plan, Request.map, own], .free null outside⟩
  | usableSize pointer =>
    cases inside : image.arena.contains (route.addressOf pointer) with
    | true =>
      refine .inl ⟨.size (image.memory.readWord
        ((route.addressOf pointer).value.toNat - Arena.headerSize)), ?_, ?_, rfl⟩
      · simp [plan, Request.map, Arena.usableSize?, inside]
      · simp [Route.needed?, inside]
    | false =>
      refine .inr ⟨_, ?_, .usableSize inside (nonnull pointer rfl)⟩
      simp [plan, Request.map, Arena.usableSize?, inside]

/-- The heap carries a task out as the request that the task makes, and writes to the memory. -/
lemma Image.carryOut_eq (image : Image) (task : Task) :
    ∃ memory, (image.carryOut task).2 = { (image.real task.request).2 with memory } := by
  unfold carryOut settle
  dsimp only
  split
  · split <;> exact ⟨_, rfl⟩
  · exact ⟨_, rfl⟩

namespace Machine

variable {setup : Setup} {m m' next : Machine} {step : Step} {request : Request PresentedAddr}
  {task : Task}

/-- The machine once the settings were read and reports written: what a request does before it
reaches anything. -/
def entered (m : Machine) (configured : Bool) (reports : List Diagnostic) : Machine :=
  { m with image := { m.image with configured, reports } }

/-- The machine once the heap has carried a task out. -/
def carried (m : Machine) (task : Task) : Machine :=
  { m with image := (m.image.carryOut task).2 }

/-- The machine once the arena has carried a task out. -/
def bootstrapped (m : Machine) (task : Task) : Machine :=
  { m with image := (m.image.bootstrap task).2 }

/-- The machine goes on with what the heap leaves. -/
lemma carried_eq (m : Machine) (task : Task) :
    ∃ memory, m.carried task =
      { m with image := { (m.image.real task.request).2 with memory } } := by
  obtain ⟨memory, eq⟩ := m.image.carryOut_eq task
  exact ⟨memory, by rw [carried, eq]⟩

/-- A request needs no symbol and is answered, or its task waits for the symbol that it needs. -/
lemma request_cases (layered : ∀ config, setup.route ≠ .direct config) (m : Machine) (step : Step)
    (request : Request PresentedAddr) :
    ∃ configured reports,
      (setup.route.needed? m.image.arena request = none ∧ ∃ answer, answer.address? = none ∧
        m.request setup step request = (m.entered configured reports).deliver step answer) ∨
      ∃ task, m.image.plan (request.map setup.route.addressOf) = .need task ∧
        task.Serves setup.route m.image.arena request ∧
        m.request setup step request = (m.entered configured reports).lookup setup task.symbol step
          (.request request task) := by
  obtain ⟨unneeded, response, silent, enter⟩ | ⟨nonnull, configured, reports, enter⟩ :=
    setup.route.enter_cases m.image request
  · refine ⟨m.image.configured, m.image.reports, .inl ⟨unneeded, ?_⟩⟩
    simp only [Machine.request, enter]
    cases response with
    | pointer addr => cases silent
    | freed => exact ⟨.freed, rfl, rfl⟩
    | size n => exact ⟨.size n, rfl, rfl⟩
  · refine ⟨configured, reports, ?_⟩
    have plan := @Image.plan_cases { m.image with configured, reports } setup.route request nonnull
    obtain ⟨response, plan, unneeded, silent⟩ | ⟨task, plan, serves⟩ := plan
    · refine .inl ⟨unneeded, .ofResponse (response.map RealAddr.plain), ?_,
        request_of_answer layered response silent enter plan⟩
      cases response with
      | pointer addr => cases silent
      | _ => rfl
    · exact .inr ⟨task, plan, serves, request_of_need layered task enter plan⟩

/-- What a task comes to once its slot is known: the heap carries it out and its answer is
delivered, or the process ends. -/
inductive Concludes (setup : Setup) (m : Machine) (step : Step) (request : Request PresentedAddr)
    (task : Task) : Machine → Prop where
  | carried :
    (m.image.table.slots task.symbol).state = .ready →
    Concludes setup m step request task
      ((m.carried task).respond setup step request (m.image.carryOut task).1)
  | aborts :
    (m.image.table.slots task.symbol).state = .failed →
    Concludes setup m step request task
      { m with
        image := m.image.report [.symbol (.unbound task.symbol)]
        halted := some (.aborted task.symbol) }

/-- The slot of a task that concludes is not being resolved. -/
lemma Concludes.not_resolving (concludes : Concludes setup m step request task next) :
    (m.image.table.slots task.symbol).state ≠ .resolving := by
  cases concludes with
  | carried ready => rw [ready]; nofun
  | aborts failed => rw [failed]; nofun

/-- A resolver runs only for a slot that is being resolved. -/
lemma Nested.not_mem_resolving {s : Symbol} (nested : m.Nested)
    (other : (m.image.table.slots s).state ≠ .resolving) : s ∉ m.resolving :=
  mt (nested.slots s).2 other

/-- A task that looks up its symbol concludes, or the arena carries it out while the symbol's resolver
is running, or the slot is claimed. -/
lemma Nested.lookup_cases (setup : Setup) (nested : m.Nested) (step : Step)
    (request : Request PresentedAddr) (task : Task) :
    Concludes setup m step request task
        (m.lookup setup task.symbol step (.request request task)) ∨
      task.symbol ∈ m.resolving ∧ m.lookup setup task.symbol step (.request request task) =
        (m.bootstrapped task).respond setup step request (m.image.bootstrap task).1 ∨
      (m.image.table.slots task.symbol).state = .unresolved ∧
        m.lookup setup task.symbol step (.request request task) =
          m.claimed setup task.symbol step (.request request task) := by
  rw [nested.lookup_eq]
  split
  case isTrue running => exact .inr (.inl ⟨running, rfl⟩)
  case isFalse out =>
    split
    case h_1 ready => exact .inl (.carried ready)
    case h_2 failed => exact .inl (.aborts failed)
    case h_3 resolving => exact absurd ((nested.slots _).1 resolving) out
    case h_4 unresolved => exact .inr (.inr ⟨unresolved, rfl⟩)

/-- What a request can come to when it is made: an answer that needs no symbol, the conclusion of its
task, an answer of the arena while the symbol's resolver is running, or the start of that resolver. -/
inductive Met (setup : Setup) (m : Machine) (step : Step) (request : Request PresentedAddr) :
    Machine → Prop where
  | known (configured : Bool) (reports : List Diagnostic) (answer : Answer) :
    setup.route.needed? m.image.arena request = none →
    answer.address? = none →
    Met setup m step request ((m.entered configured reports).deliver step answer)
  | concludes (configured : Bool) (reports : List Diagnostic) (task : Task) {next : Machine} :
    task.Serves setup.route m.image.arena request →
    Concludes setup (m.entered configured reports) step request task next →
    Met setup m step request next
  | bootstrapped (configured : Bool) (reports : List Diagnostic) (task : Task) :
    task.Serves setup.route m.image.arena request →
    task.symbol ∈ m.resolving →
    Met setup m step request (((m.entered configured reports).bootstrapped task).respond setup step
      request ((m.entered configured reports).image.bootstrap task).1)
  | waits (configured : Bool) (reports : List Diagnostic) (task : Task) :
    task.Serves setup.route m.image.arena request →
    (m.image.table.slots task.symbol).state = .unresolved →
    Met setup m step request ((m.entered configured reports).claimed setup task.symbol step
      (.request request task))

/-- A request is met. -/
lemma Nested.met_request (layered : ∀ config, setup.route ≠ .direct config) (nested : m.Nested)
    (step : Step) (request : Request PresentedAddr) :
    Met setup m step request (m.request setup step request) := by
  obtain ⟨configured, reports, ⟨unneeded, answer, silent, eq⟩ | ⟨task, -, serves, eq⟩⟩ :=
    request_cases layered m step request
  · rw [eq]
    exact .known configured reports answer unneeded silent
  · have entered : (m.entered configured reports).Nested :=
      nested.of_same ⟨rfl, rfl, rfl⟩ nested.waits
    rw [eq]
    obtain concludes | ⟨running, same⟩ | ⟨unresolved, same⟩ :=
      entered.lookup_cases setup step request task
    · exact .concludes configured reports task serves concludes
    · rw [same]
      exact .bootstrapped configured reports task serves running
    · rw [same]
      exact .waits configured reports task serves unresolved

/-! ## What an answer changes -/

/-- What was asked of the heap so far, with the heap's responses, and whether what was freed was
live. -/
def reached (m : Machine) : List (Request RealAddr × Response RealAddr × Bool) :=
  m.history.filterMap Event.reached?

/-- The machine `next` comes from `m` by an answer, which is the latest one. The answer may set bytes
to zero, and it takes a forced answer along. -/
structure Answers (m next : Machine) (answer : Answer) : Prop where
  heap : next.image.heap = { m.image.heap with forced := next.image.heap.forced }
  arena : next.image.arena = m.image.arena
  chunks : next.image.chunks = m.image.chunks
  table : next.image.table = m.image.table
  stack : next.stack = m.stack
  halted : next.halted = m.halted
  reached : next.reached = m.reached
  last : next.lastAnswer? = some answer

/-- An answer is delivered. -/
lemma answers_deliver (m : Machine) (step : Step) (answer : Answer) :
    Answers m (m.deliver step answer) answer := by
  obtain ⟨table, stack, _⟩ := sameCourse_deliver m step answer
  have last := lastAnswer?_deliver m step answer
  obtain ⟨labels, label⟩ := m.label_eq step answer
  revert last
  unfold deliver at table stack ⊢
  simp only [label] at table stack ⊢
  cases eq : m.stack with
  | nil =>
    intro last
    refine ⟨rfl, rfl, rfl, rfl, eq.symm, rfl, ?_, last⟩
    simp [Machine.reached, history]
  | cons frame below =>
    intro last
    refine ⟨rfl, rfl, rfl, rfl, eq.symm, rfl, ?_, last⟩
    simp [Machine.reached, history, Image.record, Event.reached?]

/-- An answer on its way up sets bytes to zero and reports at most. -/
lemma leave_eq (route : Route) (access : Access) (image : Image) (request : Request PresentedAddr)
    (response : Response RealAddr) :
    ∃ memory reports events, (∀ event ∈ events, event.reached? = none) ∧
      (route.leave access image request response).2 =
        { image with memory, reports, events := image.events ++ events } := by
  unfold Route.leave
  split
  case h_1 => exact ⟨image.memory, image.reports, [], List.forall_mem_nil _, by rw [List.append_nil]⟩
  case h_2 config _ =>
    dsimp only
    split
    case h_1 addr len _ =>
      unfold Image.clear
      split
      · exact ⟨_, _, [.cleared addr len false], List.forall_mem_singleton.2 rfl, rfl⟩
      · exact ⟨_, _, [.cleared addr len true], List.forall_mem_singleton.2 rfl, rfl⟩
    case h_2 => exact ⟨image.memory, _, [], List.forall_mem_nil _, by rw [List.append_nil]; rfl⟩

/-- A response is delivered. -/
lemma answers_respond (setup : Setup) (m : Machine) (step : Step) (request : Request PresentedAddr)
    (response : Response RealAddr) :
    Answers m (m.respond setup step request response)
      (.ofResponse (setup.route.leave setup.access m.image request response).1) := by
  obtain ⟨memory, reports, events, silent, left⟩ :=
    leave_eq setup.route setup.access m.image request response
  rw [respond_eq, left]
  obtain ⟨heap, arena, chunks, table, stack, halted, reached, last⟩ := answers_deliver
    { m with image := { m.image with memory, reports, events := m.image.events ++ events } } step
    (.ofResponse (setup.route.leave setup.access m.image request response).1)
  refine ⟨heap, arena, chunks, table, stack, halted, reached.trans ?_, last⟩
  have none : events.filterMap Event.reached? = [] := List.filterMap_eq_nil_iff.2 silent
  simp only [Machine.reached, history, ← List.append_assoc, List.filterMap_append, none,
    List.append_nil]

/-- A pointer that is answered presents the one that the response holds. -/
lemma exists_of_leave {route : Route} {access : Access} {image : Image}
    {request : Request PresentedAddr} {response : Response RealAddr} {value : UInt64}
    (h : Answer.ofResponse (route.leave access image request response).1 = .pointer value) :
    ∃ addr, response = .pointer addr ∧ route.Presents ⟨value⟩ addr := by
  unfold Route.leave at h
  unfold Route.Presents
  cases config : route.config? with
  | none =>
    simp only [config] at h
    cases response with
    | pointer addr => cases h; exact ⟨addr, rfl, rfl⟩
    | freed => cases h
    | size n => cases h
  | some config =>
    simp only [config] at h
    cases response with
    | pointer addr => cases h; exact ⟨addr, rfl, _, rfl⟩
    | freed => cases h
    | size n => cases h

/-- A pointer stays a pointer on its way up. -/
lemma exists_leave (route : Route) (access : Access) (image : Image) (request : Request PresentedAddr)
    (addr : RealAddr) : ∃ value,
    Answer.ofResponse (route.leave access image request (.pointer addr)).1 = .pointer value := by
  unfold Route.leave
  split <;> exact ⟨_, rfl⟩

/-- A task that the heap carries out asks one thing of it. -/
lemma reached_carried (m : Machine) (task : Task) :
    (m.carried task).reached =
      m.reached ++ [(task.request, (m.image.carryOut task).1, m.image.knows task.request)] := by
  obtain ⟨memory, carried⟩ := m.carried_eq task
  rw [carried]
  simp only [reached, history, Image.real, Image.record, List.filterMap_append, List.append_assoc]
  rfl

/-! ## The steps of a session -/

/-- The machine with the answer forced that a step forces. -/
def primed (m : Machine) (step : Step) : Machine :=
  if step.forced.isSome then
    { m with image := { m.image with heap := { m.image.heap with forced := step.forced } } }
  else m

/-- Forcing an answer changes nothing but the answer that is forced. -/
lemma primed_eq (m : Machine) (step : Step) :
    m.primed step = { m with image := { m.image with heap := { m.image.heap with
      forced := if step.forced.isSome then step.forced else m.image.heap.forced } } } := by
  unfold primed
  split <;> rfl

/-- Making the next call, and forcing an answer for it, changes the image in the forced answer only. -/
lemma image_primed (m : Machine) (step : Step) :
    (m.begun.primed step).image = { m.image with heap := { m.image.heap with
      forced := if step.forced.isSome then step.forced else m.image.heap.forced } } := by
  rw [primed_eq, m.begun_eq.1]

/-- Making the next call leaves the same resolvers running. -/
lemma resolving_primed (m : Machine) (step : Step) :
    (m.begun.primed step).resolving = m.resolving := by
  rw [primed_eq, resolving, resolving]
  unfold begun
  split
  case h_1 eq => rw [eq]
  case h_2 frame stack eq => rw [eq]; rfl

/-- Making the next call leaves as many resolvers running. -/
lemma length_primed (m : Machine) (step : Step) :
    (m.begun.primed step).stack.length = m.stack.length := by
  rw [primed_eq]
  exact m.begun_eq.2.2

/-- Making the next call does not stop the session. -/
lemma halted_primed (m : Machine) (step : Step) : (m.begun.primed step).halted = m.halted := by
  rw [primed_eq]
  exact m.halted_begun

/-- Making the next call asks nothing of the heap yet. -/
lemma reached_primed (m : Machine) (step : Step) : (m.begun.primed step).reached = m.reached := by
  rw [primed_eq, reached, reached, history, history]
  unfold begun
  split <;> rfl

/-- Claiming a slot asks nothing of the heap. -/
lemma reached_claimed (setup : Setup) (m : Machine) (s : Symbol) (step : Step) (job : Job) :
    (m.claimed setup s step job).reached = m.reached := by
  simp [claimed, reached, history, Image.record, Event.reached?]

/-- The machine once the innermost resolver has returned and its slot is published. -/
def published (setup : Setup) (m : Machine) (frame : Frame) : Machine :=
  let resolution := (setup.resolver frame.symbol).resolution frame.symbol
  let reports := if resolution.bound?.isSome then [] else
    [.symbol (resolution.complaint frame.symbol)]
  let image := (m.image.record (.resolved frame.symbol (setup.resolver frame.symbol).outcome)).report
    reports
  { m with
    image := { image with table := m.image.table.publish frame.symbol resolution }
    stack := m.stack.tail }

/-- A resolver that returns asks nothing of the heap. -/
lemma reached_published (setup : Setup) (m : Machine) (frame : Frame) :
    (m.published setup frame).reached = m.reached := by
  simp [published, reached, history, Image.record, Image.report, Event.reached?]

/-- A resolver that returns publishes its slot, and the call that waited for it goes on. -/
lemma settle_eq (setup : Setup) {frame : Frame} {stack : List Frame} (eq : m.stack = frame :: stack) :
    ({ m with stack } : Machine).settle setup frame =
      (m.published setup frame).resume setup frame.symbol frame.step frame.job
        ((setup.resolver frame.symbol).resolution frame.symbol).lookup := by
  simp only [published, eq, List.tail_cons]
  rfl

/-- A slot that is published is ready or failed, as the lookup is told. -/
lemma state_published (setup : Setup) (m : Machine) (frame : Frame) :
    (∃ addr, ((setup.resolver frame.symbol).resolution frame.symbol).lookup = .ready addr ∧
      ((m.published setup frame).image.table.slots frame.symbol).state = .ready) ∨
    ((setup.resolver frame.symbol).resolution frame.symbol).lookup = .failed ∧
      ((m.published setup frame).image.table.slots frame.symbol).state = .failed := by
  simp only [published, SymbolTable.publish, SymbolTable.setSlot, Resolution.lookup, if_true]
  cases ((setup.resolver frame.symbol).resolution frame.symbol).bound? with
  | some addr => exact .inl ⟨addr, rfl, rfl⟩
  | none => exact .inr ⟨rfl, rfl⟩

/-- The request that the next call makes of the allocator. -/
def asked? (m : Machine) : Option (Request PresentedAddr) :=
  m.next?.bind fun step =>
    match step.call with
    | .request operands => some (operands.map fun operand => ⟨m.value operand⟩)
    | _ => none

/-- The call asks something of the allocator, or of the arena itself. -/
def Asks (call : Call) : Prop :=
  (∃ r, call = .request r) ∨ ∃ size, call = .arenaAlloc size

/-- A call of the allocator makes its request. -/
lemma asked?_of_request {step : Step} {operands : Request Operand} (call : m.next? = some step)
    (kind : step.call = .request operands) :
    m.asked? = some (operands.map fun operand => ⟨m.value operand⟩) := by
  rw [asked?, call, Option.bind_some, kind]

/-- A request is made by a call of the allocator. -/
lemma exists_operands {step : Step} (call : m.next? = some step) (asked : m.asked? = some request) :
    ∃ operands, step.call = .request operands ∧
      (operands.map fun operand => ⟨m.value operand⟩) = request := by
  rw [asked?, call, Option.bind_some] at asked
  split at asked
  case h_1 operands kind => exact ⟨operands, kind, Option.some.inj asked⟩
  case h_2 => cases asked

/-- A call that asks nothing makes no request. -/
lemma asked?_of_not_asks {step : Step} (call : m.next? = some step) (asks : ¬Asks step.call) :
    m.asked? = none := by
  rw [asked?, call, Option.bind_some]
  split
  case h_1 r kind => exact absurd (.inl ⟨r, kind⟩) asks
  case h_2 => rfl

/-- A resolver that returns makes no request. -/
lemma asked?_of_returns (returns : m.next? = none) : m.asked? = none := by
  rw [asked?, returns, Option.bind_none]

/-- What a step of a session does: it makes a call, of the allocator or another, or the innermost
resolver returns and the call that waited for it goes on. -/
inductive Course (setup : Setup) (m : Machine) : Machine → Prop where
  | answered (step : Step) (image : Image) (answer : Answer) :
    m.next? = some step →
    ¬Asks step.call →
    image.heap = (m.begun.primed step).image.heap →
    image.arena = m.image.arena →
    image.chunks = m.image.chunks →
    image.table = m.image.table →
    image.events = m.image.events →
    answer.address? = none →
    Course setup m ({ m.begun.primed step with image }.deliver step answer)
  | takes (step : Step) (size : UInt64) :
    m.next? = some step →
    step.call = .arenaAlloc size →
    Course setup m
      ({ m.begun.primed step with
        image := ((m.begun.primed step).image.arenaAlloc size).2 }.deliver step
        (.chunk (if ((m.begun.primed step).image.arenaAlloc size).1.isNull then none
          else some ((m.begun.primed step).image.arenaAlloc size).1.value)))
  | looks (step : Step) (s : Symbol) :
    m.next? = some step →
    step.call = .lookup s →
    (m.image.table.slots s).state = .unresolved →
    Course setup m ((m.begun.primed step).claimed setup s step .lookup)
  | requests (step : Step) (operands : Request Operand) {next : Machine} :
    m.next? = some step →
    step.call = .request operands →
    Met setup (m.begun.primed step) step (operands.map fun operand => ⟨m.value operand⟩) next →
    Course setup m next
  | finds (frame : Frame) (stack : List Frame) (answer : Answer) :
    m.next? = none →
    m.stack = frame :: stack →
    frame.job = .lookup →
    answer.address? = none →
    Course setup m ((m.published setup frame).deliver frame.step answer)
  | resumes (frame : Frame) (stack : List Frame) {request : Request PresentedAddr} {task : Task}
    {next : Machine} :
    m.next? = none →
    m.stack = frame :: stack →
    frame.job = .request request task →
    task.Serves setup.route m.image.arena request →
    task.symbol = frame.symbol →
    Concludes setup (m.published setup frame) frame.step request task next →
    Course setup m next

/-- Making the next call, and forcing an answer for it, starts or ends no resolver. -/
lemma Nested.primed (nested : m.Nested) (step : Step) : (m.begun.primed step).Nested := by
  rw [primed_eq]
  exact nested.begun.of_same ⟨rfl, rfl, rfl⟩ nested.begun.waits

/-- Making the next call changes neither the image nor what operands name. -/
lemma value_primed (m : Machine) (step : Step) : (m.begun.primed step).value = m.value := by
  funext operand
  rw [primed_eq]
  unfold value
  rw [show m.begun.labels = m.labels from m.begun_eq.2.1]

/-- A call that makes a request, once the answer is forced that it forces. -/
lemma call_request (setup : Setup) (m : Machine) {step : Step} {operands : Request Operand}
    (kind : step.call = .request operands) :
    m.begun.call setup step = (m.begun.primed step).request setup step
      (operands.map fun operand => ⟨m.value operand⟩) := by
  rw [← value_primed m step]
  unfold Machine.call
  rw [kind]
  rfl

/-- What holds in every state of a session over the symbol table: resolvers are nested, and the call
that waits for one has a request that needs its symbol. -/
structure Proper (setup : Setup) (m : Machine) : Prop where
  nested : m.Nested
  awaits : ∀ frame ∈ m.stack, frame.job.Awaits setup.route m.image.arena frame.symbol

/-- Every step of a session takes one of the courses. -/
theorem Proper.course (layered : ∀ config, setup.route ≠ .direct config) (proper : Proper setup m)
    (h : m.step setup = some next) : Course setup m next := by
  obtain ⟨running, ⟨step, call, rfl⟩ | ⟨frame, stack, eq, returns, rfl⟩⟩ := step_cases h
  · have primed := proper.nested.primed step
    have value := value_primed m step
    have begun : (m.begun.primed step).image.arena = m.image.arena ∧
        (m.begun.primed step).image.chunks = m.image.chunks ∧
        (m.begun.primed step).image.table = m.image.table ∧
        (m.begun.primed step).image.events = m.image.events := by
      rw [image_primed]
      exact ⟨rfl, rfl, rfl, rfl⟩
    obtain ⟨arena, chunks, table, events⟩ := begun
    have answered (asks : ¬Asks step.call) (answer : Answer) (silent : answer.address? = none) :
        Course setup m ((m.begun.primed step).deliver step answer) :=
      .answered step _ answer call asks rfl arena chunks table events silent
    have forced : (if step.forced.isSome then { m.begun with
        image := { m.begun.image with heap := { m.begun.image.heap with forced := step.forced } } }
        else m.begun) = m.begun.primed step := rfl
    unfold Machine.call
    rw [forced]
    cases kind : step.call with
    | request operands =>
      dsimp only
      rw [value]
      exact .requests step operands call kind (primed.met_request layered step _)
    | write target bytes =>
      have asks : ¬Asks step.call := by simp [Asks, kind]
      dsimp only
      split
      case isTrue => exact .answered step _ .stored call asks rfl arena chunks table events rfl
      case isFalse => exact answered asks .fault rfl
    | read source len =>
      have asks : ¬Asks step.call := by simp [Asks, kind]
      dsimp only
      split <;> exact answered asks _ rfl
    | lookup s =>
      have asks : ¬Asks step.call := by simp [Asks, kind]
      dsimp only
      rw [primed.lookup_eq]
      split
      case isTrue => exact answered asks .bootstrapping rfl
      case isFalse out =>
        split
        case h_1 => exact answered asks _ rfl
        case h_2 => exact answered asks .failed rfl
        case h_3 resolving => exact absurd ((primed.slots s).1 resolving) out
        case h_4 unresolved => exact .looks step s call kind (table ▸ unresolved)
    | arenaAlloc size => exact .takes step size call kind
    | arenaContains addr => exact answered (by simp [Asks, kind]) _ rfl
    | arenaUsable addr => exact answered (by simp [Asks, kind]) _ rfl
    | stats => exact answered (by simp [Asks, kind]) _ rfl
    | config =>
      obtain ⟨configured, reports, configure⟩ := setup.route.configure_eq (m.begun.primed step).image
      dsimp only
      rw [configure]
      exact .answered step _ _ call (by simp [Asks, kind]) rfl arena chunks table events rfl
  · rw [settle_eq setup eq]
    have waits := proper.awaits frame (by rw [eq]; exact List.mem_cons_self)
    obtain ⟨s, script, step, job⟩ := frame
    obtain ⟨addr, found, state⟩ | ⟨found, state⟩ := state_published setup m ⟨s, script, step, job⟩
    · rw [found]
      cases waits with
      | lookup => exact .finds _ stack _ returns eq rfl rfl
      | request serves symbol =>
        exact .resumes _ stack returns eq rfl serves symbol (.carried (symbol ▸ state))
    · rw [found]
      cases waits with
      | lookup => exact .finds _ stack _ returns eq rfl rfl
      | request serves symbol =>
        subst symbol
        exact .resumes _ stack returns eq rfl serves rfl (.aborts state)

/-- When the resolver returns that a request waits for, its task concludes. -/
lemma Proper.concludes (layered : ∀ config, setup.route ≠ .direct config) (proper : Proper setup m)
    {frame : Frame} {stack : List Frame} (eq : m.stack = frame :: stack) (idle : frame.script = [])
    (job : frame.job = .request request task) (h : m.step setup = some next) :
    task.symbol = frame.symbol ∧
      Concludes setup (m.published setup frame) frame.step request task next := by
  have returns : m.next? = none := by simp [next?, eq, idle]
  cases proper.course layered h with
  | answered step image answer call => rw [returns] at call; cases call
  | takes step size call => rw [returns] at call; cases call
  | looks step s call => rw [returns] at call; cases call
  | requests step operands call => rw [returns] at call; cases call
  | finds top stack answer returns eq' job' =>
    obtain ⟨rfl, -⟩ := List.cons.inj (eq.symm.trans eq')
    rw [job] at job'
    cases job'
  | resumes top stack returns eq' job' serves symbol concludes =>
    obtain ⟨rfl, -⟩ := List.cons.inj (eq.symm.trans eq')
    rw [job, Job.request.injEq] at job'
    obtain ⟨rfl, rfl⟩ := job'
    exact ⟨symbol, concludes⟩

/-- The arena keeps its size, and a resolver that starts runs for a call that needs its symbol. -/
structure Frames (setup : Setup) (m next : Machine) : Prop where
  capacity : next.image.arena.capacity = m.image.arena.capacity
  stack : ∀ frame ∈ next.stack, frame ∈ m.stack ∨
    frame.job.Awaits setup.route m.image.arena frame.symbol

/-- Only the size of the arena and the running resolvers matter. -/
lemma Frames.of_same (frames : Frames setup m' next)
    (capacity : m'.image.arena.capacity = m.image.arena.capacity) (stack : m'.stack = m.stack) :
    Frames setup m next where
  capacity := frames.capacity.trans capacity
  stack := fun frame mem => by
    rw [← stack]
    exact (frames.stack frame mem).imp_right fun awaits => awaits.congr capacity.symm

/-- An answer starts no resolver. -/
lemma Answers.frames {answer : Answer} (answers : Answers m next answer) : Frames setup m next where
  capacity := by rw [answers.arena]
  stack := fun frame mem => .inl (answers.stack ▸ mem)

/-- The conclusion of a task starts no resolver. -/
lemma Concludes.frames (concludes : Concludes setup m step request task next) :
    Frames setup m next := by
  cases concludes with
  | carried ready =>
    obtain ⟨memory, carried⟩ := m.carried_eq task
    refine (answers_respond _ _ _ _ _).frames.of_same ?_ ?_
    · rw [carried]; rfl
    · rw [carried]
  | aborts failed => exact ⟨rfl, fun _ => .inl⟩

/-- A request that is met starts the resolver of the symbol that it needs at most. -/
lemma Met.frames (met : Met setup m step request next) : Frames setup m next := by
  cases met with
  | known configured reports answer unneeded silent =>
    exact (answers_deliver _ _ _).frames.of_same rfl rfl
  | concludes configured reports task serves concludes => exact concludes.frames.of_same rfl rfl
  | bootstrapped configured reports task serves running =>
    refine (answers_respond _ _ _ _ _).frames.of_same ?_ rfl
    exact (Image.follows_bootstrap (m.entered configured reports).image task).1.capacity
  | waits configured reports task serves unresolved =>
    refine ⟨rfl, List.forall_mem_cons.2 ⟨.inr (.request serves rfl), fun _ => .inl⟩⟩

/-! ### The symbol table -/

/-- The conclusion of a task leaves the symbol table as it is. -/
lemma Concludes.table_eq (concludes : Concludes setup m step request task next) :
    next.image.table = m.image.table := by
  cases concludes with
  | carried ready =>
    obtain ⟨memory, carried⟩ := m.carried_eq task
    refine (answers_respond _ _ _ _ _).table.trans ?_
    rw [carried]
    rfl
  | aborts failed => rfl

/-- The conclusion of a task leaves the running resolvers as they are. -/
lemma Concludes.stack_eq (concludes : Concludes setup m step request task next) :
    next.stack = m.stack := by
  cases concludes with
  | carried ready =>
    obtain ⟨memory, carried⟩ := m.carried_eq task
    refine (answers_respond _ _ _ _ _).stack.trans ?_
    rw [carried]
  | aborts failed => rfl

/-- A request that is met changes no slot but that of the symbol that it needs, which it claims if
nobody has. -/
lemma Met.slots_eq (met : Met setup m step request next) (t : Symbol) :
    next.image.table.slots t = m.image.table.slots t ∨
      setup.route.needed? m.image.arena request = some t ∧
        (m.image.table.slots t).state = .unresolved ∧
        (next.image.table.slots t).state = .resolving := by
  have kept (same : next.image.table = m.image.table) :
      next.image.table.slots t = m.image.table.slots t := by rw [same]
  cases met with
  | known configured reports answer unneeded silent =>
    exact .inl (kept (answers_deliver _ _ _).table)
  | concludes configured reports task serves concludes => exact .inl (kept concludes.table_eq)
  | bootstrapped configured reports task serves running =>
    exact .inl (kept ((answers_respond _ _ _ _ _).table.trans (Image.table_bootstrap _ _)))
  | waits configured reports task serves unresolved =>
    by_cases same : t = task.symbol
    · subst same
      exact .inr ⟨serves.needed?_eq, unresolved, congrArg Slot.state (if_pos rfl)⟩
    · exact .inl (if_neg same)

/-- Publishing a slot changes no other. -/
lemma slots_published (setup : Setup) (m : Machine) (frame : Frame) {t : Symbol}
    (other : t ≠ frame.symbol) :
    (m.published setup frame).image.table.slots t = m.image.table.slots t :=
  if_neg other

/-- The slot has been published. -/
def Settled (m : Machine) (s : Symbol) : Prop :=
  (m.image.table.slots s).state = .ready ∨ (m.image.table.slots s).state = .failed

instance (m : Machine) (s : Symbol) : Decidable (m.Settled s) :=
  inferInstanceAs (Decidable (_ ∨ _))

end Machine

namespace Machine.Proper

variable {setup : Setup} {m next : Machine} {s : Symbol}

/-- A session at its start. -/
lemma start (setup : Setup) (heapCapacity capacity : Nat) (script : List Step) :
    Proper setup (start (.fresh heapCapacity capacity) script) :=
  ⟨.start heapCapacity capacity script, List.forall_mem_nil _⟩

/-- The calls that wait still need their symbols. -/
lemma awaits_of_frames (awaits : ∀ frame ∈ m.stack,
      frame.job.Awaits setup.route m.image.arena frame.symbol) (frames : Frames setup m next) :
    ∀ frame ∈ next.stack, frame.job.Awaits setup.route next.image.arena frame.symbol := by
  intro frame mem
  obtain old | new := frames.stack frame mem
  · exact (awaits frame old).congr frames.capacity
  · exact new.congr frames.capacity

/-- A call that goes on waits for the same as before. -/
lemma awaits_begun (proper : Proper setup m) (step : Step) {image : Image}
    (capacity : image.arena.capacity = m.image.arena.capacity) :
    ∀ frame ∈ (m.begun.primed step).stack,
      frame.job.Awaits setup.route image.arena frame.symbol := by
  rw [primed_eq]
  exact m.forall_mem_begun (fun _ _ awaits => awaits)
    fun frame mem => (proper.awaits frame mem).congr capacity

/-- A step leaves a session proper. -/
theorem step (layered : ∀ config, setup.route ≠ .direct config) (proper : Proper setup m)
    (h : m.step setup = some next) : Proper setup next := by
  refine ⟨proper.nested.step h, ?_⟩
  have begun (step : Step) : (m.begun.primed step).image.arena = m.image.arena := by
    rw [image_primed]
  have published (frame : Frame) : ∀ other ∈ (m.published setup frame).stack,
      other.job.Awaits setup.route (m.published setup frame).image.arena other.symbol :=
    fun other mem => proper.awaits other (List.mem_of_mem_tail mem)
  cases proper.course layered h with
  | answered step image answer call asks heap arena chunks table events silent =>
    refine awaits_of_frames (m := { m.begun.primed step with image }) ?_
      (answers_deliver _ _ _).frames
    exact proper.awaits_begun step (by rw [arena])
  | takes step size call kind =>
    refine awaits_of_frames (m := { m.begun.primed step with image := _ }) ?_
      (answers_deliver _ _ _).frames
    exact proper.awaits_begun step
      ((Image.follows_arenaAlloc _ size).capacity.trans (by rw [begun]))
  | looks step s call kind unresolved =>
    refine awaits_of_frames (proper.awaits_begun step (by rw [begun])) ⟨rfl, ?_⟩
    exact List.forall_mem_cons.2 ⟨.inr .lookup, fun _ => .inl⟩
  | requests step operands call kind met =>
    exact awaits_of_frames (proper.awaits_begun step (by rw [begun])) met.frames
  | finds frame stack answer returns eq job silent =>
    exact awaits_of_frames (published frame) (answers_deliver _ _ _).frames
  | resumes frame stack returns eq job serves symbol concludes =>
    exact awaits_of_frames (published frame) concludes.frames

/-- A session stays proper. -/
theorem after (layered : ∀ config, setup.route ≠ .direct config) (proper : Proper setup m)
    (n : Nat) : Proper setup (after setup n m) := by
  induction n with
  | zero => exact proper
  | succ n ih =>
    rw [after_succ]
    cases h : (Machine.after setup n m).step setup with
    | none => exact ih
    | some next => exact ih.step layered h

/-- A step leaves a slot as it is, claims it, or publishes it once its resolver has returned. -/
theorem slots_step (layered : ∀ config, setup.route ≠ .direct config) (proper : Proper setup m)
    (h : m.step setup = some next) (s : Symbol) :
    next.image.table.slots s = m.image.table.slots s ∨
      (m.image.table.slots s).state = .unresolved ∧
        (next.image.table.slots s).state = .resolving ∨
      ∃ frame stack, m.stack = frame :: stack ∧ s = frame.symbol ∧
        next.image.table.slots s = (m.published setup frame).image.table.slots s := by
  have begun (step : Step) : (m.begun.primed step).image.table = m.image.table := by
    rw [image_primed]
  have published {frame : Frame} {stack : List Frame} (eq : m.stack = frame :: stack)
      (table : next.image.table = (m.published setup frame).image.table) :
      next.image.table.slots s = m.image.table.slots s ∨
        (m.image.table.slots s).state = .unresolved ∧
          (next.image.table.slots s).state = .resolving ∨
        ∃ frame stack, m.stack = frame :: stack ∧ s = frame.symbol ∧
          next.image.table.slots s = (m.published setup frame).image.table.slots s := by
    by_cases same : s = frame.symbol
    · exact .inr (.inr ⟨frame, stack, eq, same, by rw [table]⟩)
    · exact .inl (by rw [table, slots_published setup m frame same])
  cases proper.course layered h with
  | answered step image answer call asks heap arena chunks table events silent =>
    exact .inl (by rw [(answers_deliver _ _ _).table, table])
  | takes step size call kind =>
    exact .inl (by rw [(answers_deliver _ _ _).table, Image.table_arenaAlloc, begun])
  | looks step t call kind unresolved =>
    by_cases same : s = t
    · subst same
      exact .inr (.inl ⟨unresolved, congrArg Slot.state (if_pos rfl)⟩)
    · exact .inl ((if_neg same).trans (by rw [begun]))
  | requests step operands call kind met =>
    have slots := met.slots_eq s
    rw [begun] at slots
    obtain same | ⟨-, unresolved, resolving⟩ := slots
    · exact .inl same
    · exact .inr (.inl ⟨unresolved, resolving⟩)
  | finds frame stack answer returns eq job silent =>
    exact published eq (answers_deliver _ _ _).table
  | resumes frame stack returns eq job serves symbol concludes =>
    exact published eq concludes.table_eq

/-- A slot that has been published stays as it is. -/
lemma slots_eq_of_settled (layered : ∀ config, setup.route ≠ .direct config)
    (proper : Proper setup m) (h : m.step setup = some next) (settled : m.Settled s) :
    next.image.table.slots s = m.image.table.slots s := by
  obtain same | ⟨unresolved, -⟩ | ⟨frame, stack, eq, rfl, -⟩ := proper.slots_step layered h s
  · exact same
  · simp [Settled, unresolved] at settled
  · have resolving := (proper.nested.slots frame.symbol).2 (by simp [resolving, eq])
    simp [Settled, resolving] at settled

/-- A slot that has been published stays so. -/
theorem settled_after (layered : ∀ config, setup.route ≠ .direct config) (proper : Proper setup m)
    (settled : m.Settled s) (n : Nat) : (Machine.after setup n m).Settled s := by
  induction n with
  | zero => exact settled
  | succ n ih =>
    rw [after_succ]
    cases h : (Machine.after setup n m).step setup with
    | none => exact ih
    | some next =>
      have slots := (proper.after layered n).slots_eq_of_settled layered h ih
      rw [Option.getD_some, Settled, slots]
      exact ih

/-- Only a resolver that finds an address makes a slot ready. -/
theorem bound_of_ready (layered : ∀ config, setup.route ≠ .direct config) (proper : Proper setup m)
    (bound : (m.image.table.slots s).state = .ready →
      ((setup.resolver s).resolution s).bound?.isSome) (n : Nat)
    (ready : ((Machine.after setup n m).image.table.slots s).state = .ready) :
    ((setup.resolver s).resolution s).bound?.isSome := by
  induction n with
  | zero => exact bound ready
  | succ n ih =>
    rw [after_succ] at ready
    cases h : (Machine.after setup n m).step setup with
    | none => exact ih (by simpa [h] using ready)
    | some next =>
      rw [h, Option.getD_some] at ready
      obtain same | ⟨-, resolving⟩ | ⟨frame, stack, eq, rfl, published⟩ :=
        (proper.after layered n).slots_step layered h s
      · exact ih (same ▸ ready)
      · rw [resolving] at ready
        cases ready
      · rw [published] at ready
        obtain ⟨addr, found, -⟩ | ⟨-, failed⟩ :=
          state_published setup (Machine.after setup n m) frame
        · unfold Resolution.lookup at found
          split at found
          case h_1 addr some => rw [some]; rfl
          case h_2 => cases found
        · rw [failed] at ready
          cases ready

end Machine.Proper

end PointerTagging.Session
