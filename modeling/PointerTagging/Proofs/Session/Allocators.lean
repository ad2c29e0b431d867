import PointerTagging.Proofs.Session.Reallocation
import PointerTagging.Proofs.Session.Reserve

/-!
# Sessions over any allocator

A session reaches the heap at one place only: where a task is carried out whose symbol is bound. Here
that place is named (`Machine.handover?`), and an allocator of any kind is put there
(`Machine.stepBy`). Over the heap itself this is the session that runs (`Machine.stepBy_heap`).
Whatever the allocator does, the resolvers stay nested and the arena hands out its own bytes only
(`Machine.Regular.afterBy`).
-/

namespace PointerTagging.Session

/-- Makes a request of an allocator, which stands where the heap does. -/
def Image.realBy (allocator : Allocator (Heap × Memory)) (image : Image)
    (request : Request RealAddr) : Response RealAddr × Image :=
  let (response, heap, memory) := allocator.serve request (image.heap, image.memory)
  (response, { image with heap, memory }.record (.real request response (image.knows request)))

/-- Has an allocator carry a task out. -/
def Image.carryOutBy (allocator : Allocator (Heap × Memory)) (image : Image) (task : Task) :
    Response RealAddr × Image :=
  let (response, image) := image.realBy allocator task.request
  (response, image.settle task response)

/-- A task that is handed over to the real allocator, with the machine that hands it over, the call
that made it and the request that it serves. -/
structure Handover where
  machine : Machine
  step : Step
  request : Request PresentedAddr
  task : Task

namespace Handover

/-- What the allocator works on. -/
def state (handover : Handover) : Heap × Memory :=
  (handover.machine.image.heap, handover.machine.image.memory)

/-- The machine once an allocator has carried the task out, and its answer is delivered. -/
def servedBy (allocator : Allocator (Heap × Memory)) (setup : Setup) (handover : Handover) :
    Machine :=
  let (response, image) := handover.machine.image.carryOutBy allocator handover.task
  { handover.machine with image }.respond setup handover.step handover.request response

end Handover

namespace Machine

variable {setup : Setup} {m m' next : Machine} {allocator : Allocator (Heap × Memory)}
  {handover : Handover} {capacity : Nat}

/-- The task of a request that is made while its slot is ready. -/
def bound? (setup : Setup) (m : Machine) (step : Step) (request : Request PresentedAddr) :
    Option Handover :=
  match setup.route.enter m.image request with
  | (.error _, _) => none
  | (.ok real, image) =>
    match image.plan real with
    | .answer _ => none
    | .need task =>
      match (image.table.slots task.symbol).state with
      | .ready => some ⟨{ m with image }, step, request, task⟩
      | .unresolved | .resolving | .failed => none

/-- The task of the request that waits for a resolver which returns an address. -/
def found? (setup : Setup) (m : Machine) (frame : Frame) : Option Handover :=
  match frame.job, ((setup.resolver frame.symbol).resolution frame.symbol).lookup with
  | .request request task, .ready _ =>
    some ⟨m.published setup frame, frame.step, request, task⟩
  | _, _ => none

/-- The task that the next step hands over to the real allocator. -/
def handover? (setup : Setup) (m : Machine) : Option Handover :=
  match m.halted with
  | some _ => none
  | none =>
    match m.next? with
    | some step => m.asked?.bind ((m.begun.primed step).bound? setup step)
    | none => m.stack.head?.bind (m.found? setup)

/-- One step of a session over an allocator. -/
def stepBy (allocator : Allocator (Heap × Memory)) (setup : Setup) (m : Machine) :
    Option Machine :=
  match m.handover? setup with
  | some handover => some (handover.servedBy allocator setup)
  | none => m.step setup

/-- The machine after at most `n` steps over an allocator. -/
def afterBy (allocator : Allocator (Heap × Memory)) (setup : Setup) : Nat → Machine → Machine
  | 0, m => m
  | n + 1, m => ((afterBy allocator setup n m).stepBy allocator setup).getD
      (afterBy allocator setup n m)

/-! ## The heap in place of an allocator -/

/-- A request that is made while its slot is ready is carried out by the heap. -/
lemma request_of_bound (layered : ∀ config, setup.route ≠ .direct config) {step : Step}
    {request : Request PresentedAddr} (h : m.bound? setup step request = some handover) :
    m.request setup step request = handover.servedBy Heap.allocator setup := by
  unfold bound? at h
  split at h
  case h_1 => cases h
  case h_2 real image enter =>
    split at h
    case h_1 => cases h
    case h_2 task plan =>
      split at h
      case h_1 ready =>
        cases h
        rw [request_of_need layered task enter plan]
        simp only [lookup, ready, resume]
        rfl
      all_goals cases h

/-- A step that hands a task over to the heap delivers what the heap answers. -/
theorem step_of_handover (layered : ∀ config, setup.route ≠ .direct config)
    (h : m.handover? setup = some handover) :
    m.step setup = some (handover.servedBy Heap.allocator setup) := by
  unfold handover? at h
  split at h
  case h_1 => cases h
  case h_2 running =>
    split at h
    case h_1 step call =>
      obtain ⟨request, asked, bound⟩ := Option.bind_eq_some_iff.1 h
      obtain ⟨operands, kind, same⟩ := exists_operands call asked
      rw [step_eq_call setup running call, call_request setup m kind, same,
        request_of_bound layered bound]
    case h_2 returns =>
      obtain ⟨frame, top, found⟩ := Option.bind_eq_some_iff.1 h
      obtain ⟨stack, eq⟩ := List.head?_eq_some_iff.1 top
      have idle : frame.script = [] := by simpa [next?, eq] using returns
      have settles : m.step setup = some (({ m with stack } : Machine).settle setup frame) := by
        simp only [Machine.step, running, eq, idle]
      unfold found? at found
      split at found
      case h_1 request task addr job ready =>
        cases found
        rw [settles, settle_eq setup eq, ready, job]
        rfl
      case h_2 => cases found

/-- Over the heap a session takes the steps that it takes when it runs. -/
theorem stepBy_heap (layered : ∀ config, setup.route ≠ .direct config) (m : Machine) :
    m.stepBy Heap.allocator setup = m.step setup := by
  unfold stepBy
  split
  case h_1 handover h => exact (step_of_handover layered h).symm
  case h_2 => rfl

/-- Over the heap a session passes through the states that it passes through when it runs. -/
theorem afterBy_heap (layered : ∀ config, setup.route ≠ .direct config) (n : Nat) (m : Machine) :
    afterBy Heap.allocator setup n m = after setup n m := by
  induction n with
  | zero => rfl
  | succ n ih => rw [afterBy, after_succ, ih, stepBy_heap layered]

/-- A request whose slot is ready is handed over. -/
lemma bound?_ne_none {request : Request PresentedAddr} {task : Task}
    (serves : task.Serves setup.route m.image.arena request)
    (ready : (m.image.table.slots task.symbol).state = .ready) (step : Step) :
    m.bound? setup step request ≠ none := by
  obtain ⟨unneeded, -⟩ | ⟨nonnull, configured, reports, enter⟩ :=
    setup.route.enter_cases m.image request
  · cases serves.needed?_eq.symm.trans unneeded
  have plan := @Image.plan_cases { m.image with configured, reports } setup.route request nonnull
  obtain ⟨response, -, unneeded, -⟩ | ⟨other, plan, serves'⟩ := plan
  · cases serves.needed?_eq.symm.trans unneeded
  -- both tasks serve the request, so they need the same symbol
  have same : other.symbol = task.symbol :=
    Option.some.inj (serves'.needed?_eq.symm.trans serves.needed?_eq)
  simp only [bound?, enter, plan, same, ready]
  nofun

/-- A step that hands nothing over asks nothing of the heap. -/
theorem reached_of_kept (layered : ∀ config, setup.route ≠ .direct config)
    (proper : Proper setup m) (kept : m.handover? setup = none) (h : m.step setup = some next) :
    next.reached = m.reached := by
  have running := (step_cases h).1
  cases proper.course layered h with
  | answered step image answer call asks heap arena chunks table events silent =>
    rw [(answers_deliver _ _ _).reached, ← m.reached_primed step]
    simp only [reached, history, events, image_primed]
  | takes step size call kind =>
    rw [(answers_deliver _ _ _).reached, ← m.reached_primed step]
    exact reached_bootstrapped (m.begun.primed step) (.malloc size)
  | looks step s call kind unresolved => rw [reached_claimed, reached_primed]
  | requests step operands call kind met =>
    rw [← m.reached_primed step]
    cases met with
    | known configured reports answer unneeded silent => exact (answers_deliver _ _ _).reached
    | concludes configured reports task serves concludes =>
      cases concludes with
      | carried ready =>
        simp only [handover?, running, call, asked?_of_request call kind, Option.bind_some] at kept
        exact absurd kept (bound?_ne_none serves ready step)
      | aborts failed => rfl
    | bootstrapped configured reports task serves resolving =>
      exact (answers_respond _ _ _ _ _).reached.trans
        (reached_bootstrapped ((m.begun.primed step).entered configured reports) task)
    | waits configured reports task serves unresolved => exact reached_claimed ..
  | finds frame stack answer returns eq job silent =>
    rw [(answers_deliver _ _ _).reached, reached_published]
  | resumes frame stack returns eq job serves symbol concludes =>
    rw [← reached_published setup m frame]
    cases concludes with
    | carried ready =>
      simp only [handover?, running, returns, eq, List.head?_cons, Option.bind_some, found?, job]
        at kept
      obtain ⟨addr, found, -⟩ | ⟨-, failed⟩ := state_published setup m frame
      · simp only [found] at kept
        cases kept
      · rw [symbol, failed] at ready
        cases ready
    | aborts failed => rfl

/-! ## What no allocator changes -/

/-- The allocator changes neither what is left to play nor the arena. -/
lemma servedBy_same (allocator : Allocator (Heap × Memory)) (setup : Setup)
    (handover : Handover) :
    SameCourse handover.machine (handover.servedBy allocator setup) ∧
      (handover.servedBy allocator setup).halted = handover.machine.halted ∧
      (handover.servedBy allocator setup).image.arena = handover.machine.image.arena := by
  obtain ⟨m, step, request, task⟩ := handover
  have carried : (m.image.carryOutBy allocator task).2.table = m.image.table ∧
      (m.image.carryOutBy allocator task).2.arena = m.image.arena :=
    ⟨Image.table_settle _ _ _, Image.arena_settle _ _ _⟩
  have answers := answers_respond setup
    ({ m with image := (m.image.carryOutBy allocator task).2 } : Machine) step request
    (m.image.carryOutBy allocator task).1
  exact ⟨(SameCourse.of_image carried.1).trans (sameCourse_respond _ _ _ _ _), answers.halted,
    answers.arena.trans carried.2⟩

/-- The arena keeps its size, and hands out its own bytes only. -/
structure Bounds (image next : Image) : Prop where
  capacity : next.arena.capacity = image.arena.capacity
  within : image.arena.used ≤ image.arena.capacity → next.arena.used ≤ image.arena.capacity

namespace Bounds

variable {image image' last : Image}

/-- An arena that stays as it is. -/
lemma of_same (arena : image'.arena = image.arena) : Bounds image image' := by
  constructor <;> rw [arena]
  exact id

/-- An operation that leaves the arena as it is, after another one and before a third. -/
lemma congr {image'' last' : Image} (bounds : Bounds image' image'')
    (before : image'.arena = image.arena) (after : last'.arena = image''.arena) :
    Bounds image last' := by
  obtain ⟨capacity, within⟩ := bounds
  rw [before] at capacity within
  constructor <;> rw [after]
  · exact capacity
  · exact within

/-- A chunk ends within the capacity. -/
lemma arenaAlloc (image : Image) (size : UInt64) : Bounds image (image.arenaAlloc size).2 := by
  unfold Image.arenaAlloc
  split
  case h_1 addr arena memory h =>
    obtain ⟨stop, fits, chunk⟩ := Option.map_eq_some_iff.1 h
    cases chunk
    refine ⟨rfl, fun _ => ?_⟩
    simp only [Arena.chunkEnd?, Option.bind_eq_bind, Option.bind_eq_some_iff] at fits
    obtain ⟨chunk, -, stop, -, fits⟩ := fits
    split at fits
    case isTrue le => cases fits; exact le
    case isFalse => cases fits
  case h_2 => exact .of_same rfl

/-- A task that the arena carries out takes one chunk at most. -/
lemma bootstrap (image : Image) (task : Task) : Bounds image (image.bootstrap task).2 := by
  have alloc := arenaAlloc image
  cases task with
  | malloc size => exact alloc size
  | calloc count size =>
    simp only [Image.bootstrap]
    split
    case h_1 => exact .of_same rfl
    case h_2 total _ => split <;> exact (alloc total).congr rfl rfl
  | realloc addr size =>
    simp only [Image.bootstrap]
    split
    case isTrue => exact alloc size
    case isFalse => exact .of_same rfl
  | move chunk kept size => exact (alloc size).congr rfl (Image.arena_settle _ _ _)
  | free addr => exact .of_same rfl
  | usableSize addr => exact .of_same rfl

end Bounds

/-- The conclusion of a task leaves the arena as it is. -/
lemma Concludes.arena_eq {step : Step} {request : Request PresentedAddr} {task : Task}
    (concludes : Concludes setup m step request task next) :
    next.image.arena = m.image.arena := by
  cases concludes with
  | carried ready =>
    exact (answers_respond _ _ _ _ _).arena.trans (Image.arena_settle _ _ _)
  | aborts failed => rfl

/-- A request that is met takes one chunk of the arena at most. -/
lemma Met.bounds {step : Step} {request : Request PresentedAddr}
    (met : Met setup m step request next) : Bounds m.image next.image := by
  cases met with
  | known configured reports answer unneeded silent =>
    exact .of_same (answers_deliver _ _ _).arena
  | concludes configured reports task serves concludes => exact .of_same concludes.arena_eq
  | bootstrapped configured reports task serves running =>
    exact (Bounds.bootstrap (m.entered configured reports).image task).congr rfl
      (answers_respond _ _ _ _ _).arena
  | waits configured reports task serves unresolved => exact .of_same rfl

/-- A step takes one chunk of the arena at most. -/
lemma Course.bounds (course : Course setup m next) : Bounds m.image next.image := by
  have begun (step : Step) : (m.begun.primed step).image.arena = m.image.arena := by
    rw [image_primed]
  cases course with
  | answered step image answer call asks heap arena chunks table events silent =>
    exact .of_same ((answers_deliver _ _ _).arena.trans arena)
  | takes step size call kind =>
    exact (Bounds.arenaAlloc (m.begun.primed step).image size).congr (begun step)
      (answers_deliver _ _ _).arena
  | looks step s call kind unresolved => exact .of_same (begun step)
  | requests step operands call kind met => exact met.bounds.congr (begun step) rfl
  | finds frame stack answer returns eq job silent =>
    exact .of_same (answers_deliver _ _ _).arena
  | resumes frame stack returns eq job serves symbol concludes =>
    exact .of_same concludes.arena_eq

/-- What holds in every state of a session, whatever the allocator: resolvers are nested, the calls
that wait for them need their symbols, and the arena has handed out its own bytes only. -/
structure Regular (setup : Setup) (capacity : Nat) (m : Machine) : Prop where
  proper : Proper setup m
  within : m.image.arena.used ≤ capacity
  capacity : m.image.arena.capacity = capacity

namespace Regular

/-- A session at its start. -/
lemma start (setup : Setup) (heapCapacity capacity : Nat) (script : List Step) :
    Regular setup capacity (start (.fresh heapCapacity capacity) script) :=
  ⟨.start setup heapCapacity capacity script, Nat.zero_le _, rfl⟩

/-- A machine with the same arena, in which the same is left to play. -/
lemma of_same (regular : Regular setup capacity m) (same : SameCourse m m')
    (halted : m'.halted = m.halted) (arena : m'.image.arena = m.image.arena) :
    Regular setup capacity m' where
  proper := by
    refine ⟨regular.proper.nested.of_same same fun s => ?_, ?_⟩
    · rw [halted]
      exact regular.proper.nested.waits s
    · rw [arena, same.2.1]
      exact regular.proper.awaits
  within := by rw [arena]; exact regular.within
  capacity := by rw [arena]; exact regular.capacity

/-- A step of a session that runs. -/
lemma step (layered : ∀ config, setup.route ≠ .direct config) (regular : Regular setup capacity m)
    (h : m.step setup = some next) : Regular setup capacity next := by
  obtain ⟨kept, within⟩ := (regular.proper.course layered h).bounds
  rw [regular.capacity] at kept within
  exact ⟨regular.proper.step layered h, within regular.within, kept⟩

/-- A step over any allocator. -/
theorem stepBy (layered : ∀ config, setup.route ≠ .direct config)
    (regular : Regular setup capacity m) (h : m.stepBy allocator setup = some next) :
    Regular setup capacity next := by
  unfold Machine.stepBy at h
  split at h
  case h_1 handover hands =>
    cases h
    -- over the heap the same task is handed over, and neither allocator changes what is regular
    have heap := regular.step layered (step_of_handover layered hands)
    obtain ⟨same, halted, arena⟩ := servedBy_same Heap.allocator setup handover
    obtain ⟨same', halted', arena'⟩ := servedBy_same allocator setup handover
    refine heap.of_same ?_ (halted'.trans halted.symm) (arena'.trans arena.symm)
    exact ⟨same'.1.trans same.1.symm, same'.2.1.trans same.2.1.symm,
      same'.2.2.trans same.2.2.symm⟩
  case h_2 => exact regular.step layered h

/-- A session stays regular over any allocator. -/
theorem afterBy (layered : ∀ config, setup.route ≠ .direct config)
    (allocator : Allocator (Heap × Memory)) (regular : Regular setup capacity m) (n : Nat) :
    Regular setup capacity (afterBy allocator setup n m) := by
  induction n with
  | zero => exact regular
  | succ n ih =>
    rw [Machine.afterBy]
    cases h : (Machine.afterBy allocator setup n m).stepBy allocator setup with
    | none => exact ih
    | some next => exact ih.stepBy layered h

end Regular

end Machine

end PointerTagging.Session
