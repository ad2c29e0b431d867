import PointerTagging.Proofs.Session.Ownership

/-!
# Ownership is conserved

Every live block of the heap has one owner. It is the block behind one of the pointers that the
callers hold, or it was given up while the resolver of `free` was running, when the allocator over
the symbol table lets a call of `free` go by (`Machine.conserved`). The ledger says what callers hold
(`Machine.ledger`); they give up only what they hold, and not what a waiting call is about to give
up (`Machine.Careful`).
-/

namespace PointerTagging.Session.Machine

variable {setup : Setup} {m next caller : Machine} {step : Step} {task : Task}
  {request : Request PresentedAddr} {held : List Holding} {dropped : List RealAddr} {answer : Answer}
  {route : Route}

/-! ## The functions of the machine -/

/-- What was freed so far by the heap's own `free`, and whether it was live. -/
def freed (m : Machine) : List (RealAddr × Bool) := m.reached.filterMap freedBy

/-- What the callers hold once a request is answered, if it is. -/
def heldOnce (held : List Holding) (request : Request PresentedAddr) : Option Answer → List Holding
  | some answer => heldAfter held request answer
  | none => held

/-- The callers own the live blocks, and what was freed is dead. -/
structure Conserves (route : Route) (m : Machine) (held : List Holding) (dropped : List RealAddr) :
    Prop where
  owned : Owned route m.image.heap held dropped
  released : Released m.image.heap m.freed

/-- Only the heap, but for the answer that is forced on it, and what was asked of it matter. -/
lemma Conserves.of_same (conserves : Conserves route m held dropped)
    (addrs : next.image.heap.addrs = m.image.heap.addrs)
    (used : next.image.heap.used = m.image.heap.used)
    (capacity : next.image.heap.capacity = m.image.heap.capacity)
    (reached : next.reached = m.reached) : Conserves route next held dropped where
  owned := conserves.owned.congr addrs used capacity
  released := by
    rw [freed, reached]
    exact conserves.released.congr addrs used capacity

/-- An answer changes nothing of the heap. -/
lemma Conserves.answers {answer : Answer} (conserves : Conserves route m held dropped)
    (answers : Answers m next answer) : Conserves route next held dropped :=
  conserves.of_same (by rw [answers.heap]; rfl) (by rw [answers.heap]) (by rw [answers.heap])
    answers.reached

/-- The answer of a step that gives one. -/
lemma Answers.answer?_eq (answers : Answers m next answer) (running : m.halted = none)
    (height : m.stack.length ≤ caller.stack.length) : caller.answer? next = some answer := by
  rw [answer?, answers.halted, answers.stack, if_pos ⟨running, height⟩]
  exact answers.last

/-- A session that stops gives no answer. -/
lemma answer?_of_halted (halted : next.halted ≠ none) : m.answer? next = none :=
  if_neg fun h => halted h.1

/-- A resolver that starts is no answer. -/
lemma answer?_of_higher (higher : m.stack.length < next.stack.length) : m.answer? next = none :=
  if_neg fun h => absurd h.2 (Nat.not_le_of_lt higher)

/-- The heap after it has carried a task out is the one after the task's request. -/
lemma heap_carried (m : Machine) (task : Task) :
    (m.carried task).image.heap =
      (Heap.allocator.serve task.request (m.image.heap, m.image.memory)).2.1 := by
  obtain ⟨memory, carried⟩ := m.carried_eq task
  rw [carried]
  rfl

/-- A task that the heap carries out frees an address at most. -/
lemma freed_carried (m : Machine) (task : Task) :
    (m.carried task).freed = m.freed ++
      (freedBy (task.request, (m.image.carryOut task).1, m.image.knows task.request)).toList := by
  rw [freed, reached_carried, List.filterMap_append]
  rfl

/-- What a task frees is live. -/
lemma Conserves.released_carried (conserves : Conserves setup.route m held dropped)
    (orderly : m.image.Orderly) (serves : task.Serves setup.route m.image.arena request)
    (holds : ∀ pointer ∈ request.givenUp?, Held held pointer) :
    Released (m.carried task).image.heap (m.carried task).freed := by
  have distinct := conserves.owned.distinct
  have grants := Heap.grants_serve distinct orderly.heap m.image.memory task.request
  rw [heap_carried, freed_carried]
  cases serves with
  | @free pointer nonnull outside =>
    refine conserves.released.free distinct (fun inside => ?_) (Heap.addrs_drop _ _) rfl rfl
    obtain ⟨holding, mem, rfl⟩ := holds pointer (Request.givenUp?_of_contains rfl inside)
    have live := conserves.owned.live (mem_owned.2 ⟨⟨holding, mem, rfl⟩, inside⟩)
    obtain ⟨block, mem, same⟩ := List.mem_map.1 live
    exact ⟨live, List.find?_isSome.2 ⟨block, mem, beq_iff_eq.2 same⟩⟩
  | malloc | calloc | realloc | move | usableSize =>
    change Released _ (m.freed ++ [])
    rw [List.append_nil]
    exact conserves.released.granted orderly.heap grants

/-- A task that the heap carries out. -/
lemma Conserves.carried (conserves : Conserves setup.route m held dropped)
    (orderly : m.image.Orderly) (serves : task.Serves setup.route m.image.arena request)
    (holds : ∀ pointer ∈ request.givenUp?, Held held pointer)
    (tells : Tells setup.route answer (m.image.carryOut task).1) :
    Conserves setup.route (m.carried task) (heldAfter held request answer) dropped where
  owned := by
    have apart := orderly.placed.apart
    have grants :=
      Heap.grants_serve conserves.owned.distinct orderly.heap m.image.memory task.request
    rw [heap_carried]
    exact conserves.owned.granted orderly.heap grants holds
      (fun addr inside => serves.retired?_iff apart inside) tells
  released := conserves.released_carried orderly serves holds

/-- A task that the arena carries out leaves the heap as it is. -/
lemma heap_bootstrapped (m : Machine) (task : Task) :
    (m.bootstrapped task).image.heap = m.image.heap := by
  obtain ⟨arena, memory, chunks, same⟩ := m.image.bootstrap_same task
  rw [bootstrapped, same]

/-- A task that the arena carries out asks nothing of the heap. -/
lemma reached_bootstrapped (m : Machine) (task : Task) :
    (m.bootstrapped task).reached = m.reached := by
  obtain ⟨arena, memory, chunks, same⟩ := m.image.bootstrap_same task
  rw [bootstrapped, same]
  rfl

/-- A pointer that the heap hands out has no tag bit set. -/
lemma clear_carryOut {image : Image} (orderly : image.Orderly) (task : Task) :
    ∀ addr ∈ (image.carryOut task).1.pointer?, isEncoded addr.value = false := by
  have apart := orderly.placed.apart
  have below := orderly.placed.below
  have low : image.heap.Low := ⟨by omega, orderly.unforced⟩
  intro addr mem
  refine (low.serve image.memory task.request).2 addr ?_
  change (Heap.allocator.serve task.request (image.heap, image.memory)).1.pointer? = some addr at mem
  generalize (Heap.allocator.serve task.request (image.heap, image.memory)).1 = response at mem ⊢
  cases response with
  | pointer addr => cases mem; rfl
  | freed => cases mem
  | size n => cases mem

/-- The conclusion of a task conserves ownership. -/
lemma Concludes.conserves (concludes : Concludes setup m step request task next)
    (running : m.halted = none) (height : m.stack.length ≤ caller.stack.length)
    (conserves : Conserves setup.route m held dropped) (orderly : m.image.Orderly)
    (serves : task.Serves setup.route m.image.arena request)
    (holds : ∀ pointer ∈ request.givenUp?, Held held pointer) :
    Conserves setup.route next (heldOnce held request (caller.answer? next)) dropped := by
  cases concludes with
  | carried ready =>
    have answers := answers_respond setup (m.carried task) step request (m.image.carryOut task).1
    obtain ⟨memory, carried⟩ := m.carried_eq task
    have same : (m.carried task).halted = m.halted ∧ (m.carried task).stack = m.stack := by
      rw [carried]
      exact ⟨rfl, rfl⟩
    rw [answers.answer?_eq (same.1.trans running) (by rw [same.2]; exact height)]
    exact (conserves.carried orderly serves holds
      (tells_leave _ _ _ (clear_carryOut orderly task))).answers answers
  | aborts failed =>
    rw [answer?_of_halted (Option.some_ne_none _)]
    exact conserves.of_same rfl rfl rfl rfl

/-- A request that needs no symbol is not about the heap. -/
lemma Conserves.unneeded (conserves : Conserves route m held dropped)
    (apart : Heap.base + m.image.heap.capacity ≤ Arena.base)
    (unneeded : route.needed? m.image.arena request = none) (silent : answer.address? = none)
    (holds : ∀ pointer ∈ request.givenUp?, Held held pointer) (resolving : List Symbol) :
    Conserves route m (heldAfter held request answer)
      ((route.drops? resolving request).toList ++ dropped) := by
  have outside := Route.contains_of_unneeded unneeded apart
  have kept : Owned route m.image.heap (heldAfter held request answer) dropped :=
    conserves.owned.foreign holds outside (by simp [silent])
  refine ⟨kept.drop_foreign fun addr drops => ?_, conserves.released⟩
  obtain ⟨pointer, retired, rfl⟩ := Route.exists_of_drops? drops
  exact outside pointer retired

/-- A task that the arena carries out. -/
lemma Conserves.bootstrapped {resolving : List Symbol} (conserves : Conserves route m held dropped)
    (placed : m.image.Placed) (serves : task.Serves route m.image.arena request)
    (running : task.symbol ∈ resolving) (holds : ∀ pointer ∈ request.givenUp?, Held held pointer)
    (tells : Tells route answer (m.image.bootstrap task).1) :
    Conserves route (m.bootstrapped task) (heldAfter held request answer)
      ((route.drops? resolving request).toList ++ dropped) where
  owned := by
    rw [heap_bootstrapped]
    exact conserves.owned.bootstrap placed serves running holds tells
  released := by
    rw [freed, reached_bootstrapped, heap_bootstrapped]
    exact conserves.released

/-- A request that is met conserves ownership, but for what it lets go by. -/
lemma Met.conserves (met : Met setup m step request next) (nested : m.Nested)
    (running : m.halted = none) (height : m.stack.length = caller.stack.length)
    (conserves : Conserves setup.route m held dropped) (orderly : m.image.Orderly)
    (holds : ∀ pointer ∈ request.givenUp?, Held held pointer) :
    Conserves setup.route next (heldOnce held request (caller.answer? next))
      ((setup.route.drops? m.resolving request).toList ++ dropped) := by
  have orderlyEntered (configured : Bool) (reports : List Diagnostic) :
      (m.entered configured reports).image.Orderly :=
    orderly.congr rfl rfl orderly.unforced rfl rfl
  have entered (configured : Bool) (reports : List Diagnostic) :
      Conserves setup.route (m.entered configured reports) held dropped :=
    conserves.of_same rfl rfl rfl rfl
  cases met with
  | known configured reports answer unneeded silent =>
    have answers := answers_deliver (m.entered configured reports) step answer
    rw [answers.answer?_eq running (Nat.le_of_eq height)]
    exact ((entered configured reports).unneeded orderly.placed.apart unneeded silent holds
      m.resolving).answers answers
  | concludes configured reports task serves concludes =>
    have idle : task.symbol ∉ m.resolving := nested.not_mem_resolving concludes.not_resolving
    rw [serves.drops?_eq idle]
    exact concludes.conserves running (Nat.le_of_eq height) (entered configured reports)
      (orderlyEntered configured reports) serves holds
  | bootstrapped configured reports task serves resolving =>
    have answers := answers_respond setup ((m.entered configured reports).bootstrapped task) step
      request ((m.entered configured reports).image.bootstrap task).1
    have placed := (orderlyEntered configured reports).placed
    rw [answers.answer?_eq running (Nat.le_of_eq height)]
    exact ((entered configured reports).bootstrapped placed serves resolving holds
      (tells_leave _ _ _ fun addr mem =>
        (Image.bootstrap_foreign placed task addr mem).1)).answers answers
  | waits configured reports task serves unresolved =>
    have idle : task.symbol ∉ m.resolving :=
      nested.not_mem_resolving (by rw [unresolved]; nofun)
    rw [serves.drops?_eq idle, answer?_of_higher (by rw [← height]; exact Nat.lt_succ_self _)]
    exact conserves.of_same rfl rfl rfl (reached_claimed ..)

/-! ## Calls that wait -/

/-- The pointers that the waiting calls are about to give up. -/
def retiring (m : Machine) : List PresentedAddr :=
  m.stack.filterMap fun frame => frame.job.request?.bind Request.givenUp?

/-- The next call is a careful one: what it gives up is held, and no waiting call is about to give it
up. No answer of the heap is forced. -/
def Careful (m : Machine) (held : List Holding) : Prop :=
  (∀ step ∈ m.next?, step.forced = none) ∧
    ∀ request ∈ m.asked?, ∀ pointer ∈ request.givenUp?, Held held pointer ∧ pointer ∉ m.retiring

instance (m : Machine) (held : List Holding) : Decidable (m.Careful held) :=
  inferInstanceAs (Decidable (_ ∧ _))

/-- The address that the next call lets go by. -/
def drops? (setup : Setup) (m : Machine) : Option RealAddr :=
  m.asked?.bind (setup.route.drops? m.resolving)

/-- The addresses that were let go by in some steps of a session. -/
def strays (setup : Setup) (m : Machine) : Nat → List RealAddr
  | 0 => []
  | n + 1 =>
    match (after setup n m).step setup with
    | none => strays setup m n
    | some _ => ((after setup n m).drops? setup).toList ++ strays setup m n

/-- What the waiting calls are about to give up is held, and no two give up the same. -/
structure Entrusted (m : Machine) (held : List Holding) : Prop where
  once : m.retiring.Nodup
  held : ∀ pointer ∈ m.retiring, Held held pointer

/-- The pointers that waiting calls are about to give up are not null. -/
lemma isNull_of_mem_retiring {pointer : PresentedAddr} (mem : pointer ∈ m.retiring) :
    pointer.isNull = false := by
  obtain ⟨frame, -, given⟩ := List.mem_filterMap.1 mem
  obtain ⟨request, -, given⟩ := Option.bind_eq_some_iff.1 given
  simpa using (Option.filter_eq_some_iff.1 given).2

/-- What is held and not given up stays held. -/
lemma held_heldOnce {pointer : PresentedAddr} (holds : Held held pointer)
    (nonnull : pointer.isNull = false) (other : pointer ∉ request.givenUp?)
    (answer? : Option Answer) : Held (heldOnce held request answer?) pointer := by
  obtain ⟨holding, mem, rfl⟩ := holds
  cases answer? with
  | none => exact ⟨holding, mem, rfl⟩
  | some answer =>
    refine ⟨holding, mem_heldAfter mem (fun retired => other ?_) answer, rfl⟩
    simp [Request.givenUp?, retired, nonnull]

namespace Entrusted

variable (entrusted : Entrusted m held)

include entrusted

/-- Only what the waiting calls are about to give up matters. -/
lemma of_same (retiring : next.retiring = m.retiring) : Entrusted next held :=
  ⟨retiring ▸ entrusted.once, retiring ▸ entrusted.held⟩

/-- An answer to a request that gives up nothing of a waiting call. -/
lemma heldOnce (other : ∀ pointer ∈ request.givenUp?, pointer ∉ m.retiring)
    (answer? : Option Answer) : Entrusted m (heldOnce held request answer?) where
  once := entrusted.once
  held := fun pointer mem => held_heldOnce (entrusted.held pointer mem) (isNull_of_mem_retiring mem)
    (fun given => other pointer given mem) answer?

end Entrusted

/-- Making the next call leaves the same calls waiting. -/
lemma retiring_primed (m : Machine) (step : Step) : (m.begun.primed step).retiring = m.retiring := by
  rw [primed_eq, retiring, retiring]
  unfold begun
  split
  case h_1 eq => rw [eq]
  case h_2 frame stack eq => rw [eq]; rfl

/-- The waiting calls once the innermost resolver has returned. -/
lemma retiring_eq {frame : Frame} {stack : List Frame} (eq : m.stack = frame :: stack) :
    m.retiring = (frame.job.request?.bind Request.givenUp?).toList ++
      (m.published setup frame).retiring := by
  have tail : (m.published setup frame).stack = stack := by simp [published, eq]
  rw [retiring, retiring, eq, tail, List.filterMap_cons]
  split <;> simp [*]

/-- A request that is met leaves the waiting calls to themselves. -/
lemma Met.entrusted (met : Met setup m step request next)
    (height : m.stack.length = caller.stack.length) (entrusted : Entrusted m held)
    (holds : ∀ pointer ∈ request.givenUp?, Held held pointer ∧ pointer ∉ m.retiring) :
    Entrusted next (heldOnce held request (caller.answer? next)) := by
  have returned (stack : next.stack = m.stack) :
      Entrusted next (Machine.heldOnce held request (caller.answer? next)) :=
    (entrusted.heldOnce (fun pointer given => (holds pointer given).2) _).of_same
      (by rw [retiring, stack, retiring])
  cases met with
  | known configured reports answer unneeded silent => exact returned (answers_deliver _ _ _).stack
  | concludes configured reports task serves concludes => exact returned concludes.stack_eq
  | bootstrapped configured reports task serves resolving =>
    exact returned (answers_respond _ _ _ _ _).stack
  | waits configured reports task serves unresolved =>
    rw [answer?_of_higher (by rw [← height]; exact Nat.lt_succ_self _), Machine.heldOnce]
    have retiring : ((m.entered configured reports).claimed setup task.symbol step
        (.request request task)).retiring = request.givenUp?.toList ++ m.retiring := by
      cases given : request.givenUp? <;>
        simp [Machine.retiring, claimed, entered, Job.request?, given]
    constructor
    · rw [retiring]
      refine List.nodup_append.2 ⟨?_, entrusted.once, ?_⟩
      · cases request.givenUp? <;> simp
      · rintro pointer given _ mem rfl
        exact (holds pointer (Option.mem_toList.1 given)).2 mem
    · rw [retiring]
      intro pointer mem
      obtain given | mem := List.mem_append.1 mem
      · exact (holds pointer (Option.mem_toList.1 given)).1
      · exact entrusted.held pointer mem

/-! ## The steps of a session -/

/-- What the callers hold after a step that works on a request. -/
lemma tally_of_served (served : m.served? = some request) :
    m.tally next held = heldOnce held request (m.answer? next) := by
  rw [tally, served]
  cases m.answer? next <;> rfl

/-- A step that works on no request changes nothing of what the callers hold. -/
lemma tally_of_unserved (unserved : m.served? = none) : m.tally next held = held := by
  rw [tally, unserved]

/-- A call that asks nothing is not about a request. -/
lemma served?_of_not_asks (call : m.next? = some step) (asks : ¬Asks step.call) :
    m.served? = none := by
  simp only [served?, call]
  unfold request?
  split
  case h_1 r kind => exact absurd (.inl ⟨r, kind⟩) asks
  case h_2 size kind => exact absurd (.inr ⟨size, kind⟩) asks
  all_goals rfl

/-- A step that makes a request works on it. -/
lemma served?_of_asked (asked : m.asked? = some request) : m.served? = some request := by
  obtain ⟨step, call, asked⟩ := Option.bind_eq_some_iff.1 asked
  split at asked
  case h_1 operands kind => simpa [served?, call, request?, kind] using asked
  case h_2 => cases asked

/-- Making the next call changes nothing of the image, unless it forces an answer. -/
lemma image_primed_of_unforced (unforced : step.forced = none) :
    (m.begun.primed step).image = m.image := by
  rw [image_primed, unforced]
  rfl

/-- An answer leaves the same calls waiting. -/
lemma Answers.retiring_eq (answers : Answers m next answer) : next.retiring = m.retiring := by
  rw [retiring, answers.stack, retiring]

/-- Making the next call changes nothing of what is owned. -/
lemma Conserves.primed (conserves : Conserves route m held dropped) (step : Step) :
    Conserves route (m.begun.primed step) held dropped := by
  refine conserves.of_same ?_ ?_ ?_ (reached_primed m step)
  all_goals rw [image_primed]
  rfl

/-- A resolver that returns changes nothing of what is owned. -/
lemma Conserves.published (conserves : Conserves route m held dropped) (setup : Setup)
    (frame : Frame) : Conserves route (m.published setup frame) held dropped :=
  conserves.of_same rfl rfl rfl (reached_published setup m frame)

/-- A chunk that is taken from the arena is no block of the heap. -/
lemma Conserves.takes (conserves : Conserves setup.route m held dropped)
    (placed : m.image.Placed) (size : UInt64) :
    Conserves setup.route { m with image := (m.image.arenaAlloc size).2 }
      (heldAfter held (.malloc size) (.chunk (if (m.image.arenaAlloc size).1.isNull then none
        else some (m.image.arenaAlloc size).1.value))) dropped := by
  obtain ⟨clear, outside⟩ := Image.arenaAlloc_foreign placed size
  obtain ⟨arena, memory, chunks, same⟩ := m.image.arenaAlloc_same size
  have kept : Conserves setup.route { m with image := (m.image.arenaAlloc size).2 } held
      dropped := by
    rw [same]
    exact conserves.of_same rfl rfl rfl rfl
  refine ⟨kept.owned.foreign (fun _ given => by cases given) (fun _ given => by cases given) ?_,
    kept.released⟩
  rw [same]
  intro value told
  simp only [Answer.address?] at told
  split at told <;> cases told
  rw [Route.addressOf, Route.resolve_of_clear clear]
  exact outside

/-- A step conserves ownership, and leaves the waiting calls to themselves. -/
theorem Proper.custody_step (layered : ∀ config, setup.route ≠ .direct config)
    (proper : Proper setup m) (orderly : m.image.Orderly)
    (conserves : Conserves setup.route m held dropped) (entrusted : Entrusted m held)
    (careful : m.Careful held) (h : m.step setup = some next) :
    Conserves setup.route next (m.tally next held) ((m.drops? setup).toList ++ dropped) ∧
      Entrusted next (m.tally next held) := by
  obtain ⟨running, -⟩ := step_cases h
  have quiet (unasked : m.asked? = none) : (m.drops? setup).toList ++ dropped = dropped := by
    rw [drops?, unasked]
    rfl
  have began (step : Step) : (m.begun.primed step).halted = none :=
    (m.halted_primed step).trans running
  cases proper.course layered h with
  | answered step image answer call asks heap arena chunks table events silent =>
    have answers := answers_deliver { m.begun.primed step with image } step answer
    rw [quiet (asked?_of_not_asks call asks), tally_of_unserved (served?_of_not_asks call asks)]
    have reached : ({ m.begun.primed step with image } : Machine).reached =
        (m.begun.primed step).reached := by
      simp only [reached, history, events, image_primed]
    refine ⟨?_, entrusted.of_same (answers.retiring_eq.trans (retiring_primed m step))⟩
    exact ((conserves.primed step).of_same (by rw [heap]) (by rw [heap]) (by rw [heap])
      reached).answers answers
  | takes step size call kind =>
    have served : m.served? = some (.malloc size) := by simp [served?, call, request?, kind]
    have unasked : m.asked? = none := by simp [asked?, call, kind]
    have answers := answers_deliver { m.begun.primed step with
      image := ((m.begun.primed step).image.arenaAlloc size).2 } step
      (.chunk (if ((m.begun.primed step).image.arenaAlloc size).1.isNull then none
        else some ((m.begun.primed step).image.arenaAlloc size).1.value))
    have placed : (m.begun.primed step).image.Placed := by
      rw [image_primed_of_unforced (careful.1 step call)]
      exact orderly.placed
    have taken := (conserves.primed step).takes placed size
    have other : ∀ pointer ∈ (Request.malloc size : Request PresentedAddr).givenUp?,
        pointer ∉ m.retiring := fun _ given => by cases given
    rw [quiet unasked, tally_of_served served,
      answers.answer?_eq (began step) (Nat.le_of_eq (m.length_primed step))]
    refine ⟨taken.answers answers, (entrusted.heldOnce other _).of_same ?_⟩
    exact answers.retiring_eq.trans (retiring_primed m step)
  | looks step s call kind unresolved =>
    have unserved : m.served? = none := by simp [served?, call, request?, kind]
    have unasked : m.asked? = none := by simp [asked?, call, kind]
    rw [quiet unasked, tally_of_unserved unserved]
    refine ⟨(conserves.primed step).of_same rfl rfl rfl (reached_claimed ..), ?_⟩
    exact entrusted.of_same (retiring_primed m step)
  | requests step operands call kind met =>
    have asked := asked?_of_request call kind
    have holds := careful.2 _ asked
    have height := m.length_primed step
    rw [tally_of_served (served?_of_asked asked), drops?, asked, Option.bind_some, ← resolving_primed m step]
    constructor
    · refine met.conserves (proper.nested.primed step) (began step) height
        (conserves.primed step) ?_ fun pointer given => (holds pointer given).1
      rwa [image_primed_of_unforced (careful.1 step call)]
    · refine met.entrusted height (entrusted.of_same (retiring_primed m step)) ?_
      rwa [retiring_primed]
  | finds frame stack answer returns eq job silent =>
    have answers := answers_deliver (m.published setup frame) frame.step answer
    have unserved : m.served? = none := by simp [served?, returns, eq, job, Job.request?]
    have same : (m.published setup frame).retiring = m.retiring := by
      rw [retiring_eq eq, job]
      rfl
    rw [quiet (asked?_of_returns returns), tally_of_unserved unserved]
    refine ⟨?_, entrusted.of_same (answers.retiring_eq.trans same)⟩
    exact (conserves.published setup frame).answers answers
  | @resumes frame stack request task _ returns eq job serves symbol concludes =>
    have served : m.served? = some request := by simp [served?, returns, eq, job, Job.request?]
    have retiring : m.retiring = request.givenUp?.toList ++ (m.published setup frame).retiring := by
      rw [retiring_eq eq, job]
      rfl
    obtain ⟨-, once, apart⟩ := List.nodup_append.1 (retiring ▸ entrusted.once)
    -- the call has kept its pointer since it was made, and goes on before the calls below it
    have left : Entrusted (m.published setup frame) held :=
      ⟨once, fun pointer mem => entrusted.held pointer (retiring ▸ List.mem_append_right _ mem)⟩
    rw [quiet (asked?_of_returns returns), tally_of_served served]
    constructor
    · refine concludes.conserves running ?_ (conserves.published setup frame)
        (orderly.congr rfl rfl orderly.unforced rfl rfl) serves fun pointer given => ?_
      · simp [published]
      · exact entrusted.held pointer
          (retiring ▸ List.mem_append_left _ (Option.mem_toList.2 given))
    · refine (left.heldOnce (fun pointer given mem => ?_) _).of_same ?_
      · exact apart pointer (Option.mem_toList.2 given) pointer mem rfl
      · rw [Machine.retiring, concludes.stack_eq, Machine.retiring]

/-! ## Memory that is refused -/

/-- A task whose conclusion refuses memory leaves the live blocks as they are. -/
lemma Concludes.live_of_refused (concludes : Concludes setup m step request task next)
    (orderly : m.image.Orderly) (distinct : m.image.heap.Distinct) (running : next.halted = none)
    (refused : next.lastAnswer? = some (.pointer 0)) :
    next.image.heap.live = m.image.heap.live := by
  cases concludes with
  | carried ready =>
    have answers := answers_respond setup (m.carried task) step request (m.image.carryOut task).1
    have grants : m.image.heap.Grants task.request (m.image.carryOut task).1
        (m.carried task).image.heap := by
      rw [heap_carried]
      exact Heap.grants_serve distinct orderly.heap m.image.memory task.request
    have tells : Tells setup.route (.ofResponse
        (setup.route.leave setup.access (m.carried task).image request
          (m.image.carryOut task).1).1) (m.image.carryOut task).1 :=
      tells_leave _ _ _ (clear_carryOut orderly task)
    rw [answers.last, Option.some.injEq] at refused
    rw [refused] at tells
    rw [tells.refused rfl] at grants
    rw [answers.heap, grants.eq_of_refused orderly.heap]
  | aborts failed => cases running

/-- A step that answers with null leaves the live blocks as they are. -/
theorem Proper.live_of_refused (layered : ∀ config, setup.route ≠ .direct config)
    (proper : Proper setup m) (orderly : m.image.Orderly) (distinct : m.image.heap.Distinct)
    (unforced : ∀ step ∈ m.next?, step.forced = none) (h : m.step setup = some next)
    (refused : m.answer? next = some (.pointer 0)) :
    next.image.heap.live = m.image.heap.live := by
  unfold answer? at refused
  split at refused
  case isFalse => cases refused
  case isTrue returned =>
    cases proper.course layered h with
    | answered step image answer call asks heap arena chunks table events silent =>
      rw [(answers_deliver _ _ _).heap, heap, image_primed]
    | takes step size call kind =>
      rw [(answers_deliver _ _ _).last] at refused
      cases refused
    | looks step s call kind unresolved =>
      change (m.begun.primed step).image.heap.live = _
      rw [image_primed]
    | requests step operands call kind met =>
      have image := image_primed_of_unforced (m := m) (unforced step call)
      rw [← image]
      cases met with
      | known configured reports answer unneeded silent => rw [(answers_deliver _ _ _).heap]; rfl
      | concludes configured reports task serves concludes =>
        have orderly : (m.begun.primed step).image.Orderly := by rwa [image]
        have distinct : (m.begun.primed step).image.heap.Distinct := by rwa [image]
        exact concludes.live_of_refused (orderly.congr rfl rfl orderly.unforced rfl rfl) distinct
          returned.1 refused
      | bootstrapped configured reports task serves resolving =>
        rw [(answers_respond _ _ _ _ _).heap, heap_bootstrapped]
        rfl
      | waits configured reports task serves unresolved => rfl
    | finds frame stack answer returns eq job silent =>
      rw [(answers_deliver _ _ _).heap]
      rfl
    | resumes frame stack returns eq job serves symbol concludes =>
      exact concludes.live_of_refused (orderly.congr rfl rfl orderly.unforced rfl rfl) distinct
        returned.1 refused

/-- A step that answers with null changes nothing of what the callers hold. -/
lemma tally_of_refused (refused : m.answer? next = some (.pointer 0)) :
    m.tally next held = held := by
  rw [tally, refused]
  split
  case h_1 same =>
    cases same
    exact heldAfter_null rfl
  case h_2 => rfl

/-! ## Every state of a session -/

/-- At the start nobody owns anything. -/
lemma conserves_start (route : Route) (heapCapacity capacity : Nat) (script : List Step) :
    Conserves route (start (.fresh heapCapacity capacity) script) [] [] where
  owned := ⟨⟨.nil, List.forall_mem_nil _⟩, .nil⟩
  released := ⟨.nil, List.forall_mem_nil _, List.forall_mem_nil _⟩

/-- Ownership is conserved in every state of a session. -/
theorem custody_after (layered : ∀ config, setup.route ≠ .direct config)
    {heapCapacity capacity : Nat} (apart : Heap.base + heapCapacity ≤ Arena.base)
    (below : Arena.base + capacity < 2 ^ 48) (script : List Step) {n : Nat} :
    let first := start (.fresh heapCapacity capacity) script
    (∀ i < n, (after setup i first).Careful (ledger setup first i)) →
      ∀ i ≤ n, (after setup i first).image.Orderly ∧
        Conserves setup.route (after setup i first) (ledger setup first i) (strays setup first i) ∧
        Entrusted (after setup i first) (ledger setup first i) := by
  intro first careful i le
  have sound : first.Sound capacity False := Sound.start apart below script
  -- on the states: a step needs the waiting calls' pointers to be held to conserve ownership
  induction i with
  | zero =>
    refine ⟨⟨sound.placed, Nat.zero_le _, rfl⟩, ?_, .nil, List.forall_mem_nil _⟩
    exact conserves_start setup.route heapCapacity capacity script
  | succ i ih =>
    obtain ⟨orderly, conserves, entrusted⟩ := ih (Nat.le_of_succ_le le)
    have proper : Proper setup (after setup i first) :=
      (Proper.start setup heapCapacity capacity script).after layered i
    rw [after_succ, ledger, strays]
    cases h : (after setup i first).step setup with
    | none => exact ⟨orderly, conserves, entrusted⟩
    | some next =>
      have served := served_step layered orderly (sound.after layered i False.elim).jobs
        (careful i le).1 h
      exact ⟨served.growth.orderly,
        proper.custody_step layered orderly conserves entrusted (careful i le) h⟩

/-- Ownership is conserved. Take any session over the symbol table, with or without the interposer
above it, any arena and any resolvers, whatever they call, and any state that it passes through. The
heap lies below the arena and the arena below the tag bits; the heap answers by itself, and what
callers give up, they hold, and no waiting call is about to give it up. Then

* the live blocks of the heap are those behind the pointers that are held, and those that were given
  up while the resolver of `free` was running, each of them once;
* what was freed was live and is freed once;
* a step that answers with null changes neither the live blocks nor what is held. -/
theorem conserved {setup : Setup} (layered : ∀ config, setup.route ≠ .direct config)
    {heapCapacity capacity : Nat} (apart : Heap.base + heapCapacity ≤ Arena.base)
    (below : Arena.base + capacity < 2 ^ 48) (script : List Step) (n : Nat) :
    let first := start (.fresh heapCapacity capacity) script
    let state := fun i => after setup i first
    let held := fun i => ledger setup first i
    let heap := (state n).image.heap
    (∀ i < n, (state i).Careful (held i)) →
      (heap.addrs.Nodup ∧ heap.addrs.Perm (owned setup.route heap (held n) ++
        (strays setup first n).filter heap.contains)) ∧
      ((((state n).freed.map (·.1)).filter heap.contains).Nodup ∧
        ∀ entry ∈ (state n).freed, heap.contains entry.1 = true → entry.2 = true) ∧
      ∀ i < n, ∀ next, (state i).step setup = some next →
        (state i).answer? next = some (.pointer 0) →
          next.image.heap.live = (state i).image.heap.live ∧ held (i + 1) = held i := by
  intro first state held heap careful
  have custody := custody_after layered apart below script careful
  obtain ⟨-, conserves, -⟩ := custody n (Nat.le_refl n)
  refine ⟨⟨conserves.owned.distinct.nodup, conserves.owned.perm⟩,
    ⟨conserves.released.once, conserves.released.known⟩, fun i lt next h refused => ⟨?_, ?_⟩⟩
  · obtain ⟨orderly, conserves, -⟩ := custody i (Nat.le_of_lt lt)
    have proper : Proper setup (state i) :=
      (Proper.start setup heapCapacity capacity script).after layered i
    exact proper.live_of_refused layered orderly conserves.owned.distinct (careful i lt).1 h refused
  · change ledger setup first (i + 1) = _
    rw [ledger, show (after setup i first).step setup = some next from h]
    exact tally_of_refused refused

/-- A process whose loader takes a block to resolve `free`, and frees it. -/
def carelessLoader : Setup where
  route := .layered .default
  access := .tagIgnoring
  resolver
    | .free => ⟨.ok, none, [⟨.request (.malloc 8), some "p", none⟩,
      ⟨.request (.free (.label "p")), none, none⟩]⟩
    | _ => ⟨.ok, none, []⟩

/-- A script that takes a block, asks for more than there is, moves the block and frees it. -/
def moveAndFree : List Step :=
  [⟨.request (.malloc 24), some "a", none⟩, ⟨.request (.realloc (.label "a") 100000), none, none⟩,
    ⟨.request (.realloc (.label "a") 40), some "b", none⟩,
    ⟨.request (.free (.label "b")), none, none⟩]

/-- The states of the careless loader's process. -/
def carelessRun (i : Nat) : Machine :=
  after carelessLoader i (start (.fresh 65536 1024) moveAndFree)

/-- The careless loader: the block that it frees is the only one that stays, and what the heap frees
is the application's block. -/
theorem conserved_careless :
    (∀ i < 9, (carelessRun i).Careful
      (ledger carelessLoader (start (.fresh 65536 1024) moveAndFree) i)) ∧
      ledger carelessLoader (start (.fresh 65536 1024) moveAndFree) 9 = [] ∧
      (carelessRun 9).image.heap.addrs.Perm [⟨0x100000000050⟩] ∧
      (carelessRun 9).freed = [(⟨0x100000000020⟩, true)] ∧
      (carelessRun 4).image.heap.live = (carelessRun 3).image.heap.live := by
  have careful : ∀ i < 9, (carelessRun i).Careful
      (ledger carelessLoader (start (.fresh 65536 1024) moveAndFree) i) := by decide
  obtain ⟨⟨-, perm⟩, -, refused⟩ :=
    @conserved carelessLoader nofun 65536 1024 (by decide) (by decide) moveAndFree 9 careful
  have stays := perm.trans (.of_eq (by decide : _ = [⟨0x100000000050⟩]))
  exact ⟨careful, by decide, stays, by decide,
    (refused 3 (by decide) (carelessRun 4) rfl (by decide)).1⟩

end PointerTagging.Session.Machine
