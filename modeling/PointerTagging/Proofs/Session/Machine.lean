import PointerTagging.Proofs.Session.Image
import PointerTagging.Session.Machine

/-!
# What a session keeps

The states that a session passes through (`Machine.after`), and what holds in all of them
(`Machine.Sound`): nothing that was passed to the heap is an address of the arena, no waiting call
will pass one, and chunk headers hold the requested sizes. There is one lemma for each function of
the machine, the step lemma `Sound.step` and the run lemma `Sound.after`.
-/

namespace PointerTagging.Session

open Image

/-- A waiting call passes no address of the arena to the heap. -/
inductive Job.Sound (arena : Arena) : Job → Prop where
  | lookup : Sound arena .lookup
  | request {request : Request PresentedAddr} {task : Task} (sound : task.Sound arena request) :
    Sound arena (.request request task)

/-- Soundness depends on the capacity of the arena only. -/
lemma Job.Sound.congr {arena arena' : Arena} {job : Job} (sound : job.Sound arena)
    (capacity : arena'.capacity = arena.capacity) : job.Sound arena' := by
  cases sound with
  | lookup => exact .lookup
  | request sound => exact .request (sound.congr capacity)

/-- The answer that stands for a response. -/
def Answer.ofResponse : Response PresentedAddr → Answer
  | .pointer addr => .pointer addr.value
  | .freed => .freed
  | .size n => .size n

namespace Machine

variable {setup : Setup} {capacity : Nat} {tidy : Prop} {m m' : Machine}

/-! ## States and events of a session -/

/-- The machine after at most `n` steps: a session that is over stays as it is. -/
def after (setup : Setup) : Nat → Machine → Machine
  | 0, m => m
  | n + 1, m =>
    match m.step setup with
    | none => m
    | some next => after setup n next

/-- Everything that has happened in a session. -/
def history (m : Machine) : List Event := m.answered.flatMap (·.events) ++ m.image.events

/-- The heap has kept the contract of a real allocator. -/
def Honest (m : Machine) : Prop := ∀ event ∈ m.history, event.Honest m.image.arena

instance (m : Machine) : Decidable m.Honest :=
  inferInstanceAs (Decidable (∀ event ∈ m.history, event.Honest m.image.arena))

/-- The next call, if the session is not over. -/
def next? (m : Machine) : Option Step :=
  match m.stack with
  | [] => m.todo.head?
  | frame :: _ => frame.script.head?

/-- The call does not store to the header of a chunk, which belongs to no caller. -/
def Spares (setup : Setup) (m : Machine) (call : Call) : Prop :=
  match call with
  | .write target bytes =>
    m.image.Avoids (setup.route.resolve (m.value target)).toNat bytes.length
  | _ => True

instance (setup : Setup) (m : Machine) : (call : Call) → Decidable (m.Spares setup call)
  | .write target bytes =>
    inferInstanceAs (Decidable (Arena.Avoids m.image.chunks
      (setup.route.resolve (m.value target)).toNat bytes.length))
  | .request _ | .read _ _ | .lookup _ | .arenaAlloc _ | .arenaContains _ | .arenaUsable _ | .stats
  | .config => isTrue trivial

/-- The next call does not store to the header of a chunk. -/
def Tidy (setup : Setup) (m : Machine) : Prop := ∀ step ∈ m.next?, m.Spares setup step.call

instance (setup : Setup) (m : Machine) : Decidable (m.Tidy setup) :=
  inferInstanceAs (Decidable (∀ step ∈ m.next?, m.Spares setup step.call))

/-- What holds in every state of a session over the symbol table. -/
structure Sound (capacity : Nat) (tidy : Prop) (m : Machine) : Prop where
  capacity : m.image.arena.capacity = capacity
  placed : m.image.Placed
  apart : ∀ event ∈ m.history, ∀ addr ∈ event.passed?, m.image.arena.contains addr = false
  jobs : ∀ frame ∈ m.stack, frame.job.Sound m.image.arena
  intact : tidy → m.Honest → m.image.Intact

/-- An operation on the image adds to the history. -/
lemma exists_history {image : Image} {safe : Prop} (m : Machine)
    (follows : Follows safe m.image image) :
    ∃ new, ({ m with image } : Machine).history = m.history ++ new ∧
      ∀ event ∈ new, ∀ addr ∈ event.passed?, m.image.arena.contains addr = false := by
  obtain ⟨new, events, apart⟩ := follows.events
  exact ⟨new, by simp only [history, events, List.append_assoc], apart⟩

/-- A heap that has kept its contract had kept it before. -/
lemma Honest.of_follows {image : Image} {safe : Prop} (follows : Follows safe m.image image)
    (honest : ({ m with image } : Machine).Honest) : m.Honest := by
  obtain ⟨new, history, _⟩ := m.exists_history follows
  intro event mem
  refine (honest event ?_).congr follows.capacity.symm
  rw [history]
  exact List.mem_append_left _ mem

/-- A response is delivered as it leaves the interposer. -/
lemma respond_eq (setup : Setup) (m : Machine) (step : Step) (request : Request PresentedAddr)
    (response : Response RealAddr) :
    m.respond setup step request response =
      { m with image := (setup.route.leave setup.access m.image request response).2 }.deliver step
        (.ofResponse (setup.route.leave setup.access m.image request response).1) := by
  unfold respond
  generalize setup.route.leave setup.access m.image request response = left
  obtain ⟨presented, image⟩ := left
  cases presented <;> rfl

/-- Setting a range to zero leaves the heap's blocks as they are. -/
lemma heap_clear (image : Image) (access : Access) (tag : Tag) (addr : PresentedAddr)
    (len : UInt64) : (image.clear access tag addr len).heap = image.heap := by
  unfold clear
  split <;> rfl

/-- An answer on its way up leaves the heap's blocks as they are. -/
lemma heap_leave (route : Route) (access : Access) (image : Image) (request : Request PresentedAddr)
    (response : Response RealAddr) :
    (route.leave access image request response).2.heap = image.heap := by
  unfold Route.leave
  split
  · rfl
  · dsimp only
    split
    · exact heap_clear _ _ _ _ _
    · rfl

/-- Straight over the heap, a session serves a request as the interposer over an allocator does. -/
theorem request_direct {config : Config} (route : setup.route = .direct config) (m : Machine)
    (step : Step) (request : Request PresentedAddr) :
    ∃ image : Image,
      image.heap = (Interposer.serve Heap.allocator config request
        (m.image.heap, m.image.memory)).2.1 ∧
      m.request setup step request = { m with image }.deliver step
        (.ofResponse (Interposer.serve Heap.allocator config request
          (m.image.heap, m.image.memory)).1) := by
  unfold Machine.request Interposer.serve
  simp only [route, Route.enter, Route.config?, Route.plan]
  cases Interposer.forward config request with
  | error response =>
    refine ⟨m.image, rfl, ?_⟩
    cases response <;> rfl
  | ok real =>
    let reached := (m.image.report (Interposer.traceBefore config request)).real real
    refine ⟨(setup.route.leave setup.access reached.2 request reached.1).2, ?_, ?_⟩
    · exact heap_leave _ _ _ _ _
    · dsimp only
      rw [respond_eq, route]
      rfl

namespace Sound

/-- A machine that differs in labels, in what is left to play, or in how the events are split. -/
lemma of_same (sound : m.Sound capacity tidy) (heap : m'.image.heap.capacity = m.image.heap.capacity)
    (arena : m'.image.arena = m.image.arena) (chunks : m'.image.chunks = m.image.chunks)
    (memory : m'.image.memory = m.image.memory) (history : m'.history = m.history)
    (jobs : ∀ frame ∈ m'.stack, frame.job.Sound m.image.arena) : m'.Sound capacity tidy where
  capacity := by rw [arena, sound.capacity]
  placed := by
    obtain ⟨apart, below, within, tiles⟩ := sound.placed
    constructor
    · rwa [heap]
    · rwa [arena]
    · rwa [arena]
    · rwa [arena, chunks]
  apart := by
    rw [history, arena]
    exact sound.apart
  jobs := by rwa [arena]
  intact := by
    rw [Honest, history, arena, Intact, memory, chunks]
    exact sound.intact

/-- A machine whose image went through an operation. -/
lemma of_follows (sound : m.Sound capacity tidy) {image : Image} {safe : Prop}
    (follows : Follows safe m.image image)
    (h : tidy → ({ m with image } : Machine).Honest → safe) :
    ({ m with image } : Machine).Sound capacity tidy := by
  obtain ⟨new, history, apart⟩ := m.exists_history follows
  constructor
  case capacity => exact follows.capacity.trans sound.capacity
  case placed => exact follows.placed sound.placed
  case apart =>
    intro event mem addr passed
    rw [history, List.mem_append] at mem
    rw [Arena.contains_congr follows.capacity]
    rcases mem with mem | mem
    · exact sound.apart event mem addr passed
    · exact apart event mem addr passed
  case jobs => exact fun frame mem => (sound.jobs frame mem).congr follows.capacity
  case intact =>
    exact fun ht honest =>
      follows.intact (h ht honest) sound.placed (sound.intact ht (honest.of_follows follows))

/-- A machine whose image went through an operation that is always safe. -/
lemma of_safe (sound : m.Sound capacity tidy) {image : Image} (follows : Follows True m.image image) :
    ({ m with image } : Machine).Sound capacity tidy := sound.of_follows follows fun _ _ => trivial

/-! ### The functions of the machine -/

/-- A label changes nothing else. -/
lemma label (sound : m.Sound capacity tidy) (step : Step) (answer : Answer) :
    (m.label step answer).Sound capacity tidy := by
  unfold Machine.label
  split <;> exact sound.of_same rfl rfl rfl rfl rfl sound.jobs

/-- An answer takes the events along. -/
lemma deliver (sound : m.Sound capacity tidy) (step : Step) (answer : Answer) :
    (m.deliver step answer).Sound capacity tidy := by
  have labelled := sound.label step answer
  unfold Machine.deliver
  dsimp only
  split
  case h_1 =>
    refine labelled.of_same rfl rfl rfl rfl ?_ labelled.jobs
    simp only [Machine.history, List.flatMap_append, List.flatMap_cons, List.flatMap_nil,
      List.append_nil]
  case h_2 frame _ _ =>
    have unforced : Follows True (m.label step answer).image { (m.label step answer).image with
        heap := { (m.label step answer).image.heap with
          forced := if step.forced.isSome then none else (m.label step answer).image.heap.forced } } :=
      .of_same rfl rfl rfl rfl rfl
    exact labelled.of_safe
      (unforced.andSafe (follows_record _ (.inside frame.symbol step.call answer) rfl))

/-- A response is delivered once it has passed the interposer. -/
lemma respond (sound : m.Sound capacity tidy) (step : Step) (request : Request PresentedAddr)
    (response : Response RealAddr)
    (accepts : tidy → m.Honest → m.image.Accepts request.wanted response) :
    (m.respond setup step request response).Sound capacity tidy := by
  have follows := Route.follows_leave setup.route setup.access m.image request response
  unfold Machine.respond
  exact deliver (sound.of_follows follows fun ht honest => accepts ht (honest.of_follows follows)) _ _

/-- A call whose symbol is known goes on. -/
lemma resume (sound : m.Sound capacity tidy) (s : Symbol) (step : Step) {job : Job}
    (waits : job.Sound m.image.arena) (found : Lookup) :
    (m.resume setup s step job found).Sound capacity tidy := by
  unfold Machine.resume
  cases waits with
  | lookup => cases found <;> exact sound.deliver _ _
  | @request request task waits =>
    cases found with
    | ready addr =>
      have follows := follows_carryOut m.image waits.apart
      -- the answer is part of the history from now on, so an honest history makes it safe
      have answered (honest : ({ m with image := (m.image.carryOut task).2 } : Machine).Honest) :
          ∀ event ∈ (m.image.carryOut task).2.events, event.Honest m.image.arena :=
        fun event mem => (honest event (List.mem_append_right _ mem)).congr follows.capacity.symm
      refine respond (sound.of_follows follows fun _ => answered) _ _ _ fun _ honest => ?_
      rw [← waits.wanted]
      exact (accepts_carryOut sound.placed (answered honest)).congr (chunks_carryOut _ _)
    | bootstrapping =>
      obtain ⟨follows, accepts⟩ := follows_bootstrap m.image task
      refine respond (sound.of_safe follows) _ _ _ fun _ _ => ?_
      rw [← waits.wanted]
      exact accepts sound.placed
    | failed => exact sound.of_same rfl rfl rfl rfl rfl sound.jobs

/-- A call waits for its symbol, or goes on at once. -/
lemma lookup (sound : m.Sound capacity tidy) (s : Symbol) (step : Step) {job : Job}
    (waits : job.Sound m.image.arena) : (m.lookup setup s step job).Sound capacity tidy := by
  unfold Machine.lookup
  dsimp only
  split
  · exact sound.resume s step waits _
  · exact sound.resume s step waits _
  · split
    · exact sound.resume s step waits _
    · exact sound.of_same rfl rfl rfl rfl rfl sound.jobs
  · have claimed := follows_table m.image (m.image.table.claim s)
    have recorded := sound.of_safe
      (claimed.andSafe (follows_record _ (.resolve s) rfl))
    exact recorded.of_same rfl rfl rfl rfl rfl (List.forall_mem_cons.2 ⟨waits, recorded.jobs⟩)

/-- A request is answered, or waits for its symbol. -/
lemma request (layered : ∀ config, setup.route ≠ .direct config) (sound : m.Sound capacity tidy)
    (step : Step) (request : Request PresentedAddr) :
    (m.request setup step request).Sound capacity tidy := by
  have entered := sound.of_safe (Route.follows_enter setup.route m.image request)
  unfold Machine.request
  split <;> rename_i h <;> rw [h] at entered
  · exact entered.deliver _ _
  · exact entered.deliver _ _
  · exact entered.deliver _ _
  · rename_i real image
    rw [Route.plan_eq layered]
    split <;> rename_i h' <;> obtain ⟨plan, rfl⟩ := Prod.mk.inj h'
    · exact entered.respond _ _ _ fun _ _ => accepts_plan plan _
    · exact entered.lookup _ _ (.request (sound_plan (Route.wanted_enter h) plan))

/-- A call is answered, or waits for its symbol. -/
lemma call (layered : ∀ config, setup.route ≠ .direct config) (sound : m.Sound capacity tidy)
    (step : Step) (spares : tidy → m.Spares setup step.call) :
    (m.call setup step).Sound capacity tidy := by
  unfold Machine.call
  -- forcing an answer of the heap touches neither the arena nor the events
  have start : (if step.forced.isSome then
      { m with image := { m.image with heap := { m.image.heap with forced := step.forced } } }
      else m).Sound capacity tidy ∧ (tidy → (if step.forced.isSome then
      { m with image := { m.image with heap := { m.image.heap with forced := step.forced } } }
      else m).Spares setup step.call) := by
    split
    · exact ⟨sound.of_same rfl rfl rfl rfl rfl sound.jobs, spares⟩
    · exact ⟨sound, spares⟩
  generalize (if step.forced.isSome then
      { m with image := { m.image with heap := { m.image.heap with forced := step.forced } } }
      else m) = m at start
  obtain ⟨sound, spares⟩ := start
  cases h : step.call with
  | request r => exact sound.request layered _ _
  | write target bytes =>
    rw [h] at spares
    dsimp only
    split
    · have write : Follows (m.image.Avoids (setup.route.resolve (m.value target)).toNat bytes.length)
          m.image { m.image with
            memory := m.image.memory.write (setup.route.resolve (m.value target)).toNat bytes } :=
        .of_write rfl rfl rfl rfl fun a => Memory.byteAt_write_of_not_mem _ bytes
      exact deliver (sound.of_follows write fun ht _ => spares ht) _ _
    · exact sound.deliver _ _
  | read source len =>
    dsimp only
    split <;> exact sound.deliver _ _
  | lookup s => exact sound.lookup s _ .lookup
  | arenaAlloc size => exact (sound.of_safe (follows_arenaAlloc _ size)).deliver _ _
  | arenaContains addr => exact sound.deliver _ _
  | arenaUsable addr => exact sound.deliver _ _
  | stats => exact sound.deliver _ _
  | config => exact (sound.of_safe (Route.follows_configure _ _)).deliver _ _

/-- A resolver returns. -/
lemma settle (sound : m.Sound capacity tidy) (frame : Frame) (waits : frame.job.Sound m.image.arena) :
    (m.settle setup frame).Sound capacity tidy := by
  unfold Machine.settle
  dsimp only
  generalize (if ((setup.resolver frame.symbol).resolution frame.symbol).bound?.isSome then [] else
    [Diagnostic.symbol (((setup.resolver frame.symbol).resolution frame.symbol).complaint
      frame.symbol)]) = reports
  have recorded := (follows_record m.image
    (.resolved frame.symbol (setup.resolver frame.symbol).outcome) rfl).andSafe
      (follows_report _ reports)
  refine resume (sound.of_safe ?_) _ _ ?_ _
  · exact recorded.andSafe (follows_table _ _)
  · exact waits

/-- A step keeps a session sound, and the headers intact if the call that it makes is tidy. -/
theorem step (layered : ∀ config, setup.route ≠ .direct config) (sound : m.Sound capacity tidy)
    (h : m.step setup = some m') (tidies : tidy → m.Tidy setup) : m'.Sound capacity tidy := by
  obtain ⟨image, labels, stack, todo, answered, halted⟩ := m
  cases halted with
  | some halt => cases h
  | none =>
    cases stack with
    | nil =>
      cases todo with
      | nil => cases h
      | cons next todo =>
        cases h
        have popped : Sound capacity tidy ⟨image, labels, [], todo, answered, none⟩ :=
          sound.of_same rfl rfl rfl rfl rfl sound.jobs
        exact popped.call layered next fun ht => tidies ht next rfl
    | cons frame stack =>
      obtain ⟨waits, jobs⟩ := List.forall_mem_cons.1 sound.jobs
      obtain ⟨s, script, step, job⟩ := frame
      cases script with
      | nil =>
        cases h
        have popped : Sound capacity tidy ⟨image, labels, stack, todo, answered, none⟩ :=
          sound.of_same rfl rfl rfl rfl rfl jobs
        exact popped.settle _ waits
      | cons next script =>
        cases h
        have popped : Sound capacity tidy ⟨image, labels, ⟨s, script, step, job⟩ :: stack, todo, answered,
            none⟩ := sound.of_same rfl rfl rfl rfl rfl (List.forall_mem_cons.2 ⟨waits, jobs⟩)
        exact popped.call layered next fun ht => tidies ht next rfl

/-- A session at its start is sound. -/
lemma start {heapCapacity : Nat} (apart : Heap.base + heapCapacity ≤ Arena.base)
    (below : Arena.base + capacity < 2 ^ 48) (script : List Step) :
    (start (.fresh heapCapacity capacity) script).Sound capacity tidy where
  capacity := rfl
  placed := ⟨apart, below, Nat.zero_le _, .nil⟩
  apart := fun _ mem => nomatch mem
  jobs := fun _ mem => nomatch mem
  intact := fun _ _ _ mem => nomatch mem

/-- A session stays sound, and the headers intact if every call that it makes is tidy. -/
theorem after (layered : ∀ config, setup.route ≠ .direct config) (n : Nat)
    (sound : m.Sound capacity tidy)
    (tidies : tidy → ∀ i < n, (Machine.after setup i m).Tidy setup) :
    (Machine.after setup n m).Sound capacity tidy := by
  -- on the steps that are left: the first one is made from a sound state, the others from the next
  induction n generalizing m with
  | zero => exact sound
  | succ n ih =>
    cases h : m.step setup with
    | none => simpa only [Machine.after, h] using sound
    | some next =>
      have tidy : tidy → m.Tidy setup := fun ht => tidies ht 0 (Nat.succ_pos n)
      simp only [Machine.after, h]
      refine ih (sound.step layered h tidy) fun ht i lt => ?_
      simpa only [Machine.after, h] using tidies ht (i + 1) (Nat.succ_lt_succ lt)

end Sound

/-- The machine without the next call, which is then made. -/
def begun (m : Machine) : Machine :=
  match m.stack with
  | [] => { m with todo := m.todo.tail }
  | frame :: stack => { m with stack := { frame with script := frame.script.tail } :: stack }

/-- Making the next call does not stop the session. -/
lemma halted_begun (m : Machine) : m.begun.halted = m.halted := by
  unfold begun
  split <;> rfl

/-- What is true of every running resolver, whatever it still calls, stays true when the next call is
made. -/
lemma forall_mem_begun {p : Frame → Prop} (same : ∀ frame script, p frame → p { frame with script })
    (h : ∀ frame ∈ m.stack, p frame) : ∀ frame ∈ m.begun.stack, p frame := by
  unfold begun
  split
  case h_1 => exact h
  case h_2 frame stack eq =>
    rw [eq] at h
    obtain ⟨top, below⟩ := List.forall_mem_cons.1 h
    exact List.forall_mem_cons.2 ⟨same frame _ top, below⟩

/-- The next call is made. -/
lemma step_eq_call (setup : Setup) {step : Step} (running : m.halted = none)
    (h : m.next? = some step) :
    m.step setup = some (m.begun.call setup step) := by
  obtain ⟨image, labels, stack, todo, answered, halted⟩ := m
  obtain rfl : halted = none := running
  cases stack with
  | nil =>
    cases todo with
    | nil => cases h
    | cons first todo => cases h; rfl
  | cons frame stack =>
    obtain ⟨s, script, waiting, job⟩ := frame
    cases script with
    | nil => cases h
    | cons first script => cases h; rfl

/-- A step makes the next call, or the innermost resolver returns. -/
lemma step_cases {next : Machine} (h : m.step setup = some next) :
    m.halted = none ∧
      ((∃ step, m.next? = some step ∧ next = m.begun.call setup step) ∨
        ∃ frame stack, m.stack = frame :: stack ∧ m.next? = none ∧
          next = ({ m with stack } : Machine).settle setup frame) := by
  obtain ⟨image, labels, stack, todo, answered, halted⟩ := m
  cases halted with
  | some halt => cases h
  | none =>
    refine ⟨rfl, ?_⟩
    cases stack with
    | nil =>
      cases todo with
      | nil => cases h
      | cons first todo => cases h; exact .inl ⟨first, rfl, rfl⟩
    | cons frame stack =>
      obtain ⟨s, script, waiting, job⟩ := frame
      cases script with
      | nil => cases h; exact .inr ⟨_, stack, rfl, rfl, rfl⟩
      | cons first script => cases h; exact .inl ⟨first, rfl, rfl⟩

/-- Steps that follow steps. -/
lemma after_add (setup : Setup) (n k : Nat) (m : Machine) :
    after setup (n + k) m = after setup k (after setup n m) := by
  induction n generalizing m with
  | zero => rw [Nat.zero_add, after]
  | succ n ih =>
    rw [Nat.succ_add]
    cases h : m.step setup with
    | none =>
      have same (i : Nat) : after setup i m = m := by
        cases i with
        | zero => rfl
        | succ i => simp only [after, h]
      simp only [same]
    | some next => simpa only [after, h] using ih next

/-- The last of some steps. -/
lemma after_succ (setup : Setup) (n : Nat) (m : Machine) :
    after setup (n + 1) m = ((after setup n m).step setup).getD (after setup n m) := by
  rw [after_add]
  simp only [after]
  cases (after setup n m).step setup <;> rfl

/-- A session that takes a step goes on from where the step leads. -/
lemma after_succ_of_step {n : Nat} {next : Machine}
    (h : (after setup n m).step setup = some next) :
    after setup (n + 1) m = next := by
  rw [after_succ, h, Option.getD_some]

/-- A session that is played to its end is one after some number of steps. -/
theorem exists_run_eq_after (setup : Setup) (m : Machine) : ∃ n, m.run setup = after setup n m := by
  induction m using run.induct setup with
  | case1 m h =>
    refine ⟨0, ?_⟩
    rw [run]
    split
    · rfl
    · simp_all
  | case2 m next h ih =>
    obtain ⟨n, e⟩ := ih
    refine ⟨n + 1, ?_⟩
    rw [run]
    split
    · simp_all
    · simp_all [after]

end Machine

end PointerTagging.Session
