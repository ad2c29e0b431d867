import PointerTagging.Proofs.Session.Moves
import PointerTagging.Proofs.Session.Needs

/-!
# Reallocation from end to end

A call that reallocates a pointer that is held may wait for a resolver between the moment when it
reads the old size and the one when it copies the bytes. The pointer stays with its caller until the
call ends, and then the bytes that both sizes have room for are behind the new one, or everything is
as it was (`Machine.reallocated`).
-/

namespace PointerTagging.Session.Machine

variable {setup : Setup} {m m' next caller : Machine} {step outer : Step} {task : Task}
  {image : Image} {held : List Holding} {holding : Holding} {size value : UInt64}
  {resolving : List Symbol}

/-! ## The answer -/

/-- Delivering an answer writes to no memory. -/
lemma memory_deliver (m : Machine) (step : Step) (answer : Answer) :
    (m.deliver step answer).image.memory = m.image.memory := by
  obtain ⟨labels, label⟩ := m.label_eq step answer
  unfold deliver
  simp only [label]
  split <;> rfl

/-- The machine has answered a reallocation of what is held with a pointer. -/
structure Relocated (setup : Setup) (image : Image) (resolving : List Symbol) (holding : Holding)
    (size value : UInt64) (next : Machine) : Prop where
  running : next.halted = none
  last : next.lastAnswer? = some (.pointer value)
  null : value = 0 ↔ setup.route.addressOf ⟨value⟩ = .null
  reallocates : image.Reallocates resolving next.image (setup.route.addressOf holding.pointer)
    (setup.route.addressOf ⟨value⟩) holding.size size

/-- The response to a reallocation is delivered. -/
lemma exists_relocated (running : m.halted = none) (step : Step) {target : RealAddr}
    (clear : isEncoded target.value = false)
    (reallocates : image.Reallocates resolving m.image (setup.route.addressOf holding.pointer)
      target holding.size size) :
    ∃ value, Relocated setup image resolving holding size value
      (m.respond setup step (.realloc holding.pointer size) (.pointer target)) := by
  have answers := answers_respond setup m step (.realloc holding.pointer size) (.pointer target)
  obtain ⟨value, told⟩ := exists_leave setup.route setup.access m.image
    (.realloc holding.pointer size) target
  have tells : Tells setup.route (.ofResponse (setup.route.leave setup.access m.image
      (.realloc holding.pointer size) (.pointer target)).1) (.pointer target) :=
    tells_leave _ _ _ (by rintro _ ⟨⟩; exact clear)
  rw [told] at answers tells
  obtain ⟨_, ⟨⟩, rfl, null⟩ := tells
  have memory : (m.respond setup step (.realloc holding.pointer size)
      (.pointer (setup.route.addressOf ⟨value⟩))).image.memory = m.image.memory := by
    rw [respond_eq, memory_deliver]
    unfold Route.leave
    split <;> rfl
  exact ⟨value, answers.halted.trans running, answers.last, null, reallocates.before
    (by rw [answers.heap]) (by rw [answers.heap]) answers.arena answers.chunks memory answers.table⟩

/-! ## The steps of the call -/

/-- What is known of a state that a session reaches while its callers are fair and careful. -/
structure Tended (setup : Setup) (m : Machine) (held : List Holding) : Prop where
  orderly : m.image.Orderly
  distinct : m.image.heap.Distinct
  intact : m.image.Intact
  entrusted : Entrusted m held
  separate : Separate setup.route m.image held
  backed : ∀ holding ∈ held, holding.Backed setup.route m.image

namespace Tended

variable (tended : Tended setup m held) (mem : holding ∈ held)

include tended mem

/-- The size that is read off the header of a chunk is the one that was asked for. -/
lemma kept_eq (plan : m.image.plan (.realloc (setup.route.addressOf holding.pointer) size) =
      .need task) :
    ∀ chunk kept size, task = .move chunk kept size → kept.toNat = holding.size := by
  rintro chunk kept size rfl
  simp only [Image.plan, Arena.usableSize?] at plan
  by_cases inside : m.image.arena.contains (setup.route.addressOf holding.pointer) = true
  · obtain ⟨chunk, mem', addr, asked⟩ := (tended.backed holding mem).chunk inside
    rw [if_pos inside, ← addr] at plan
    cases plan
    rw [tended.intact chunk mem', asked]
  · rw [if_neg inside] at plan
    cases plan

variable {table : SymbolTable} {configured : Bool} {reports : List Diagnostic} {events : List Event}
  (same : m'.image = { m.image with table, configured, reports, events })

include same

/-- The symbol table, the settings, reports and events do not matter to what is held. -/
lemma upheld : m'.image.Orderly ∧ m'.image.heap.Distinct ∧ holding.Backed setup.route m'.image ∧
    ∀ a, holding.Covers setup.route a → m'.image.Taken a := by
  rw [same]
  exact ⟨tended.orderly.congr rfl rfl tended.orderly.unforced rfl rfl, tended.distinct,
    (tended.backed holding mem).of_same rfl rfl rfl (List.Subset.refl _),
    tended.separate.taken holding mem⟩

variable (running : m'.halted = none)
  (serves : task.Serves setup.route m.image.arena (.realloc holding.pointer size))
  (kept : ∀ chunk kept size, task = .move chunk kept size → kept.toNat = holding.size)

include running serves kept

/-- A reallocation whose task concludes aborts or is answered. -/
lemma relocated_of_concludes
    (concludes : Concludes setup m' step (.realloc holding.pointer size) task next) :
    next.Aborted ∨ ∃ value, Relocated setup m.image m.resolving holding size value next := by
  obtain ⟨orderly, distinct, backed, taken⟩ := tended.upheld mem same
  cases concludes with
  | carried ready =>
    have serves : task.Serves setup.route m'.image.arena (.realloc holding.pointer size) := by
      rwa [same]
    obtain ⟨target, response, reallocates⟩ :=
      Image.reallocates_carryOut orderly distinct backed serves kept taken ready
    have clear := clear_carryOut orderly task
    obtain ⟨memory, carried⟩ := m'.carried_eq task
    have running : (m'.carried task).halted = none := by rw [carried, running]
    rw [response] at clear ⊢
    exact .inr (exists_relocated running step (clear target rfl) (reallocates.after same))
  | aborts failed => exact .inl ⟨_, rfl⟩

/-- A reallocation that the arena carries out is answered. -/
lemma relocated_of_bootstrap (resolving : task.symbol ∈ m.resolving) :
    ∃ value, Relocated setup m.image m.resolving holding size value
      ((m'.bootstrapped task).respond setup step (.realloc holding.pointer size)
        (m'.image.bootstrap task).1) := by
  obtain ⟨orderly, -, backed, taken⟩ := tended.upheld mem same
  have serves : task.Serves setup.route m'.image.arena (.realloc holding.pointer size) := by
    rwa [same]
  obtain ⟨target, response, reallocates⟩ :=
    Image.reallocates_bootstrap orderly backed serves kept taken resolving
  have foreign := Image.bootstrap_foreign orderly.placed task
  have running : (m'.bootstrapped task).halted = none := running
  rw [response] at foreign ⊢
  exact exists_relocated running step (foreign target rfl).1 (reallocates.after same)

end Tended

/-- The step that makes a reallocation answers it, or claims a slot. In both cases the task goes by
the size that was asked for. -/
lemma realloc_made (layered : ∀ config, setup.route ≠ .direct config) (proper : Proper setup m)
    (running : m.halted = none) (call : m.next? = some outer)
    (asked : m.asked? = some (.realloc holding.pointer size)) :
    ∃ next, m.step setup = some next ∧
      (m.begun.Ended outer next ∧ next.stack.length = m.stack.length ∧
        (∀ held, Tended setup m held → holding ∈ held → outer.forced = none →
          next.Aborted ∨ ∃ value, Relocated setup m.image m.resolving holding size value next) ∨
      ∃ configured reports task,
        (∀ held, Tended setup m held → holding ∈ held →
          ∀ chunk kept size, task = .move chunk kept size → kept.toNat = holding.size) ∧
        next = ((m.begun.primed outer).entered configured reports).claimed setup task.symbol outer
          (.request (.realloc holding.pointer size) task)) := by
  obtain ⟨operands, kind, same⟩ := exists_operands call asked
  obtain ⟨_, made, rfl, ends⟩ := request_begins setup proper.nested running call kind
  rw [same] at made ends
  obtain ⟨configured, reports, ⟨unneeded, -⟩ | ⟨task, plan, serves, request⟩⟩ :=
    request_cases layered (m.begun.primed outer) outer (.realloc holding.pointer size)
  · -- a reallocation needs a symbol wherever its pointer lies
    unfold Route.needed? at unneeded
    dsimp only at unneeded
    split at unneeded <;> cases unneeded
  rw [request] at made ends
  rw [image_primed] at plan serves
  have kept (held : List Holding) (tended : Tended setup m held) (mem : holding ∈ held) :=
    tended.kept_eq mem plan
  have nested : ((m.begun.primed outer).entered configured reports).Nested :=
    (proper.nested.primed outer).of_same ⟨rfl, rfl, rfl⟩ (proper.nested.primed outer).waits
  have image (unforced : outer.forced = none) :
      ((m.begun.primed outer).entered configured reports).image =
        { m.image with configured, reports } := by
    rw [entered, image_primed_of_unforced unforced]
  have began : ((m.begun.primed outer).entered configured reports).halted = none :=
    (m.halted_primed outer).trans running
  refine ⟨_, made, ?_⟩
  obtain concludes | ⟨mem', same⟩ | ⟨-, same⟩ :=
    nested.lookup_cases setup outer (.realloc holding.pointer size) task
  · have stack := concludes.stack_eq
    refine .inl ⟨ends stack, (congrArg _ stack).trans (m.length_primed outer), ?_⟩
    exact fun held tended mem unforced => tended.relocated_of_concludes mem (image unforced) began
      serves (kept held tended mem) concludes
  · rw [same] at ends ⊢
    have stack := (answers_respond setup
      (((m.begun.primed outer).entered configured reports).bootstrapped task) outer
      (.realloc holding.pointer size)
      (((m.begun.primed outer).entered configured reports).image.bootstrap task).1).stack
    refine .inl ⟨ends stack, (congrArg _ stack).trans (m.length_primed outer), ?_⟩
    exact fun held tended mem unforced => .inr (tended.relocated_of_bootstrap mem (image unforced)
      began serves (kept held tended mem) (m.resolving_primed outer ▸ mem'))
  · rw [same]
    exact .inr ⟨configured, reports, task, kept, rfl⟩

/-! ## The pointer while the call waits -/

/-- The call gives up what it is about to give up once it ends. -/
lemma Waits.mem_retiring {s : Symbol} {request : Request PresentedAddr} {pointer : PresentedAddr}
    (waits : caller.Waits s outer (.request request task) m)
    (given : request.givenUp? = some pointer) : pointer ∈ m.retiring := by
  obtain ⟨front, script, stack⟩ := waits.stack
  refine List.mem_filterMap.2 ⟨_, stack ▸ List.mem_append_right _ List.mem_cons_self, ?_⟩
  simpa [Job.request?] using given

/-- What a waiting call is about to give up stays held while it waits. -/
lemma Tended.mem_tally (tended : Tended setup m held) (careful : m.Careful held)
    (h : m.step setup = some next) (mem : holding ∈ held) (before : holding.pointer ∈ m.retiring)
    (after : holding.pointer ∈ next.retiring) : holding ∈ m.tally next held := by
  have other (request : Request PresentedAddr) (served : m.served? = some request) :
      request.retired? ≠ some holding.pointer := by
    intro retired
    have given : request.givenUp? = some holding.pointer := by
      simp [Request.givenUp?, retired, isNull_of_mem_retiring before]
    obtain ⟨-, ⟨step, call, -⟩ | ⟨frame, stack, eq, returns, rfl⟩⟩ := step_cases h
    · have asked : m.asked? = some request := by
        simp only [served?, call, request?] at served
        split at served
        case h_1 operands kind => simpa [asked?, call, kind] using served
        case h_2 size kind =>
          cases served
          cases retired
        all_goals cases served
      exact (careful.2 request asked _ given).2 before
    · -- the call that goes on is the only one that was about to give the pointer up
      simp only [served?, returns, eq, List.head?_cons, Option.bind_some] at served
      have retiring : m.retiring = (frame.job.request?.bind Request.givenUp?).toList ++
          (m.published setup frame).retiring := retiring_eq eq
      rw [served, Option.bind_some, given] at retiring
      rw [settle_eq setup eq] at after
      have stack := (sameCourse_resume setup (m.published setup frame) frame.symbol frame.step
        frame.job ((setup.resolver frame.symbol).resolution frame.symbol).lookup).2.1
      rw [Machine.retiring, stack] at after
      have once := tended.entrusted.once
      rw [retiring] at once
      exact (List.nodup_cons.1 once).1 after
  unfold tally
  split
  case h_1 request answer served answered => exact mem_heldAfter mem (other request served) answer
  case h_2 => exact mem

/-- When the resolver returns that a reallocation waits for, it aborts or is answered. -/
lemma Waits.relocated {s : Symbol} (layered : ∀ config, setup.route ≠ .direct config)
    (proper : Proper setup m)
    (waits : caller.Waits s outer (.request (.realloc holding.pointer size) task) m)
    (resumes : caller.Resumes m) (h : m.step setup = some next) :
    caller.Ended outer next ∧ next.stack.length ≤ m.stack.length ∧
      m.served? = some (.realloc holding.pointer size) ∧
      ∀ held, Tended setup m held → holding ∈ held →
        (∀ chunk kept size, task = .move chunk kept size → kept.toNat = holding.size) →
        next.Aborted ∨ ∃ value, Relocated setup m.image m.resolving holding size value next := by
  obtain ⟨-, stack, -⟩ := waits.resumed layered proper resumes h
  obtain ⟨frame, idle, eq, job⟩ := waits.exists_frame resumes
  obtain ⟨-, concludes⟩ := proper.concludes layered eq idle job h
  have awaits := proper.awaits frame (eq ▸ List.mem_cons_self)
  rw [job] at awaits
  cases awaits with
  | request serves symbol =>
    refine ⟨ended_of_stack_eq (waits.pending.step proper.nested h) stack, by simp [stack, eq],
      by simp [served?, next?, eq, idle, job, Job.request?], fun held tended mem kept => ?_⟩
    have running : (m.published setup frame).halted = none := waits.pending.running
    obtain ⟨table, reports, events, same⟩ : ∃ table reports events,
        (m.published setup frame).image = { m.image with table, reports, events } :=
      ⟨_, _, _, rfl⟩
    exact tended.relocated_of_concludes mem same running serves kept concludes

/-! ## The capacity of the heap -/

/-- The conclusion of a task leaves the heap its capacity. -/
lemma Concludes.heapCapacity_eq {request : Request PresentedAddr}
    (concludes : Concludes setup m step request task next) (orderly : m.image.Orderly) :
    next.image.heap.capacity = m.image.heap.capacity := by
  cases concludes with
  | carried ready =>
    rw [(answers_respond _ _ _ _ _).heap, heap_carried]
    exact (orderly.heap.handsOut_serve m.image.memory task.request).capacity
  | aborts failed => rfl

/-- A step leaves the heap its capacity. -/
lemma Proper.heapCapacity_step (layered : ∀ config, setup.route ≠ .direct config)
    (proper : Proper setup m) (orderly : m.image.Orderly)
    (unforced : ∀ step ∈ m.next?, step.forced = none) (h : m.step setup = some next) :
    next.image.heap.capacity = m.image.heap.capacity := by
  have begun {step : Step} (call : m.next? = some step) : (m.begun.primed step).image = m.image :=
    image_primed_of_unforced (unforced step call)
  cases proper.course layered h with
  | answered step image answer call asks heap arena chunks table events silent =>
    rw [(answers_deliver _ _ _).heap, heap, begun call]
  | takes step size call kind =>
    obtain ⟨arena, memory, chunks, same⟩ := (m.begun.primed step).image.arenaAlloc_same size
    rw [(answers_deliver _ _ _).heap, same, begun call]
  | looks step s call kind unresolved =>
    change (m.begun.primed step).image.heap.capacity = _
    rw [begun call]
  | requests step operands call kind met =>
    rw [← begun call] at orderly ⊢
    cases met with
    | known configured reports answer unneeded silent =>
      rw [(answers_deliver _ _ _).heap]
      rfl
    | concludes configured reports task serves concludes =>
      exact concludes.heapCapacity_eq (orderly.congr rfl rfl orderly.unforced rfl rfl)
    | bootstrapped configured reports task serves resolving =>
      rw [(answers_respond _ _ _ _ _).heap, heap_bootstrapped]
      rfl
    | waits configured reports task serves unresolved => rfl
  | finds frame stack answer returns eq job silent =>
    rw [(answers_deliver _ _ _).heap]
    rfl
  | resumes frame stack returns eq job serves symbol concludes =>
    exact concludes.heapCapacity_eq (orderly.congr rfl rfl orderly.unforced rfl rfl)

/-! ## Every state of a session -/

/-- A step brings the ledger up to date. -/
lemma ledger_succ {first : Machine} {n : Nat} (h : (after setup n first).step setup = some next) :
    ledger setup first (n + 1) = (after setup n first).tally next (ledger setup first n) := by
  rw [ledger, h]

/-- The call that is made in state `i` of a session reallocates what is held, and ends with step
`k`, which answers `value`. -/
structure Reallocation (setup : Setup) (state : Nat → Machine) (held : Nat → List Holding)
    (i k : Nat) (holding : Holding) (size value : UInt64) : Prop where
  /-- The pointer stays with its caller until the call ends. -/
  kept : ∀ j, i ≤ j → j ≤ k → holding ∈ held j
  /-- What the call does before its last step touches nothing. -/
  waits : ∀ j, i ≤ j → j < k → Own state i j → Untouched (state j) (state (j + 1))
  null : value = 0 ↔ setup.route.addressOf ⟨value⟩ = .null
  /-- In its last step the bytes are moved, if memory is granted. -/
  moves : (state k).image.Moves (state k).resolving (state (k + 1)).image
    (setup.route.addressOf holding.pointer) (setup.route.addressOf ⟨value⟩) holding.size size
  /-- The bytes behind the new pointer were not handed out before. -/
  fresh : value ≠ 0 → (state k).image.Fresh (state (k + 1)).image
    (setup.route.addressOf ⟨value⟩).value.toNat size.toNat
  /-- The first bytes behind the new pointer are those that were behind the old one when the call
  was made, unless a caller has stored them while the call waited. -/
  copies : value ≠ 0 → ∀ j < min holding.size size.toNat,
    (∀ l, i ≤ l → l < k →
      ¬(state l).Stores setup ((setup.route.addressOf holding.pointer).value.toNat + j)) →
    (state (k + 1)).image.memory.byteAt ((setup.route.addressOf ⟨value⟩).value.toNat + j) =
      (state i).image.memory.byteAt ((setup.route.addressOf holding.pointer).value.toNat + j)
  /-- If memory is refused, the last step changes nothing, and the caller keeps its pointer. -/
  refused : value = 0 → (state k).image.Unchanged (state (k + 1)).image ∧ held (k + 1) = held k
  /-- If memory is refused, the pointer has the usable size that it had when the call was made. -/
  usable : value = 0 → (state (k + 1)).image.usable (setup.route.addressOf holding.pointer) =
    (state i).image.usable (setup.route.addressOf holding.pointer)
  /-- If memory is refused, the bytes behind the pointer are those that were there when the call was
  made, unless a caller has stored them while the call waited. -/
  bytes : value = 0 → ∀ a, holding.Covers setup.route a →
    (∀ l, i ≤ l → l < k → ¬(state l).Stores setup a) →
    (state (k + 1)).image.memory.byteAt a = (state i).image.memory.byteAt a

section Run

variable (layered : ∀ config, setup.route ≠ .direct config) {heapCapacity capacity : Nat}
  (apart : Heap.base + heapCapacity ≤ Arena.base) (below : Arena.base + capacity < 2 ^ 48)
  (script : List Step) {n : Nat}

include layered apart below

/-- What is known of every state that a session reaches while its callers are fair and careful. -/
theorem tended_after :
    let first := start (.fresh heapCapacity capacity) script
    (∀ i < n, (after setup i first).Fair setup (ledger setup first i) ∧
      (after setup i first).Careful (ledger setup first i)) →
    ∀ i ≤ n, Tended setup (after setup i first) (ledger setup first i) := by
  intro first upheld i le
  have fair (i : Nat) (lt : i < n) := (upheld i lt).1
  have careful (i : Nat) (lt : i < n) := (upheld i lt).2
  have sound : first.Sound capacity False := Sound.start apart below script
  have placed : first.image.Orderly := ⟨sound.placed, Nat.zero_le _, rfl⟩
  obtain ⟨orderly, conserves, entrusted⟩ :=
    custody_after layered apart below script careful i le
  exact ⟨orderly, conserves.owned.distinct, intact_after layered apart below script fair i le,
    entrusted, (separate_ledger layered sound placed fair le).2,
    backed_after layered apart below script careful i le⟩

/-- The heap keeps its capacity while callers are fair and careful. -/
theorem heapCapacity_after :
    let first := start (.fresh heapCapacity capacity) script
    (∀ i < n, (after setup i first).Fair setup (ledger setup first i) ∧
      (after setup i first).Careful (ledger setup first i)) →
    ∀ i ≤ n, (after setup i first).image.heap.capacity = heapCapacity := by
  intro first upheld i le
  induction i with
  | zero => rfl
  | succ i ih =>
    have ih := ih (Nat.le_of_succ_le le)
    have tended := tended_after layered apart below script upheld i (Nat.le_of_succ_le le)
    have proper : Proper setup (after setup i first) :=
      (Proper.start setup heapCapacity capacity script).after layered i
    rw [after_succ]
    cases h : (after setup i first).step setup with
    | none => exact ih
    | some next =>
      exact (proper.heapCapacity_step layered tended.orderly (upheld i le).2.1 h).trans ih

/-- What a waiting call is about to give up stays held until it goes on. -/
lemma mem_ledger_of_waits {i k : Nat} {s : Symbol}
    {request : Request PresentedAddr} (given : request.givenUp? = some holding.pointer) :
    let first := start (.fresh heapCapacity capacity) script
    (∀ j ≤ k, (after setup j first).Fair setup (ledger setup first j) ∧
      (after setup j first).Careful (ledger setup first j)) →
    (∀ j, i < j → j ≤ k → caller.Waits s outer (.request request task) (after setup j first)) →
    holding ∈ ledger setup first (i + 1) →
    ∀ j, i < j → j ≤ k → holding ∈ ledger setup first j := by
  intro first upheld waiting mem j lt le
  induction lt with
  | refl => exact mem
  | @step j lt ih =>
    have tended := tended_after layered apart below script
      (fun i lt => upheld i (by omega)) j (Nat.le_refl j)
    have waits := waiting j lt (Nat.le_of_succ_le le)
    obtain ⟨next, h⟩ := waits.goes_on setup
    have again := waiting (j + 1) (Nat.lt_succ_of_lt lt) le
    rw [after_succ_of_step h] at again
    rw [ledger_succ h]
    exact tended.mem_tally (upheld j (Nat.le_of_succ_le le)).2 h (ih (Nat.le_of_succ_le le))
      (waits.mem_retiring given) (again.mem_retiring given)

/-- A reallocation that is answered with step `k`. -/
lemma reallocation_of_relocated {i k : Nat} (le : i ≤ k) :
    let first := start (.fresh heapCapacity capacity) script
    let state := fun j => after setup j first
    let held := fun j => ledger setup first j
    (∀ j ≤ k, (state j).Fair setup (held j) ∧ (state j).Careful (held j)) →
    (∀ j, i ≤ j → j ≤ k → holding ∈ held j) →
    (∀ j, i ≤ j → j < k → Own state i j → Untouched (state j) (state (j + 1))) →
    (state k).step setup = some (state (k + 1)) →
    (state k).served? = some (.realloc holding.pointer size) →
    (state (k + 1)).stack.length ≤ (state k).stack.length →
    Relocated setup (state k).image (state k).resolving holding size value (state (k + 1)) →
    Reallocation setup state held i k holding size value := by
  intro first state held upheld kept waits h served height relocated
  have upheld (j : Nat) (lt : j < k + 1) := upheld j (Nat.le_of_lt_succ lt)
  have fair (j : Nat) (lt : j < k + 1) := (upheld j lt).1
  have sound : first.Sound capacity False := Sound.start apart below script
  have placed : first.image.Orderly := ⟨sound.placed, Nat.zero_le _, rfl⟩
  have tended (j : Nat) (le : j ≤ k + 1) := tended_after layered apart below script upheld j le
  have growth := extends_after layered sound placed fair le (Nat.le_succ k)
  obtain ⟨running, last, null, moves, copies, refused⟩ := relocated
  have granted (nonnull : value ≠ 0) : setup.route.addressOf ⟨value⟩ ≠ .null := mt null.2 nonnull
  have answered : (state k).answer? (state (k + 1)) = some (.pointer value) := by
    rw [answer?, if_pos ⟨running, height⟩, last]
  -- the old bytes were taken when the call was made, so only what a caller stores changes them
  have covered := (tended i (by omega)).separate.taken holding (kept i (Nat.le_refl i) le)
  have stays (a : Nat) (covers : holding.Covers setup.route a)
      (unstored : ∀ l, i ≤ l → l < k → ¬(state l).Stores setup a) :
      (state k).image.memory.byteAt a = (state i).image.memory.byteAt a := by
    refine growth.kept a (covered a covers) ?_
    rintro ⟨l, ge, lt, stores⟩
    exact unstored l ge lt stores
  have returned (null : value = 0) : held (k + 1) = held k :=
    (ledger_succ h).trans (tally_of_refused (null ▸ answered))
  refine ⟨kept, waits, null, moves, fun nonnull => ?fresh, fun nonnull j lt unstored => ?copies,
    fun value0 => ⟨refused (null.1 value0), returned value0⟩, fun value0 => ?usable,
    fun value0 a covers unstored => ?bytes⟩
  case fresh =>
    have supplies := (served_after layered sound fair (Nat.lt_succ_self k)
      (tended k (Nat.le_succ k)).orderly h).supplies running height _ last _ served
    exact (supplies value rfl).resolve_left nonnull
  case copies =>
    rw [copies (granted nonnull) j lt]
    refine stays _ ⟨Nat.le_add_right _ _, ?_⟩ unstored
    exact Nat.add_lt_add_left (Nat.lt_of_lt_of_le lt (Nat.min_le_left _ _)) _
  case usable =>
    have mem : holding ∈ held (k + 1) := returned value0 ▸ kept k le (Nat.le_refl k)
    have usable (j : Nat) (lt : j ≤ k + 1) (mem : holding ∈ held j) :=
      ((tended j lt).backed holding mem).usable_eq (tended j lt).intact (tended j lt).distinct
        (tended j lt).orderly.room
    have arena (j : Nat) : (state j).image.arena.capacity = capacity :=
      (sound.after layered j False.elim).capacity
    have heap (j : Nat) (le : j ≤ k + 1) : (state j).image.heap.capacity = heapCapacity :=
      heapCapacity_after layered apart below script upheld j le
    have early : i ≤ k + 1 := Nat.le_succ_of_le le
    rw [usable (k + 1) (Nat.le_refl _) mem, usable i early (kept i (Nat.le_refl i) le),
      Arena.contains_congr ((arena (k + 1)).trans (arena i).symm),
      Heap.contains_congr ((heap (k + 1) (Nat.le_refl _)).trans (heap i early).symm)]
  case bytes =>
    rw [(refused (null.1 value0)).memory]
    exact stays a covers unstored

end Run

/-- Reallocation keeps the contents, and fails as if it was not tried. Take any session over the
symbol table, with or without the interposer above it, any arena and any resolvers, whatever they
call. The heap lies below the arena and the arena below the tag bits. In state `i` somebody, the
application or a resolver, reallocates a pointer that is held. The call ends with a step `k`, and if
the heap has answered by itself until then, and callers have stored only inside what they asked for
and given up only what they hold and no waiting call is about to give up, then the process is
aborted, or the call is answered with a pointer as `Reallocation` says:

* with memory granted, the bytes that both sizes have room for are behind the new pointer. The heap
  has moved them, or they were copied from a chunk to a block of the heap, or to another chunk while
  `malloc` was being resolved, and the copy reads and writes no other byte;
* with memory refused, the caller keeps the pointer, tag bits and all, with its usable size and its
  bytes, and the step that refuses it changes neither the live blocks nor the arena nor any byte.

What the resolvers' calls do while the call waits is theirs. -/
theorem reallocated {setup : Setup} (layered : ∀ config, setup.route ≠ .direct config)
    {heapCapacity capacity : Nat} (apart : Heap.base + heapCapacity ≤ Arena.base)
    (below : Arena.base + capacity < 2 ^ 48) (script : List Step) (i : Nat) :
    let first := start (.fresh heapCapacity capacity) script
    let state := fun j => after setup j first
    let held := fun j => ledger setup first j
    (state i).halted = none → ∀ outer holding size, (state i).next? = some outer →
      (state i).asked? = some (.realloc holding.pointer size) → holding ∈ held i →
        ∃ k ≥ i, (∀ j, i < j → j ≤ k → (state i).begun.Pending outer (state j)) ∧
          (state i).begun.Ended outer (state (k + 1)) ∧
          ((∀ j ≤ k, (state j).Fair setup (held j) ∧ (state j).Careful (held j)) →
            (state (k + 1)).Aborted ∨ ∃ value, (state (k + 1)).lastAnswer? = some (.pointer value) ∧
              Reallocation setup state held i k holding size value) := by
  intro first state held running outer holding size call asked mem
  have origin : Proper setup first := .start setup heapCapacity capacity script
  have proper (j : Nat) : Proper setup (state j) := origin.after layered j
  obtain ⟨next, h, verdict⟩ := realloc_made layered (proper i) running call asked
  obtain rfl : state (i + 1) = next := after_succ_of_step h
  obtain ⟨ended, height, relocated⟩ | ⟨configured, reports, task, sized, claimed⟩ := verdict
  · -- the call is answered by the step that makes it
    refine ⟨i, Nat.le_refl i, fun j gt le => absurd le (Nat.not_le_of_lt gt), ended,
      fun upheld => ?_⟩
    have tended := tended_after layered apart below script (n := i)
      (fun j lt => upheld j (Nat.le_of_lt lt)) i (Nat.le_refl i)
    refine (relocated _ tended mem ((upheld i (Nat.le_refl i)).2.1 outer call)).imp_right ?_
    rintro ⟨value, relocated⟩
    refine ⟨value, relocated.last, reallocation_of_relocated layered apart below script
      (Nat.le_refl i) upheld ?_ ?_ h (served?_of_asked asked) (Nat.le_of_eq height) relocated⟩
    · intro j ge le
      obtain rfl := Nat.le_antisymm le ge
      exact mem
    · exact fun j ge lt => absurd lt (Nat.not_lt_of_le ge)
  · have waits : (state i).begun.Waits task.symbol outer
        (.request (.realloc holding.pointer size) task) (state (i + 1)) := by
      rw [claimed]
      exact waits_claimed running outer configured reports task.symbol _
    obtain ⟨k, gt, waiting, between, last⟩ := waits_until layered origin waits
    have pending (j : Nat) (lt : i < j) (le : j ≤ k) := (waiting j lt le).pending
    have le := Nat.le_of_lt gt
    have made : Untouched (state i) (state (i + 1)) := by
      rw [claimed]
      exact untouched_waits setup _ outer configured reports task.symbol _
    have higher : (state i).stack.length < (state (i + 1)).stack.length := by
      rw [claimed, ← length_primed (state i) outer]
      exact Nat.lt_succ_self _
    by_cases resumes : (state i).begun.Resumes (state k)
    case neg =>
      have aborted := last.resolve_left resumes
      exact ⟨k, le, pending, .inr aborted, fun _ => .inl aborted⟩
    case pos =>
      have waitsLast := waiting k gt (Nat.le_refl k)
      obtain ⟨next, goes⟩ := waitsLast.goes_on setup
      obtain rfl : state (k + 1) = next := after_succ_of_step goes
      obtain ⟨ended, height, served, relocated⟩ :=
        waitsLast.relocated layered (proper k) resumes goes
      refine ⟨k, le, pending, ended, fun upheld => ?_⟩
      have tended (j : Nat) (le : j ≤ k) :=
        tended_after layered apart below script (fun i lt => upheld i (by omega)) j le
      have given := ((tended i le).backed holding mem).givenUp?_realloc size
      have kept (j : Nat) (ge : i ≤ j) (le : j ≤ k) : holding ∈ held j := by
        obtain rfl | lt := Nat.eq_or_lt_of_le ge
        · exact mem
        refine mem_ledger_of_waits layered apart below script given upheld waiting ?_ j lt le
        rw [ledger_succ h, tally_of_served (served?_of_asked asked), answer?_of_higher higher]
        exact mem
      -- the task goes by the size that was read when the call was made
      refine (relocated (held k) (tended k (Nat.le_refl k)) (kept k le (Nat.le_refl k))
        (sized (held i) (tended i le) mem)).imp_right ?_
      rintro ⟨value, relocated⟩
      refine ⟨value, relocated.last, reallocation_of_relocated layered apart below script le upheld
        kept (fun j ge lt own => ?_) goes served height relocated⟩
      obtain rfl | ⟨after, resumes⟩ := own
      · exact made
      · exact absurd resumes (between j after lt)

/-- A process whose loader takes an array to resolve `calloc` and stores to it, and takes a block to
resolve `malloc`. -/
def arrayLoader : Setup where
  route := .layered .default
  access := .tagIgnoring
  resolver
    | .calloc => ⟨.ok, none, [⟨.request (.calloc 1 3), some "p", none⟩,
      ⟨.write (.label "p") [1, 2, 3], none, none⟩]⟩
    | .malloc => ⟨.ok, none, [⟨.request (.malloc 8), none, none⟩]⟩
    | _ => ⟨.ok, none, []⟩

/-- A script that takes an array, and moves the one that the loader has taken for that. -/
def moveArray : List Step :=
  [⟨.request (.calloc 2 4), none, none⟩, ⟨.request (.realloc (.label "p") 5), none, none⟩]

/-- The states of the array loader's process. -/
def arrayRun (i : Nat) : Machine :=
  after arrayLoader i (start (.fresh 65536 1024) moveArray)

/-- The array loader: its array is moved to the heap once `malloc` is resolved. -/
theorem reallocated_array :
    let held := fun j => ledger arrayLoader (start (.fresh 65536 1024) moveArray) j
    (∀ j ≤ 6, (arrayRun j).Fair arrayLoader (held j) ∧ (arrayRun j).Careful (held j)) ∧
      Reallocation arrayLoader arrayRun held 4 6 ⟨⟨0x1110000000010⟩, 3⟩ 5 0x1100000000010 := by
  intro held
  have upheld : ∀ j ≤ 6,
      (arrayRun j).Fair arrayLoader (held j) ∧ (arrayRun j).Careful (held j) := by
    decide
  obtain ⟨k, ge, pending, ended, outcome⟩ :=
    @reallocated arrayLoader nofun 65536 1024 (by decide) (by decide) moveArray 4 rfl
      ⟨.request (.realloc (.label "p") 5), none, none⟩ ⟨⟨0x1110000000010⟩, 3⟩ 5 rfl (by decide)
      (by decide)
  have running : ∀ j < 8, (arrayRun j).halted = none := by decide
  have last : k ≤ 6 := by
    by_contra gt
    obtain ⟨front, frame, stack, -⟩ := (pending 7 (by decide) (by omega)).stack
    have idle : (arrayRun 7).stack = [] := rfl
    exact absurd (idle.symm.trans stack) (by simp)
  have returned := ended.resolve_right (not_aborted (running (k + 1) (by omega)))
  obtain rfl : k = 6 := by
    obtain rfl | rfl | rfl : k = 4 ∨ k = 5 ∨ k = 6 := by omega
    · exact absurd returned.stack (by decide)
    · exact absurd returned.stack (by decide)
    · rfl
  obtain ⟨value, answer, reallocation⟩ :=
    (outcome upheld).resolve_left (not_aborted (running 7 (by decide)))
  have told : (arrayRun 7).lastAnswer? = some (.pointer 0x1100000000010) := by decide
  cases told.symm.trans answer
  exact ⟨upheld, reallocation⟩

end PointerTagging.Session.Machine
