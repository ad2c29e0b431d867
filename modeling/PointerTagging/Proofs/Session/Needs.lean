import PointerTagging.Proofs.Session.Course

/-!
# The symbol that a call needs

Which symbol a call of the allocator needs is known when it is made. The call looks up that symbol
and no other, it aborts the process if and only if the symbol's slot has failed when it is told, and
it has touched nothing by then (`Machine.needs_one_symbol`). What the calls of resolvers do in
between is theirs: a step of the session belongs to the call itself if it makes the call, or lets the
resolver return that the call waits for (`Machine.Own`).
-/

namespace PointerTagging.Session.Machine

variable {setup : Setup} {m m' next caller : Machine} {outer : Step} {s : Symbol}
  {request : Request PresentedAddr} {task : Task}

/-- The slot of the symbol has failed. -/
def Failed (m : Machine) (s : Symbol) : Prop := (m.image.table.slots s).state = .failed

/-- No function of the heap was called, no byte of the heap or the arena was changed, and none was
handed out. -/
structure Untouched (m next : Machine) : Prop where
  live : next.image.heap.live = m.image.heap.live
  used : next.image.heap.used = m.image.heap.used
  arena : next.image.arena = m.image.arena
  chunks : next.image.chunks = m.image.chunks
  memory : next.image.memory = m.image.memory
  reached : next.reached = m.reached

/-- What is left untouched twice. -/
lemma Untouched.trans (first : Untouched m m') (second : Untouched m' next) : Untouched m next where
  live := second.live.trans first.live
  used := second.used.trans first.used
  arena := second.arena.trans first.arena
  chunks := second.chunks.trans first.chunks
  memory := second.memory.trans first.memory
  reached := second.reached.trans first.reached

/-- Making the next call touches nothing. -/
lemma untouched_primed (m : Machine) (step : Step) : Untouched m (m.begun.primed step) := by
  refine ⟨?_, ?_, ?_, ?_, ?_, m.reached_primed step⟩
  all_goals rw [image_primed]

/-- Reading the settings touches nothing. -/
lemma untouched_entered (m : Machine) (configured : Bool) (reports : List Diagnostic) :
    Untouched m (m.entered configured reports) :=
  ⟨rfl, rfl, rfl, rfl, rfl, rfl⟩

/-- A resolver that returns touches nothing. -/
lemma untouched_published (setup : Setup) (m : Machine) (frame : Frame) :
    Untouched m (m.published setup frame) :=
  ⟨rfl, rfl, rfl, rfl, rfl, m.reached_published setup frame⟩

/-- Claiming a slot touches nothing. -/
lemma untouched_claimed (setup : Setup) (m : Machine) (s : Symbol) (step : Step) (job : Job) :
    Untouched m (m.claimed setup s step job) :=
  ⟨rfl, rfl, rfl, rfl, rfl, reached_claimed setup m s step job⟩

/-- A process that runs was not aborted. -/
lemma not_aborted (running : m.halted = none) : ¬m.Aborted := by
  rintro ⟨s, halted⟩
  rw [running] at halted
  cases halted

/-- The process was aborted for want of the symbol: its failed slot is reported last. -/
structure AbortedFor (m : Machine) (s : Symbol) : Prop where
  halted : m.halted = some (.aborted s)
  reported : m.image.reports.getLast? = some (.symbol (.unbound s))

/-- A task concludes if its slot is ready. Else the slot has failed, and the process is aborted before
anything is touched. -/
lemma Concludes.verdict (running : m.halted = none)
    (concludes : Concludes setup m outer request task next) :
    next.halted = none ∧ (next.image.table.slots task.symbol).state = .ready ∨
      next.AbortedFor task.symbol ∧ next.Failed task.symbol ∧ Untouched m next := by
  have table := concludes.table_eq
  cases concludes with
  | carried ready =>
    refine .inl ⟨?_, by rw [table, ready]⟩
    obtain ⟨memory, carried⟩ := m.carried_eq task
    rw [(answers_respond _ _ _ _ _).halted, carried]
    exact running
  | aborts failed =>
    exact .inr ⟨⟨rfl, by simp [Image.report]⟩, failed, ⟨rfl, rfl, rfl, rfl, rfl, rfl⟩⟩

/-! ## Calls that wait -/

/-- The call `step`, which `caller` had just begun, waits for the resolver of `s`. -/
structure Waits (caller : Machine) (s : Symbol) (step : Step) (job : Job) (m : Machine) : Prop where
  pending : caller.Pending step m
  stack : ∃ front script, m.stack = front ++ ⟨s, script, step, job⟩ :: caller.stack

/-- A call that claims a slot waits for the slot's resolver. -/
lemma waits_claimed (running : m.halted = none) (step : Step) (configured : Bool)
    (reports : List Diagnostic) (s : Symbol) (job : Job) :
    m.begun.Waits s step job
      (((m.begun.primed step).entered configured reports).claimed setup s step job) := by
  have same : (m.begun.primed step).halted = none ∧
      (m.begun.primed step).stack = m.begun.stack ∧ (m.begun.primed step).todo = m.begun.todo ∧
      (m.begun.primed step).answered = m.begun.answered := by
    rw [halted_primed, primed_eq]
    exact ⟨running, rfl, rfl, rfl⟩
  obtain ⟨halted, stack, todo, answered⟩ := same
  exact ⟨⟨halted, ⟨[], _, congrArg (_ :: ·) stack, rfl⟩, todo, answered⟩, [], _,
    congrArg (_ :: ·) stack⟩

/-- A call that claims a slot touches nothing by that. -/
lemma untouched_waits (setup : Setup) (m : Machine) (step : Step) (configured : Bool)
    (reports : List Diagnostic) (s : Symbol) (job : Job) :
    Untouched m (((m.begun.primed step).entered configured reports).claimed setup s step job) :=
  (untouched_primed m step).trans
    ((untouched_entered _ configured reports).trans (untouched_claimed setup _ s step job))

/-- The resolver that the call waits for is about to return to the calls that are left in `caller`. -/
def Resumes (caller m : Machine) : Prop :=
  ∃ frame, frame.script = [] ∧ m.stack = frame :: caller.stack

/-- A call leaves the running resolvers as they are, or starts another. -/
lemma Reacts.stack_eq (reacts : m.Reacts setup outer next) :
    next.stack = m.stack ∨ ∃ frame, next.stack = frame :: m.stack := by
  cases reacts with
  | ends same ended => exact .inl same.2.1
  | claims same running answered s job unresolved =>
    exact .inr ⟨_, congrArg (_ :: ·) same.2.1⟩

/-- A step leaves a resolver running, unless it is the innermost one and about to return. -/
lemma stack_step {job : Job} {stack : List Frame} (nested : m.Nested)
    (shape : ∃ front script, m.stack = front ++ ⟨s, script, outer, job⟩ :: stack)
    (inner : ¬∃ frame, frame.script = [] ∧ m.stack = frame :: stack)
    (h : m.step setup = some next) :
    ∃ front script, next.stack = front ++ ⟨s, script, outer, job⟩ :: stack := by
  obtain ⟨front, script, shape⟩ := shape
  obtain ⟨running, ⟨made, -, rfl⟩ | ⟨top, below, eq, returns, rfl⟩⟩ := step_cases h
  · have running : m.begun.halted = none := m.halted_begun.trans running
    have begun : ∃ front script, m.begun.stack = front ++ ⟨s, script, outer, job⟩ :: stack := by
      cases front with
      | nil =>
        rw [List.nil_append] at shape
        simp only [Machine.begun, shape]
        exact ⟨[], script.tail, rfl⟩
      | cons top front =>
        rw [List.cons_append] at shape
        simp only [Machine.begun, shape]
        exact ⟨{ top with script := top.script.tail } :: front, script, rfl⟩
    obtain ⟨front, script, begun⟩ := begun
    obtain same | ⟨frame, claimed⟩ := (nested.begun.reacts_call setup running made).stack_eq
    · exact ⟨front, script, same.trans begun⟩
    · exact ⟨frame :: front, script, by rw [claimed, begun, List.cons_append]⟩
  · obtain ⟨image, -, same, -⟩ := @ended_settle setup { m with stack := below } running top
    rw [shape] at eq
    cases front with
    | nil =>
      obtain ⟨rfl, rfl⟩ := List.cons.inj eq
      refine absurd ⟨_, ?_, shape⟩ inner
      simpa [next?, shape] using returns
    | cons first front =>
      obtain ⟨rfl, rfl⟩ := List.cons.inj eq
      exact ⟨front, script, same.2.1⟩

namespace Waits

variable {job : Job}

/-- A session does not stop while a call waits. -/
lemma goes_on (setup : Setup) (waits : caller.Waits s outer job m) :
    ∃ next, m.step setup = some next := by
  obtain ⟨front, script, stack⟩ := waits.stack
  unfold Machine.step
  rw [waits.pending.running]
  cases front with
  | nil =>
    simp only [stack, List.nil_append]
    split <;> exact ⟨_, rfl⟩
  | cons top front =>
    simp only [stack, List.cons_append]
    split <;> exact ⟨_, rfl⟩

/-- A step leaves a call waiting, unless the resolver that it waits for returns, or a call of a
resolver aborts the process. -/
lemma step (nested : m.Nested) (waits : caller.Waits s outer job m)
    (inner : ¬caller.Resumes m) (h : m.step setup = some next) :
    caller.Waits s outer job next ∨ next.Aborted := by
  have stack := stack_step nested waits.stack inner h
  obtain (returned | aborted) | pending := waits.pending.step nested h
  · obtain ⟨front, script, stack⟩ := stack
    have length := congrArg List.length (returned.stack.symm.trans stack)
    simp only [List.length_append, List.length_cons] at length
    omega
  · exact .inr aborted
  · exact .inl ⟨pending, stack⟩

/-- A call that waits is resumed at last, or a call of a resolver aborts the process. -/
theorem ends (setup : Setup) (nested : m.Nested) (waits : caller.Waits s outer job m) :
    ∃ k, (∀ i ≤ k, caller.Waits s outer job (after setup i m)) ∧
      (∀ i < k, ¬caller.Resumes (after setup i m)) ∧
      (caller.Resumes (after setup k m) ∨ (after setup (k + 1) m).Aborted) := by
  -- along the run of the session, which stops in no state where a call waits
  induction m using run.induct setup with
  | case1 m stopped =>
    obtain ⟨next, h⟩ := waits.goes_on setup
    rw [stopped] at h
    cases h
  | case2 m next h ih =>
    by_cases resumes : caller.Resumes m
    · refine ⟨0, fun i le => ?_, fun i lt => absurd lt (Nat.not_lt_zero i), .inl resumes⟩
      obtain rfl := Nat.le_zero.1 le
      exact waits
    obtain waiting | aborted := waits.step nested resumes h
    · obtain ⟨k, waiting, between, last⟩ := ih (nested.step h) waiting
      refine ⟨k + 1, fun i le => ?_, fun i lt => ?_, ?_⟩
      · cases i with
        | zero => exact waits
        | succ i => simpa only [after, h] using waiting i (Nat.le_of_succ_le_succ le)
      · cases i with
        | zero => exact resumes
        | succ i => simpa only [after, h] using between i (Nat.lt_of_succ_lt_succ lt)
      · simpa only [after, h] using last
    · refine ⟨0, fun i le => ?_, fun i lt => absurd lt (Nat.not_lt_zero i), .inr ?_⟩
      · obtain rfl := Nat.le_zero.1 le
        exact waits
      · simpa only [after, h] using aborted

/-- The resolver that a call waits for runs for that call. -/
lemma exists_frame (waits : caller.Waits s outer job m) (resumes : caller.Resumes m) :
    ∃ frame, frame.script = [] ∧ m.stack = frame :: caller.stack ∧ frame.job = job := by
  obtain ⟨frame, idle, eq⟩ := resumes
  obtain ⟨front, script, stack⟩ := waits.stack
  refine ⟨frame, idle, eq, ?_⟩
  rw [eq] at stack
  cases front with
  | nil => rw [(List.cons.inj stack).1]
  | cons top front =>
    rw [List.cons_append] at stack
    have length := congrArg List.length (List.cons.inj stack).2
    simp only [List.length_append, List.length_cons] at length
    omega

/-- When the resolver returns that a call waits for, the call goes on to its end, with the slot ready,
or the process is aborted, with the slot failed and nothing touched. -/
lemma resumed (layered : ∀ config, setup.route ≠ .direct config) (proper : Proper setup m)
    (waits : caller.Waits s outer (.request request task) m) (resumes : caller.Resumes m)
    (h : m.step setup = some next) :
    m.resolving.head? = some task.symbol ∧ next.stack = caller.stack ∧
      (∀ t ≠ task.symbol, next.image.table.slots t = m.image.table.slots t) ∧
      (next.halted = none ∧ (next.image.table.slots task.symbol).state = .ready ∨
        next.AbortedFor task.symbol ∧ next.Failed task.symbol ∧ Untouched m next) := by
  obtain ⟨frame, idle, eq, job⟩ := waits.exists_frame resumes
  obtain ⟨symbol, concludes⟩ := proper.concludes layered eq idle job h
  refine ⟨by simp [resolving, eq, symbol], ?_, fun t other => ?_, ?_⟩
  · rw [concludes.stack_eq, published, eq, List.tail_cons]
  · rw [concludes.table_eq, slots_published setup m frame (symbol ▸ other)]
  · have running : (m.published setup frame).halted = none := waits.pending.running
    refine (concludes.verdict running).imp_right ?_
    rintro ⟨aborted, failed, untouched⟩
    exact ⟨aborted, failed, (untouched_published setup m frame).trans untouched⟩

end Waits

/-! ## The steps of a call -/

/-- What a request comes to when it is made, and what is known of the slot that it needs: it is
answered and the slot has not failed, or the process is aborted since it has, or the slot is claimed. -/
lemma Met.verdict (nested : m.Nested) (running : m.halted = none)
    (met : Met setup m outer request next) :
    (next.halted = none ∧ next.stack = m.stack ∧
      ∀ s, setup.route.needed? m.image.arena request = some s →
        (m.image.table.slots s).state ≠ .unresolved ∧ ¬m.Failed s ∧ ¬next.Failed s) ∨
    (∃ s, setup.route.needed? m.image.arena request = some s ∧ next.AbortedFor s ∧ m.Failed s ∧
      next.Failed s ∧ next.stack = m.stack ∧ Untouched m next) ∨
    ∃ configured reports task, task.Serves setup.route m.image.arena request ∧
      (m.image.table.slots task.symbol).state = .unresolved ∧
      next = (m.entered configured reports).claimed setup task.symbol outer
        (.request request task) := by
  cases met with
  | known configured reports answer unneeded silent =>
    have answers := answers_deliver (m.entered configured reports) outer answer
    refine .inl ⟨answers.halted.trans running, answers.stack, fun s needed => ?_⟩
    rw [unneeded] at needed
    cases needed
  | concludes configured reports task serves concludes =>
    have table := concludes.table_eq
    have stack := concludes.stack_eq
    have entered : (m.entered configured reports).halted = none := running
    obtain ⟨halted, ready⟩ | ⟨aborted, failed, untouched⟩ := concludes.verdict entered
    · refine .inl ⟨halted, stack, fun s needed => ?_⟩
      rw [serves.needed?_eq, Option.some.injEq] at needed
      subst needed
      have before : (m.image.table.slots task.symbol).state = .ready := by rw [← ready, table]; rfl
      simp [Failed, ready, before]
    · have before : m.Failed task.symbol := by rw [Failed, ← failed, table]; rfl
      exact .inr (.inl ⟨task.symbol, serves.needed?_eq, aborted, before, failed, stack,
        (untouched_entered m configured reports).trans untouched⟩)
  | bootstrapped configured reports task serves resolving =>
    have answers := answers_respond setup ((m.entered configured reports).bootstrapped task) outer
      request ((m.entered configured reports).image.bootstrap task).1
    have before := (nested.slots task.symbol).2 resolving
    have table := answers.table.trans (Image.table_bootstrap _ _)
    have after : ((m.entered configured reports).image.table.slots task.symbol).state =
      .resolving := before
    refine .inl ⟨answers.halted.trans running, answers.stack, fun s needed => ?_⟩
    rw [serves.needed?_eq, Option.some.injEq] at needed
    subst needed
    simp [Failed, table, before, after]
  | waits configured reports task serves unresolved =>
    exact .inr (.inr ⟨configured, reports, task, serves, unresolved, rfl⟩)

/-- A call that has left the running resolvers as they were has ended. -/
lemma ended_of_stack_eq (reacts : caller.Ended outer m ∨ caller.Pending outer m)
    (same : m.stack = caller.stack) : caller.Ended outer m := by
  obtain ended | pending := reacts
  · exact ended
  · obtain ⟨front, frame, stack, -⟩ := pending.stack
    have length := congrArg List.length (same.symm.trans stack)
    simp only [List.length_append, List.length_cons] at length
    omega

/-- The call looks up the symbol that it needs, or is answered if it needs none. -/
def LooksUp (setup : Setup) (m : Machine) (outer : Step) : Option Symbol → Machine → Prop
  | none, next => ∃ answer, next = m.deliver outer answer
  | some s, next => ∃ job, next = m.lookup setup s outer job

/-- The step that makes a request. The call has ended with it unless the step starts a resolver. -/
lemma request_begins (setup : Setup) (nested : m.Nested) (running : m.halted = none)
    {operands : Request Operand} (call : m.next? = some outer)
    (kind : outer.call = .request operands) :
    ∃ next, m.step setup = some next ∧
      next = (m.begun.primed outer).request setup outer
        (operands.map fun operand => ⟨m.value operand⟩) ∧
      (next.stack = (m.begun.primed outer).stack → m.begun.Ended outer next) := by
  have made := step_eq_call setup running call
  have begun : m.begun.halted = none := m.halted_begun.trans running
  have reacts := (nested.begun.reacts_call setup begun outer).ended_or_pending
  refine ⟨_, made, call_request setup m kind, fun same => ended_of_stack_eq reacts ?_⟩
  rw [same, primed_eq]

/-- The step that makes a request: it looks up the symbol that the request needs, touches no other
slot, and comes to one of three ends. -/
lemma request_made (layered : ∀ config, setup.route ≠ .direct config) (proper : Proper setup m)
    (running : m.halted = none) {operands : Request Operand} {needed : Option Symbol}
    (call : m.next? = some outer) (kind : outer.call = .request operands)
    (needs : setup.route.needed? m.image.arena (operands.map fun operand => ⟨m.value operand⟩) =
      needed) :
    ∃ next, m.step setup = some next ∧
      (∃ configured reports,
        LooksUp setup ((m.begun.primed outer).entered configured reports) outer needed next) ∧
      (∀ t, needed ≠ some t → next.image.table.slots t = m.image.table.slots t) ∧
      (m.begun.Ended outer next ∧ next.halted = none ∧
          (∀ s, needed = some s →
            (m.image.table.slots s).state ≠ .unresolved ∧ ¬m.Failed s ∧ ¬next.Failed s) ∨
        m.begun.Ended outer next ∧
          (∃ s, needed = some s ∧ next.AbortedFor s ∧ m.Failed s ∧ Untouched m next) ∨
        ∃ configured reports task request, needed = some task.symbol ∧
          (m.image.table.slots task.symbol).state = .unresolved ∧
          next = ((m.begun.primed outer).entered configured reports).claimed setup task.symbol
            outer (.request request task)) := by
  obtain ⟨_, made, rfl, ends⟩ := request_begins setup proper.nested running call kind
  have image := m.image_primed outer
  have began : (m.begun.primed outer).halted = none := (m.halted_primed outer).trans running
  have met := (proper.nested.primed outer).met_request layered outer
    (operands.map fun operand => ⟨m.value operand⟩)
  have table : (m.begun.primed outer).image.table = m.image.table := by rw [image]
  have arena : (m.begun.primed outer).image.arena = m.image.arena := by rw [image]
  obtain ⟨configured, reports, looks⟩ := request_cases layered (m.begun.primed outer) outer
    (operands.map fun operand => ⟨m.value operand⟩)
  have verdict := met.verdict (proper.nested.primed outer) began
  refine ⟨_, made, ⟨configured, reports, ?looks⟩, fun t other => ?slots, ?verdict⟩
  case looks =>
    rw [arena, needs] at looks
    obtain ⟨rfl, answer, -, eq⟩ | ⟨task, -, serves, eq⟩ := looks
    · exact ⟨answer, eq⟩
    · rw [← needs, serves.needed?_eq]
      exact ⟨_, eq⟩
  case slots =>
    have slots := met.slots_eq t
    rw [arena, needs, table] at slots
    exact slots.resolve_right fun ⟨same, _⟩ => other same
  case verdict =>
    simp only [arena, needs, Failed, table] at verdict
    obtain ⟨halted, same, known⟩ | ⟨s, needed, aborted, failed, -, same, untouched⟩ |
      ⟨configured, reports, task, serves, unresolved, eq⟩ := verdict
    · exact .inl ⟨ends same, halted, known⟩
    · exact .inr (.inl ⟨ends same, s, needed, aborted, failed,
        (untouched_primed m outer).trans untouched⟩)
    · exact .inr (.inr ⟨configured, reports, task, _, needs ▸ serves.needed?_eq, unresolved, eq⟩)

/-- Step `i` of a session belongs to the call itself that is made in state `n`: it makes the call, or
lets the resolver return that the call waits for. -/
def Own (state : Nat → Machine) (n i : Nat) : Prop :=
  i = n ∨ n < i ∧ (state n).begun.Resumes (state i)

/-- What is true of a call that is made in state `n` of a session and ends with step `k`, and that
needs a symbol or none. -/
structure Needs (setup : Setup) (state : Nat → Machine) (n k : Nat) (outer : Step)
    (needed : Option Symbol) : Prop where
  /-- The call waits until it ends. -/
  waits : ∀ i, n < i → i ≤ k → (state n).begun.Pending outer (state i)
  ends : (state n).begun.Ended outer (state (k + 1))
  /-- It looks up the symbol that it needs, or is answered at once if it needs none. -/
  looks : ∃ configured reports, LooksUp setup
    (((state n).begun.primed outer).entered configured reports) outer needed (state (n + 1))
  /-- It goes on at most once, when the resolver of that symbol returns, and then it ends. -/
  resumes : ∀ i, n < i → i ≤ k → Own state n i → i = k ∧ (state k).resolving.head? = needed
  /-- It changes no other slot. -/
  slots : ∀ i, n ≤ i → i ≤ k → Own state n i → ∀ t, needed ≠ some t →
    (state (i + 1)).image.table.slots t = (state i).image.table.slots t
  /-- It aborts if and only if the slot has failed when the call is made or when it ends. -/
  fatal : Own state n k → ((state (k + 1)).Aborted ↔
    ∃ s, needed = some s ∧ ((state n).Failed s ∨ (state (k + 1)).Failed s))
  /-- If it aborts, it has touched nothing, and that slot is reported. -/
  harmless : Own state n k → (state (k + 1)).Aborted →
    ∃ s, needed = some s ∧ (state (k + 1)).AbortedFor s ∧
      ∀ i, n ≤ i → i ≤ k → Own state n i → Untouched (state i) (state (i + 1))
  /-- If it does not go on to its end by itself, a call of a resolver has aborted. -/
  nested : ¬Own state n k → (state (k + 1)).Aborted

/-- A call that ends with the step that makes it. -/
lemma Needs.of_ended {state : Nat → Machine} {n : Nat} {needed : Option Symbol}
    (ended : (state n).begun.Ended outer (state (n + 1)))
    (looks : ∃ configured reports, LooksUp setup
      (((state n).begun.primed outer).entered configured reports) outer needed (state (n + 1)))
    (slots : ∀ t, needed ≠ some t →
      (state (n + 1)).image.table.slots t = (state n).image.table.slots t)
    (fatal : (state (n + 1)).Aborted ↔
      ∃ s, needed = some s ∧ ((state n).Failed s ∨ (state (n + 1)).Failed s))
    (harmless : (state (n + 1)).Aborted →
      ∃ s, needed = some s ∧ (state (n + 1)).AbortedFor s ∧ Untouched (state n) (state (n + 1))) :
    Needs setup state n n outer needed where
  waits := fun i lt le => absurd le (Nat.not_le_of_lt lt)
  ends := ended
  looks := looks
  resumes := fun i lt le => absurd le (Nat.not_le_of_lt lt)
  slots := fun i ge le _ t => by
    obtain rfl := Nat.le_antisymm le ge
    exact slots t
  fatal := fun _ => fatal
  harmless := fun _ aborted => by
    obtain ⟨s, needed, abortedFor, untouched⟩ := harmless aborted
    refine ⟨s, needed, abortedFor, fun i ge le _ => ?_⟩
    obtain rfl := Nat.le_antisymm le ge
    exact untouched
  nested := fun other => absurd (.inl rfl) other

section Run

variable (layered : ∀ config, setup.route ≠ .direct config) {first : Machine}
  (proper : Proper setup first)

include layered proper

/-- A call that waits in a state of a session does so until it is resumed, or a call of a resolver
aborts the process. -/
lemma waits_until {n : Nat} {job : Job} (waits : caller.Waits s outer job (after setup n first)) :
    ∃ k ≥ n, (∀ i, n ≤ i → i ≤ k → caller.Waits s outer job (after setup i first)) ∧
      (∀ i, n ≤ i → i < k → ¬caller.Resumes (after setup i first)) ∧
      (caller.Resumes (after setup k first) ∨ (after setup (k + 1) first).Aborted) := by
  obtain ⟨k, waiting, between, last⟩ := waits.ends setup (proper.after layered n).nested
  simp only [← after_add, ← Nat.add_assoc] at waiting between last
  refine ⟨n + k, Nat.le_add_right n k, fun i ge le => ?_, fun i ge lt => ?_, last⟩
  · obtain ⟨j, rfl⟩ := Nat.exists_eq_add_of_le ge
    exact waiting j (by omega)
  · obtain ⟨j, rfl⟩ := Nat.exists_eq_add_of_le ge
    exact between j (by omega)

/-- A call that claims the slot of the symbol that it needs goes on when the resolver returns. -/
lemma needs_of_claimed {n : Nat} {needed : Option Symbol} {configured : Bool}
    {reports : List Diagnostic} (running : (after setup n first).halted = none)
    (symbol : needed = some task.symbol)
    (unresolved : ((after setup n first).image.table.slots task.symbol).state = .unresolved)
    (claimed : after setup (n + 1) first =
      (((after setup n first).begun.primed outer).entered configured reports).claimed setup
        task.symbol outer (.request request task))
    (looks : ∃ configured reports, LooksUp setup
      (((after setup n first).begun.primed outer).entered configured reports) outer needed
        (after setup (n + 1) first)) :
    ∃ k > n, Needs setup (fun i => after setup i first) n k outer needed ∧
      (Own (fun i => after setup i first) n k → (after setup (k + 1) first).Settled task.symbol) := by
  have waits : (after setup n first).begun.Waits task.symbol outer (.request request task)
      (after setup (n + 1) first) := by
    rw [claimed]
    exact waits_claimed running outer configured reports task.symbol (.request request task)
  obtain ⟨k, gt, waiting, between, last⟩ := waits_until layered proper waits
  obtain ⟨next, h⟩ := (waiting k gt (Nat.le_refl k)).goes_on setup
  have succ : after setup (k + 1) first = next := after_succ_of_step h
  have made : Untouched (after setup n first) (after setup (n + 1) first) := by
    rw [claimed]
    exact untouched_waits setup _ outer configured reports task.symbol _
  have others (t : Symbol) (other : needed ≠ some t) :
      (after setup (n + 1) first).image.table.slots t =
        (after setup n first).image.table.slots t := by
    rw [claimed]
    have ne : t ≠ task.symbol := fun same => other (same ▸ symbol)
    exact (if_neg ne).trans (by rw [entered, image_primed])
  -- the steps of the call itself are the first one, and the last one if it is resumed
  have own {i : Nat} (le : i ≤ k) (own : Own (fun i => after setup i first) n i) :
      i = n ∨ i = k ∧ (after setup n first).begun.Resumes (after setup k first) := by
    obtain first | ⟨lt, resumes⟩ := own
    · exact .inl first
    · obtain last | before := Nat.eq_or_lt_of_le le
      · exact .inr ⟨last, last ▸ resumes⟩
      · exact absurd resumes (between i lt before)
  refine ⟨k, gt, ?_⟩
  by_cases resumes : (after setup n first).begun.Resumes (after setup k first)
  case neg =>
    have aborted := last.resolve_left resumes
    have foreign : ¬Own (fun i => after setup i first) n k := fun h =>
      (own (Nat.le_refl k) h).elim (fun same => by omega) fun ⟨_, h⟩ => resumes h
    refine ⟨⟨fun i lt le => (waiting i lt le).pending, .inr aborted, looks, fun i lt le h => ?_,
      fun i ge le h => ?_, fun h => absurd h foreign, fun h => absurd h foreign, fun _ => aborted⟩,
      fun h => absurd h foreign⟩
    · exact absurd (own le h) (by rintro (same | ⟨-, h⟩); exacts [by omega, resumes h])
    · obtain rfl | ⟨-, h⟩ := own le h
      · exact others
      · exact absurd h resumes
  case pos =>
    have last := waiting k gt (Nat.le_refl k)
    obtain ⟨head, stack, slots, verdict⟩ :=
      last.resumed layered (proper.after layered k) resumes h
    have ended := ended_of_stack_eq (last.pending.step (proper.after layered k).nested h) stack
    rw [← succ] at slots verdict ended
    refine ⟨⟨fun i lt le => (waiting i lt le).pending, ended, looks, fun i lt le h => ?_,
      fun i ge le h t other => ?_, fun _ => ?_, fun _ aborted => ?_, fun foreign => ?_⟩, fun _ => ?_⟩
    · obtain rfl | ⟨same, -⟩ := own le h
      · omega
      · exact ⟨same, head.trans symbol.symm⟩
    · obtain rfl | ⟨rfl, -⟩ := own le h
      · exact others t other
      · exact slots t fun same => other (same ▸ symbol)
    · constructor
      · intro aborted
        obtain ⟨halted, -⟩ | ⟨-, failed, -⟩ := verdict
        · exact absurd aborted (not_aborted halted)
        · exact ⟨task.symbol, symbol, .inr failed⟩
      · rintro ⟨s, needed, failed⟩
        obtain rfl := Option.some.inj (symbol.symm.trans needed)
        obtain ⟨-, ready⟩ | ⟨aborted, -⟩ := verdict
        · simp [Failed, unresolved, ready] at failed
        · exact ⟨task.symbol, aborted.halted⟩
    · obtain ⟨halted, -⟩ | ⟨abortedFor, -, untouched⟩ := verdict
      · exact absurd aborted (not_aborted halted)
      · refine ⟨task.symbol, symbol, abortedFor, fun i ge le h => ?_⟩
        obtain rfl | ⟨rfl, -⟩ := own le h
        · exact made
        · exact succ ▸ untouched
    · exact absurd (.inr ⟨gt, resumes⟩) foreign
    · exact verdict.imp (·.2) (·.2.1)

/-- What a call needs is known when it is made. It ends at once if the slot of the symbol has been
claimed by then, and else claims it. -/
lemma exists_needs {n : Nat} {operands : Request Operand} {needed : Option Symbol}
    (running : (after setup n first).halted = none) (call : (after setup n first).next? = some outer)
    (kind : outer.call = .request operands)
    (needs : setup.route.needed? (after setup n first).image.arena
      (operands.map fun operand => ⟨(after setup n first).value operand⟩) = needed) :
    ∃ k ≥ n, Needs setup (fun i => after setup i first) n k outer needed ∧
      (k = n ∧ (∀ s, needed = some s →
          ((after setup n first).image.table.slots s).state ≠ .unresolved) ∨
        ∃ s, needed = some s ∧ ((after setup n first).image.table.slots s).state = .unresolved ∧
          (Own (fun i => after setup i first) n k → (after setup (k + 1) first).Settled s)) := by
  obtain ⟨next, h, looks, slots, verdict⟩ :=
    request_made layered (proper.after layered n) running call kind needs
  have succ : after setup (n + 1) first = next := after_succ_of_step h
  subst succ
  obtain ⟨ended, halted, known⟩ | ⟨ended, s, symbol, aborted, failed, untouched⟩ |
    ⟨configured, reports, task, request, symbol, unresolved, claimed⟩ := verdict
  · refine ⟨n, Nat.le_refl n, .of_ended ended looks slots ⟨fun aborted => ?_, ?_⟩
      fun aborted => ?_, .inl ⟨rfl, fun s needs => (known s needs).1⟩⟩
    · exact absurd aborted (not_aborted halted)
    · rintro ⟨s, symbol, before | after⟩
      · exact absurd before (known s symbol).2.1
      · exact absurd after (known s symbol).2.2
    · exact absurd aborted (not_aborted halted)
  · refine ⟨n, Nat.le_refl n, .of_ended ended looks slots ⟨fun _ => ?_, fun _ => ?_⟩ fun _ => ?_,
      .inl ⟨rfl, fun t needs => ?_⟩⟩
    · exact ⟨s, symbol, .inl failed⟩
    · exact ⟨s, aborted.halted⟩
    · exact ⟨s, symbol, aborted, untouched⟩
    · obtain rfl := Option.some.inj (symbol.symm.trans needs)
      rw [failed]
      nofun
  · obtain ⟨k, gt, needs, settled⟩ :=
      needs_of_claimed layered proper running symbol unresolved claimed looks
    exact ⟨k, Nat.le_of_lt gt, needs, .inr ⟨task.symbol, symbol, unresolved, settled⟩⟩

end Run

/-- A call needs one symbol at most, and is fatal exactly if that one has failed. Take any session
over the symbol table, with or without the interposer above it, any arena and any resolvers, and any
call of the allocator that is made in it, by the application or by a resolver, in state `n` say. What
the call needs is read off the state (`Route.needed?`). It ends with a step `k`, and what it does by
itself is said by `Needs`: it looks up the symbol that it needs, if any, changes no other slot, and
aborts, unless the call of a resolver does, if and only if that slot has failed when the call is made
or when it ends; then the failure is what was reported last, and no step of the call has called a
function of the heap or changed a byte of the heap or the arena.

So with every slot failed a call aborts at once if it needs a symbol, and else returns. Where no
resolver finds an address, a call of the application aborts if it needs a symbol, and else returns. -/
theorem needs_one_symbol {setup : Setup} (layered : ∀ config, setup.route ≠ .direct config)
    (heapCapacity capacity : Nat) (script : List Step) (n : Nat) :
    let state := fun i => after setup i (start (.fresh heapCapacity capacity) script)
    let m := state n
    m.halted = none → ∀ outer operands, m.next? = some outer → outer.call = .request operands →
      let needed := setup.route.needed? m.image.arena
        (operands.map fun operand => ⟨m.value operand⟩)
      ∃ k ≥ n, Needs setup state n k outer needed ∧
        ((∀ s, m.Failed s) → k = n ∧ ((state (k + 1)).Aborted ↔ needed.isSome)) ∧
        ((∀ s, ((setup.resolver s).resolution s).bound? = none) → m.stack = [] →
          ((state (k + 1)).Aborted ↔ needed.isSome)) := by
  intro state m running outer operands call kind needed
  have proper : Proper setup (start (.fresh heapCapacity capacity) script) :=
    .start setup heapCapacity capacity script
  obtain ⟨k, ge, needs, known⟩ := exists_needs layered proper running call kind rfl
  refine ⟨k, ge, needs, fun failed => ?failed, fun unbound idle => ?unbound⟩
  case failed =>
    obtain ⟨rfl, -⟩ | ⟨s, -, unresolved, -⟩ := known
    · refine ⟨rfl, (needs.fatal (.inl rfl)).trans ?_⟩
      rw [Option.isSome_iff_exists]
      exact exists_congr fun s => and_iff_left (.inl (failed s))
    · have failed := failed s
      rw [Failed, unresolved] at failed
      cases failed
  case unbound =>
    have unready (i : Nat) (s : Symbol) : ((state i).image.table.slots s).state ≠ .ready := by
      intro ready
      have bound := proper.bound_of_ready layered (s := s) nofun i ready
      rw [unbound] at bound
      cases bound
    obtain ⟨rfl, claimed⟩ | ⟨s, symbol, unresolved, settled⟩ := known
    · rw [needs.fatal (.inl rfl), Option.isSome_iff_exists]
      refine exists_congr fun s => and_iff_left_of_imp fun symbol => .inl ?_
      have idle : (m.image.table.slots s).state ≠ .resolving := by
        rw [Ne, (proper.after layered k).nested.slots s, resolving, idle]
        exact List.not_mem_nil
      cases state : (m.image.table.slots s).state with
      | unresolved => exact absurd state (claimed s symbol)
      | resolving => exact absurd state idle
      | ready => exact absurd state (unready k s)
      | failed => exact state
    · have aborted : (state (k + 1)).Aborted := by
        by_cases own : Own state n k
        · refine (needs.fatal own).2 ⟨s, symbol, .inr ?_⟩
          exact (settled own).resolve_left (unready (k + 1) s)
        · exact needs.nested own
      have some : needed = some s := symbol
      rw [some]
      exact iff_of_true aborted rfl

/-- A process whose loader finds nothing, and frees null and looks `malloc` up while it looks for
`malloc`. -/
def lameLoader : Setup where
  route := .layered .default
  access := .tagIgnoring
  resolver
    | .malloc => ⟨.unresolved, none,
      [⟨.request (.free (.address 0)), none, none⟩, ⟨.lookup .malloc, none, none⟩]⟩
    | _ => ⟨.null, none, []⟩

/-- The lame loader: an allocation waits for `malloc`, and aborts. -/
theorem needs_one_symbol_lame :
    let state := fun i => after lameLoader i
      (start (.fresh 65536 1024) [⟨.request (.malloc 8), none, none⟩])
    ∃ k, Needs lameLoader state 0 k ⟨.request (.malloc 8), none, none⟩ (some .malloc) ∧
      (state (k + 1)).Aborted := by
  obtain ⟨k, -, needs, -, unbound⟩ := @needs_one_symbol lameLoader nofun 65536 1024
    [⟨.request (.malloc 8), none, none⟩] 0 rfl ⟨.request (.malloc 8), none, none⟩ (.malloc 8) rfl rfl
  exact ⟨k, needs, (unbound (by intro s; cases s <;> rfl) rfl).2 rfl⟩

end PointerTagging.Session.Machine
