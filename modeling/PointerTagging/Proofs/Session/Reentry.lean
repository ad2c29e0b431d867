import Mathlib.Data.List.Perm.Subperm
import PointerTagging.Proofs.Session.Machine
import PointerTagging.Proofs.Symbol

/-!
# Resolvers that call back

A resolver may call the allocator, and so may the resolvers that its calls start. In every state of
a session the symbols of the running resolvers are the ones whose slots are being resolved and the
ones that are marked on the thread (`Machine.Nested`). So a lookup never waits for itself, and every
call that is made ends (`Machine.reentrant`).
-/

namespace PointerTagging

namespace SymbolSet

variable (set : SymbolSet) (s : Symbol) (i : Nat)

/-- A set with a symbol has the symbol's bit, and otherwise those that it had. -/
lemma getLsbD_insert :
    (set.insert s).bits.getLsbD i = (decide (s.index = i) || set.bits.getLsbD i) := by
  rw [insert, BitVec.getLsbD_or, bit_eq, BitVec.getLsbD_twoPow, decide_eq_true (index_lt s),
    Bool.true_and, Bool.or_comm]

/-- A set without a symbol lacks the symbol's bit, and otherwise has those that it had. -/
lemma getLsbD_erase :
    (set.erase s).bits.getLsbD i = (!decide (s.index = i) && set.bits.getLsbD i) := by
  rw [erase, BitVec.getLsbD_and, bit_eq, BitVec.getLsbD_not, BitVec.getLsbD_twoPow,
    decide_eq_true (index_lt s), Bool.true_and]
  by_cases h : i < 8
  · rw [decide_eq_true h, Bool.true_and, Bool.and_comm]
  · rw [BitVec.getLsbD_of_ge _ _ (Nat.le_of_not_lt h), Bool.false_and, Bool.and_false]

end SymbolSet

namespace SymbolTable

variable (table : SymbolTable) (s t : Symbol)

/-- A claim changes the state of the claimed slot only. -/
lemma state_claim :
    ((table.claim s).slots t).state = if t = s then .resolving else (table.slots t).state := by
  simp only [claim, setSlot]
  split <;> rfl

/-- A slot that is published is no longer being resolved, and the others are as they were. -/
lemma state_publish (resolution : Resolution) :
    ((table.publish s resolution).slots t).state = .resolving ↔
      t ≠ s ∧ (table.slots t).state = .resolving := by
  simp only [publish, setSlot]
  split
  case isTrue same =>
    simp only [same, ne_eq, not_true, false_and, iff_false]
    split <;> simp
  case isFalse other => simp only [ne_eq, other, not_false_eq_true, true_and]

end SymbolTable

/-- A resolution is never reported as still going on. -/
lemma Resolution.lookup_ne_bootstrapping (resolution : Resolution) :
    resolution.lookup ≠ .bootstrapping := by
  unfold lookup
  split <;> exact nofun

namespace Session.Machine

variable {setup : Setup} {m m' next caller : Machine}

/-- The symbols whose resolvers are running, the innermost first. -/
def resolving (m : Machine) : List Symbol := m.stack.map (·.symbol)

/-- The process was aborted. -/
def Aborted (m : Machine) : Prop := ∃ s, m.halted = some (.aborted s)

/-- The call `step`, which `caller` had just begun, has returned `answer` and nothing else has
happened: it was handed to the resolver that made the call, or to the application. -/
def Told (caller : Machine) (step : Step) (answer : Answer) (m : Machine) : Prop :=
  match caller.stack with
  | [] => m.answered = caller.answered ++ [⟨answer, caller.image.events⟩]
  | frame :: _ => m.answered = caller.answered ∧
    m.image.events = caller.image.events ++ [.inside frame.symbol step.call answer]

/-- What a lookup returns of what it is told. An address is shown if it is the resolver's own,
and not that of the heap's function. -/
def shown (setup : Setup) (s : Symbol) : Lookup → Answer
  | .ready addr => .ready (if (setup.resolver s).addr.isSome then some addr else none)
  | .bootstrapping => .bootstrapping
  | .failed => .failed

/-- The call `step`, which `caller` had just begun, has returned: its answer is the last thing that
happened, and whoever made the call can go on as before. -/
structure Returned (caller : Machine) (step : Step) (m : Machine) : Prop where
  running : m.halted = none
  stack : m.stack = caller.stack
  todo : m.todo = caller.todo
  answer : match caller.stack with
    | [] => ∃ entry, m.answered = caller.answered ++ [entry]
    | frame :: _ => m.answered = caller.answered ∧
      ∃ events answer, m.image.events = events ++ [.inside frame.symbol step.call answer]

/-- The call has returned, or aborted the process. -/
def Ended (caller : Machine) (step : Step) (m : Machine) : Prop :=
  caller.Returned step m ∨ m.Aborted

/-- The slots that are being resolved and the marks of the thread are those of the running
resolvers, none of which runs twice, and no lookup waits for a slot. -/
structure Nested (m : Machine) : Prop where
  slots : ∀ s, (m.image.table.slots s).state = .resolving ↔ s ∈ m.resolving
  marks : ∀ i, m.image.table.resolving.bits.getLsbD i = true ↔ ∃ s ∈ m.resolving, s.index = i
  nodup : m.resolving.Nodup
  waits : ∀ s, m.halted ≠ some (.spinning s)

/-- The machine after a lookup has claimed a slot and started its resolver. -/
def claimed (setup : Setup) (m : Machine) (s : Symbol) (step : Step) (job : Job) : Machine :=
  { m with
    image := { m.image with table := m.image.table.claim s }.record (.resolve s)
    stack := ⟨s, (setup.resolver s).script, step, job⟩ :: m.stack }

/-! ## A call ends at once, or starts a resolver -/

/-- Only what is left to play, and what has been answered, matters of the caller. -/
lemma Returned.congr {step : Step} (returned : m'.Returned step next) (stack : m'.stack = m.stack)
    (todo : m'.todo = m.todo) (answered : m'.answered = m.answered) : m.Returned step next where
  running := returned.running
  stack := returned.stack.trans stack
  todo := returned.todo.trans todo
  answer := by
    have answer := returned.answer
    rwa [stack, answered] at answer

/-- Only what is left to play, and what has been answered, matters of the caller. -/
lemma Ended.congr {step : Step} (ended : m'.Ended step next) (stack : m'.stack = m.stack)
    (todo : m'.todo = m.todo) (answered : m'.answered = m.answered) : m.Ended step next :=
  ended.imp_left fun returned => returned.congr stack todo answered

/-- A label is put on an answer, nothing else. -/
lemma label_eq (m : Machine) (step : Step) (answer : Answer) :
    ∃ labels, m.label step answer = { m with labels } := by
  unfold label
  split <;> exact ⟨_, rfl⟩

/-- An answer that is delivered is what the call returns. -/
lemma told_deliver (m : Machine) (step : Step) (answer : Answer) :
    m.Told step answer (m.deliver step answer) := by
  obtain ⟨labels, label⟩ := m.label_eq step answer
  unfold Told deliver
  rw [label]
  dsimp only
  cases m.stack with
  | nil => rfl
  | cons frame below => exact ⟨rfl, rfl⟩

/-- A call returns one answer at once. -/
lemma Told.answer_eq {step : Step} {answer answer' : Answer} (told : caller.Told step answer m)
    (told' : caller.Told step answer' m) : answer = answer' := by
  unfold Told at told told'
  cases stack : caller.stack with
  | nil =>
    rw [stack] at told told'
    simpa using told.symm.trans told'
  | cons frame below =>
    rw [stack] at told told'
    simpa using told.2.symm.trans told'.2

/-- A lookup that knows what it has found returns this. -/
lemma told_resume (m : Machine) (s : Symbol) (step : Step) (found : Lookup) :
    m.Told step (shown setup s found) (m.resume setup s step .lookup found) := by
  cases found <;> exact told_deliver m step _

/-- An answer that is delivered ends the call. -/
lemma returned_deliver (running : m.halted = none) (step : Step) (answer : Answer) :
    m.Returned step (m.deliver step answer) := by
  have same := sameCourse_deliver m step answer
  have told := told_deliver m step answer
  refine ⟨?_, same.2.1, same.2.2, ?_⟩
  · obtain ⟨labels, label⟩ := m.label_eq step answer
    unfold deliver
    rw [label]
    dsimp only
    split <;> exact running
  · unfold Told at told
    cases stack : m.stack with
    | nil =>
      rw [stack] at told
      exact ⟨_, told⟩
    | cons frame below =>
      rw [stack] at told
      exact ⟨told.1, _, answer, told.2⟩

/-- A response that is delivered ends the call. -/
lemma returned_respond (running : m.halted = none) (step : Step)
    (request : Request PresentedAddr) (response : Response RealAddr) :
    m.Returned step (m.respond setup step request response) := by
  rw [respond_eq]
  have left := returned_deliver
    (m := { m with image := (setup.route.leave setup.access m.image request response).2 }) running
    step (.ofResponse (setup.route.leave setup.access m.image request response).1)
  exact left.congr rfl rfl rfl

/-- A call whose symbol's slot is known ends. -/
lemma ended_resume (running : m.halted = none) (s : Symbol) (step : Step) (job : Job)
    (found : Lookup) : m.Ended step (m.resume setup s step job found) := by
  unfold resume
  cases job with
  | lookup => cases found <;> exact .inl (returned_deliver running _ _)
  | request request task =>
    cases found with
    | ready addr =>
      exact .inl ((returned_respond (m := { m with image := (m.image.carryOut task).2 }) running
        step request _).congr rfl rfl rfl)
    | bootstrapping =>
      exact .inl ((returned_respond (m := { m with image := (m.image.bootstrap task).2 }) running
        step request _).congr rfl rfl rfl)
    | failed => exact .inr ⟨s, rfl⟩

/-- What a call can come to: it ends and leaves the slots as they are, or it claims a slot and waits
for the resolver that it has started. -/
inductive Reacts (setup : Setup) (m : Machine) (step : Step) : Machine → Prop where
  | ends {next : Machine} (same : SameCourse m next) (ended : m.Ended step next) :
    Reacts setup m step next
  | claims {m' : Machine} (same : SameCourse m m') (running : m'.halted = none)
    (answered : m'.answered = m.answered) (s : Symbol) (job : Job)
    (unresolved : (m.image.table.slots s).state = .unresolved) :
    Reacts setup m step (m'.claimed setup s step job)

/-- What a call comes to from a machine with the same left to play. -/
lemma Reacts.of_same {step : Step} (reacts : m'.Reacts setup step next) (same : SameCourse m m')
    (answered : m'.answered = m.answered) : m.Reacts setup step next := by
  cases reacts with
  | ends same' ended =>
    exact .ends (same.trans same') (ended.congr same.2.1 same.2.2 answered)
  | claims same' running answered' s job unresolved =>
    exact .claims (same.trans same') running (answered'.trans answered) s job
      (same.1 ▸ unresolved)

/-- An answer that is delivered at once. -/
lemma reacts_deliver {image : Image} (running : m.halted = none)
    (table : image.table = m.image.table) (step : Step) (answer : Answer) :
    m.Reacts setup step ({ m with image }.deliver step answer) :=
  .ends ((SameCourse.of_image table).trans (sameCourse_deliver _ _ _))
    (.inl ((returned_deliver (m := { m with image }) running step answer).congr rfl rfl rfl))

namespace Nested

/-- The marks of the thread hold the symbols of the running resolvers. -/
lemma contains_iff (nested : m.Nested) (s : Symbol) :
    m.image.table.resolving.contains s = true ↔ s ∈ m.resolving := by
  rw [SymbolSet.contains_eq, nested.marks]
  constructor
  · rintro ⟨t, mem, same⟩
    exact Symbol.index_injective same ▸ mem
  · exact fun mem => ⟨s, mem, rfl⟩

/-- A lookup is told that it is bootstrapping if the symbol's resolver is running, and what the slot
holds if that is known. Else it claims the slot. -/
lemma lookup_eq (nested : m.Nested) (s : Symbol) (step : Step) (job : Job) :
    m.lookup setup s step job =
      if s ∈ m.resolving then m.resume setup s step job .bootstrapping
      else match (m.image.table.slots s).state with
        | .ready => m.resume setup s step job (.ready (m.image.table.slots s).addr)
        | .failed => m.resume setup s step job .failed
        | .resolving | .unresolved => m.claimed setup s step job := by
  have slot := nested.slots s
  have mark := nested.contains_iff s
  by_cases running : s ∈ m.resolving
  · rw [if_pos running]
    simp only [lookup, slot.2 running, mark.2 running, if_true]
  · rw [if_neg running]
    cases state : (m.image.table.slots s).state with
    | ready => simp only [lookup, state]
    | failed => simp only [lookup, state]
    | resolving => exact absurd (slot.1 state) running
    | unresolved =>
      simp only [lookup, state]
      rfl

/-- A lookup is told at once that it is bootstrapping exactly if the symbol's resolver runs. -/
lemma told_lookup_iff (nested : m.Nested) (s : Symbol) (step : Step) :
    m.Told step .bootstrapping (m.lookup setup s step .lookup) ↔ s ∈ m.resolving := by
  rw [nested.lookup_eq]
  by_cases running : s ∈ m.resolving
  · rw [if_pos running]
    exact iff_of_true (told_resume m s step .bootstrapping) running
  · rw [if_neg running]
    refine iff_of_false ?_ running
    split
    case h_1 => exact fun told => nomatch told.answer_eq (told_resume m s step _)
    case h_2 => exact fun told => nomatch told.answer_eq (told_resume m s step _)
    case h_3 state => exact absurd ((nested.slots s).1 state) running
    case h_4 =>
      -- the lookup waits for the resolver that it has started, and nothing has been answered
      unfold Told
      cases m.stack with
      | nil => exact fun told => by simp [Machine.claimed, Image.record] at told
      | cons frame below => exact fun told => by simp [Machine.claimed, Image.record] at told

/-- A machine with the same slots and resolvers in which no lookup waits. -/
lemma of_same (nested : m.Nested) (same : SameCourse m m')
    (waits : ∀ s, m'.halted ≠ some (.spinning s)) : m'.Nested := by
  obtain ⟨table, stack, _⟩ := same
  refine ⟨?_, ?_, ?_, waits⟩
  · simpa only [table, resolving, stack] using nested.slots
  · simpa only [table, resolving, stack] using nested.marks
  · simpa only [resolving, stack] using nested.nodup

/-- No lookup waits where a call has ended. -/
lemma waits_of_ended {step : Step} (ended : caller.Ended step m) (s : Symbol) :
    m.halted ≠ some (.spinning s) := by
  obtain returned | ⟨t, aborted⟩ := ended
  · rw [returned.running]
    exact nofun
  · rw [aborted]
    exact nofun

/-- The resolver of a slot that is claimed is one more that runs. -/
lemma claimed (nested : m.Nested) {s : Symbol} (running : m.halted = none) (step : Step) (job : Job)
    (unresolved : (m.image.table.slots s).state = .unresolved) :
    (m.claimed setup s step job).Nested where
  slots t := by
    change ((m.image.table.claim s).slots t).state = .resolving ↔ t ∈ s :: m.resolving
    rw [SymbolTable.state_claim, List.mem_cons, ← nested.slots t]
    split
    case isTrue same => simp only [same, true_or]
    case isFalse other => simp only [other, false_or]
  marks i := by
    change ((m.image.table.resolving.insert s).bits.getLsbD i = true) ↔
      ∃ t ∈ s :: m.resolving, t.index = i
    simp only [SymbolSet.getLsbD_insert, Bool.or_eq_true, decide_eq_true_iff, nested.marks,
      List.mem_cons, exists_eq_or_imp]
  nodup := by
    refine List.nodup_cons.2 ⟨?_, nested.nodup⟩
    change s ∉ m.resolving
    rw [← nested.slots s, unresolved]
    exact nofun
  waits _ := by
    change m.halted ≠ _
    rw [running]
    exact nofun

/-- The resolver of a slot that is published no longer runs. -/
lemma published (nested : m.Nested) {frame : Frame} {stack : List Frame} {image : Image}
    (eq : m.stack = frame :: stack) (resolution : Resolution)
    (table : image.table = m.image.table.publish frame.symbol resolution) :
    ({ m with image, stack } : Machine).Nested := by
  have resolving : m.resolving = frame.symbol :: stack.map (·.symbol) := by
    rw [Machine.resolving, eq, List.map_cons]
  obtain ⟨absent, nodup⟩ := List.nodup_cons.1 (resolving ▸ nested.nodup)
  refine ⟨fun t => ?_, fun i => ?_, nodup, nested.waits⟩
  · change (image.table.slots t).state = .resolving ↔ t ∈ stack.map (·.symbol)
    rw [table, SymbolTable.state_publish, nested.slots, resolving, List.mem_cons]
    constructor
    · rintro ⟨other, same | mem⟩
      · exact absurd same other
      · exact mem
    · intro mem
      exact ⟨fun same => absent (same ▸ mem), .inr mem⟩
  · change image.table.resolving.bits.getLsbD i = true ↔ ∃ t ∈ stack.map (·.symbol), t.index = i
    have erased : image.table.resolving = m.image.table.resolving.erase frame.symbol :=
      congrArg SymbolTable.resolving table
    simp only [erased, SymbolSet.getLsbD_erase, Bool.and_eq_true, nested.marks, resolving,
      List.mem_cons, exists_eq_or_imp]
    constructor
    · rintro ⟨other, same | exists'⟩
      · simp [same] at other
      · exact exists'
    · rintro ⟨t, mem, same⟩
      refine ⟨?_, .inr ⟨t, mem, same⟩⟩
      have other : frame.symbol.index ≠ i := fun e =>
        absent (Symbol.index_injective (e.trans same.symm) ▸ mem)
      simpa using other

/-! ### What a call comes to -/

/-- A lookup ends at once, or claims an unclaimed slot. -/
lemma reacts_lookup (nested : m.Nested) (running : m.halted = none) (s : Symbol) (step : Step)
    (job : Job) : m.Reacts setup step (m.lookup setup s step job) := by
  have resumes (found : Lookup) : m.Reacts setup step (m.resume setup s step job found) :=
    .ends (sameCourse_resume _ _ _ _ _ _) (ended_resume running s step job found)
  rw [nested.lookup_eq]
  split
  case isTrue => exact resumes _
  case isFalse out =>
    split
    case h_1 => exact resumes _
    case h_2 => exact resumes _
    case h_3 resolving => exact absurd ((nested.slots s).1 resolving) out
    case h_4 unresolved => exact .claims ⟨rfl, rfl, rfl⟩ running rfl s job unresolved

/-- A request ends at once, or waits for a symbol. -/
lemma reacts_request (nested : m.Nested) (running : m.halted = none) (step : Step)
    (request : Request PresentedAddr) :
    m.Reacts setup step (m.request setup step request) := by
  have entered := Route.table_enter setup.route m.image request
  unfold Machine.request
  split <;> rename_i h <;> rw [h] at entered
  · exact reacts_deliver running entered step _
  · exact reacts_deliver running entered step _
  · exact reacts_deliver running entered step _
  · rename_i real image
    have planned := Route.table_plan setup.route image real
    split <;> rename_i h' <;> rw [h'] at planned <;> have table := planned.trans entered
    · rw [respond_eq]
      exact reacts_deliver running ((Route.table_leave _ _ _ _ _).trans table) step _
    · have same := SameCourse.of_image table
      exact ((nested.of_same same nested.waits).reacts_lookup running _ step _).of_same same rfl

/-- A call ends at once, or waits for a symbol. -/
lemma reacts_call (setup : Setup) (nested : m.Nested) (running : m.halted = none) (step : Step) :
    m.Reacts setup step (m.call setup step) := by
  unfold Machine.call
  have forced : SameCourse m (if step.forced.isSome then
      { m with image := { m.image with heap := { m.image.heap with forced := step.forced } } }
      else m) ∧ (if step.forced.isSome then
      { m with image := { m.image with heap := { m.image.heap with forced := step.forced } } }
      else m).halted = none ∧ (if step.forced.isSome then
      { m with image := { m.image with heap := { m.image.heap with forced := step.forced } } }
      else m).answered = m.answered := by
    split <;> exact ⟨⟨rfl, rfl, rfl⟩, running, rfl⟩
  generalize (if step.forced.isSome then
      { m with image := { m.image with heap := { m.image.heap with forced := step.forced } } }
      else m) = m' at forced
  obtain ⟨same, running, answered⟩ := forced
  have nested : m'.Nested := nested.of_same same fun s => by rw [running]; exact nofun
  refine Reacts.of_same ?_ same answered
  have answers (answer : Answer) : m'.Reacts setup step (m'.deliver step answer) :=
    reacts_deliver running rfl step answer
  cases step.call with
  | request r => exact nested.reacts_request running step _
  | write target bytes =>
    dsimp only
    split
    · exact reacts_deliver running (by rfl) step _
    · exact answers _
  | read source len =>
    dsimp only
    split <;> exact answers _
  | lookup s => exact nested.reacts_lookup running s step .lookup
  | arenaAlloc size => exact reacts_deliver running (Image.table_arenaAlloc _ _) step _
  | arenaContains addr => exact answers _
  | arenaUsable addr => exact answers _
  | stats => exact answers _
  | config => exact reacts_deliver running (Route.table_configure _ _) step _

/-- A call of a lookup is told at once that it is bootstrapping exactly if the symbol's resolver is
running. -/
lemma told_call_iff (setup : Setup) (nested : m.Nested) {step : Step} {s : Symbol}
    (lookup : step.call = .lookup s) :
    m.Told step .bootstrapping (m.call setup step) ↔ s ∈ m.resolving := by
  simp only [Machine.call, lookup]
  split
  case isTrue =>
    let heap := { m.image.heap with forced := step.forced }
    have nested : Nested { m with image := { m.image with heap } } :=
      ⟨nested.slots, nested.marks, nested.nodup, nested.waits⟩
    exact nested.told_lookup_iff s step
  case isFalse => exact nested.told_lookup_iff s step

/-- The running resolvers are those of the slots after a call. -/
lemma of_reacts {step : Step} (nested : m.Nested) (reacts : m.Reacts setup step next) :
    next.Nested := by
  cases reacts with
  | ends same ended => exact nested.of_same same (waits_of_ended ended)
  | claims same running answered s job unresolved =>
    have nested := nested.of_same same fun s => by rw [running]; exact nofun
    exact nested.claimed running _ job (same.1 ▸ unresolved)

end Nested

/-! ## The steps of a session -/

/-- A resolver that returns publishes its slot, and ends the call that waited for its symbol. -/
lemma ended_settle (running : m.halted = none) (frame : Frame) :
    ∃ image : Image,
      image.table = m.image.table.publish frame.symbol
        ((setup.resolver frame.symbol).resolution frame.symbol) ∧
      SameCourse { m with image } (m.settle setup frame) ∧
      m.Ended frame.step (m.settle setup frame) := by
  have resumes : ∃ image : Image,
      image.table = m.image.table.publish frame.symbol
        ((setup.resolver frame.symbol).resolution frame.symbol) ∧
      m.settle setup frame = ({ m with image } : Machine).resume setup frame.symbol frame.step
        frame.job ((setup.resolver frame.symbol).resolution frame.symbol).lookup := ⟨_, rfl, rfl⟩
  obtain ⟨image, table, eq⟩ := resumes
  rw [eq]
  exact ⟨image, table, sameCourse_resume _ _ _ _ _ _,
    (ended_resume (m := { m with image }) running _ _ _ _).congr rfl rfl rfl⟩

namespace Nested

/-- Making the next call starts or ends no resolver. -/
lemma begun (nested : m.Nested) : m.begun.Nested := by
  unfold Machine.begun
  split
  case h_1 => exact ⟨nested.slots, nested.marks, nested.nodup, nested.waits⟩
  case h_2 frame stack eq =>
    obtain ⟨slots, marks, nodup, waits⟩ := nested
    rw [resolving, eq] at slots marks nodup
    exact ⟨slots, marks, nodup, waits⟩

/-- The resolvers that are running when the next call is made. -/
lemma resolving_begun (m : Machine) : m.begun.resolving = m.resolving := by
  unfold Machine.begun
  split
  case h_1 => rfl
  case h_2 frame stack eq => rw [resolving, resolving, eq]; rfl

/-- A session keeps its resolvers nested. -/
theorem step (nested : m.Nested) (h : m.step setup = some next) : next.Nested := by
  obtain ⟨running, ⟨step, call, rfl⟩ | ⟨frame, stack, eq, -, rfl⟩⟩ := step_cases h
  · have running : m.begun.halted = none := m.halted_begun.trans running
    exact nested.begun.of_reacts (nested.begun.reacts_call setup running step)
  · obtain ⟨image, table, same, ended⟩ := @ended_settle setup { m with stack } running frame
    exact (nested.published eq _ table).of_same same (waits_of_ended ended)

/-- A session begins without resolvers. -/
lemma start (heapCapacity capacity : Nat) (script : List Step) :
    (start (.fresh heapCapacity capacity) script).Nested where
  slots s := ⟨nofun, nofun⟩
  marks i := by
    change (0 : BitVec 8).getLsbD i = true ↔ ∃ s ∈ ([] : List Symbol), s.index = i
    simp
  nodup := .nil
  waits := nofun

/-- The resolvers are nested in every state of a session. -/
theorem after (nested : m.Nested) (n : Nat) : (after setup n m).Nested := by
  induction n generalizing m with
  | zero => exact nested
  | succ n ih =>
    cases h : m.step setup with
    | none => simpa only [Machine.after, h] using nested
    | some next => simpa only [Machine.after, h] using ih (nested.step h)

end Nested

/-! ## Every call ends -/

/-- The call `step`, which `caller` had just begun, waits for a resolver that is running. -/
structure Pending (caller : Machine) (step : Step) (m : Machine) : Prop where
  running : m.halted = none
  stack : ∃ front frame, m.stack = front ++ frame :: caller.stack ∧ frame.step = step
  todo : m.todo = caller.todo
  answered : m.answered = caller.answered

/-- A call ends at once, or waits for the resolver that it has started. -/
lemma Reacts.ended_or_pending {step : Step} (reacts : m.Reacts setup step next) :
    m.Ended step next ∨ m.Pending step next := by
  cases reacts with
  | ends same ended => exact .inl ended
  | @claims m' same running answered s job unresolved =>
    refine .inr ⟨running, ⟨[], ⟨s, (setup.resolver s).script, step, job⟩, ?_, rfl⟩, same.2.2,
      answered⟩
    exact congrArg (_ :: ·) same.2.1

namespace Pending

variable {outer inner : Step}

/-- While a call of a resolver waits, so does the call that the resolver runs for. -/
lemma trans (pending : caller.Pending outer m) (nested : m.Pending inner next) :
    caller.Pending outer next := by
  obtain ⟨front, frame, stack, same⟩ := pending.stack
  obtain ⟨front', frame', stack', -⟩ := nested.stack
  refine ⟨nested.running, ⟨front' ++ frame' :: front, frame, ?_, same⟩,
    nested.todo.trans pending.todo, nested.answered.trans pending.answered⟩
  rw [stack', stack, List.append_assoc, List.cons_append]

/-- After a call of a resolver has returned, the call that the resolver runs for still waits. -/
lemma of_ended (pending : caller.Pending outer m) (ended : m.Ended inner next) :
    caller.Ended outer next ∨ caller.Pending outer next := by
  obtain returned | aborted := ended
  · obtain ⟨front, frame, stack, same⟩ := pending.stack
    have answered : next.answered = m.answered := by
      have answer := returned.answer
      rw [stack] at answer
      cases front with
      | nil => exact answer.1
      | cons top front => exact answer.1
    exact .inr ⟨returned.running, ⟨front, frame, returned.stack.trans stack, same⟩,
      returned.todo.trans pending.todo, answered.trans pending.answered⟩
  · exact .inl (.inr aborted)

/-- A resolver that goes on with its next call is still running. -/
lemma begun (pending : caller.Pending outer m) : caller.Pending outer m.begun := by
  obtain ⟨running, ⟨front, frame, stack, same⟩, todo, answered⟩ := pending
  cases front with
  | nil =>
    rw [List.nil_append] at stack
    simp only [Machine.begun, stack]
    exact ⟨running, ⟨[], { frame with script := frame.script.tail }, rfl, same⟩, todo, answered⟩
  | cons top front =>
    rw [List.cons_append] at stack
    simp only [Machine.begun, stack]
    exact ⟨running, ⟨{ top with script := top.script.tail } :: front, frame, rfl, same⟩, todo,
      answered⟩

/-- A step ends a call that waits, or leaves it waiting. -/
theorem step (nested : m.Nested) (pending : caller.Pending outer m) (h : m.step setup = some next) :
    caller.Ended outer next ∨ caller.Pending outer next := by
  obtain ⟨running, ⟨step, -, rfl⟩ | ⟨top, below, eq, -, rfl⟩⟩ := step_cases h
  · have pending := pending.begun
    obtain ended | waits :=
      (nested.begun.reacts_call setup pending.running step).ended_or_pending
    · exact pending.of_ended ended
    · exact .inr (pending.trans waits)
  · obtain ⟨image, -, -, ended⟩ := @ended_settle setup { m with stack := below } running top
    obtain ⟨front, frame, stack, rfl⟩ := pending.stack
    rw [eq] at stack
    cases front with
    | nil =>
      obtain ⟨rfl, rfl⟩ := List.cons.inj stack
      exact .inl (ended.congr rfl pending.todo pending.answered)
    | cons first front =>
      obtain ⟨rfl, rfl⟩ := List.cons.inj stack
      have pending : caller.Pending frame.step { m with stack := front ++ frame :: caller.stack } :=
        ⟨running, ⟨front, frame, rfl, rfl⟩, pending.todo, pending.answered⟩
      exact pending.of_ended ended

/-- A call that waits ends at last. -/
theorem ends (nested : m.Nested) (pending : caller.Pending outer m) :
    ∃ n, caller.Ended outer (after setup n m) := by
  -- along the run of the session: it stops, and never in a state where a resolver is running
  induction m using run.induct setup with
  | case1 m stopped =>
    obtain ⟨front, frame, stack, -⟩ := pending.stack
    unfold Machine.step at stopped
    rw [pending.running] at stopped
    cases front <;> simp only [stack, List.nil_append, List.cons_append] at stopped <;>
      split at stopped <;> cases stopped
  | case2 m next h ih =>
    obtain ended | waits := pending.step nested h
    · exact ⟨1, by simpa only [after, h] using ended⟩
    · obtain ⟨n, ended⟩ := ih (nested.step h) waits
      exact ⟨n + 1, by simpa only [after, h] using ended⟩

end Pending

/-- A call that is made ends. -/
theorem Nested.ends (setup : Setup) {step : Step} (nested : m.Nested) (running : m.halted = none)
    (h : m.next? = some step) : ∃ n, m.begun.Ended step (Machine.after setup (n + 1) m) := by
  have made := step_eq_call setup running h
  have running : m.begun.halted = none := m.halted_begun.trans running
  have reacts := nested.begun.reacts_call setup running step
  have still := nested.begun.of_reacts reacts
  simp only [Machine.after, made]
  obtain ended | waits := reacts.ended_or_pending
  · exact ⟨0, ended⟩
  · exact waits.ends still

/-- Resolvers may call back. Take any session on one thread, over any route, any arena and any
resolvers, whatever their scripts call and look up, and any state that it passes through, between
the calls of its resolvers as well as between those of the application.

* The slots that are being resolved, the bits that are set on the thread and the symbols of the
  running resolvers are the same, no symbol has two of them, and so there are at most five.
* No lookup waits for a slot. It is told that it is bootstrapping if the symbol's resolver is
  running; else it is told what the slot holds, or it claims the slot and is told, once the resolver
  returns, what the resolver found.
* What a lookup is told is what it returns: that it is bootstrapping, that the symbol failed, or the
  address that was found. The next call, if it is a lookup, returns at once that it is bootstrapping
  exactly if the symbol's resolver is running. A lookup that waits for a resolver returns, once this
  returns, what the resolver found.
* The next call that is made returns or aborts the process.
* If no resolver is running, no bit is set and no slot is being resolved. -/
theorem reentrant (setup : Setup) (heapCapacity capacity : Nat) (script : List Step) (n : Nat) :
    let state := fun i => after setup i (start (.fresh heapCapacity capacity) script)
    let m := state n
    (∀ s, (m.image.table.slots s).state = .resolving ↔ s ∈ m.resolving) ∧
    (∀ i, m.image.table.resolving.bits.getLsbD i = true ↔ ∃ s ∈ m.resolving, s.index = i) ∧
    m.resolving.Nodup ∧ m.stack.length ≤ 5 ∧
    (∀ s, m.halted ≠ some (.spinning s)) ∧
    (∀ s step job, m.lookup setup s step job =
      if s ∈ m.resolving then m.resume setup s step job .bootstrapping
      else match (m.image.table.slots s).state with
        | .ready => m.resume setup s step job (.ready (m.image.table.slots s).addr)
        | .failed => m.resume setup s step job .failed
        | .resolving | .unresolved => m.claimed setup s step job) ∧
    (∀ s, ((setup.resolver s).resolution s).lookup ≠ .bootstrapping) ∧
    (∀ s step found, m.Told step (shown setup s found) (m.resume setup s step .lookup found)) ∧
    (m.halted = none → ∀ step ∈ m.next?, ∀ s, step.call = .lookup s →
      (m.begun.Told step .bootstrapping (state (n + 1)) ↔ s ∈ m.resolving)) ∧
    (m.halted = none → ∀ frame below, m.stack = frame :: below → frame.script = [] →
      frame.job = .lookup → ∃ image, ({ m with image, stack := below } : Machine).Told frame.step
        (shown setup frame.symbol
          ((setup.resolver frame.symbol).resolution frame.symbol).lookup) (state (n + 1))) ∧
    (m.halted = none → ∀ step ∈ m.next?, ∃ k > n, m.begun.Ended step (state k)) ∧
    (m.stack = [] → m.image.table.resolving = .empty ∧
      ∀ s, (m.image.table.slots s).state ≠ .resolving) := by
  intro state m
  have nested : m.Nested := (Nested.start heapCapacity capacity script).after n
  refine ⟨nested.slots, nested.marks, nested.nodup, ?depth, nested.waits, nested.lookup_eq,
    fun s => Resolution.lookup_ne_bootstrapping _, told_resume m,
    fun running step next s lookup => ?told, fun running frame below stack returns job => ?found,
    fun running step next => ?ends, fun idle => ?idle⟩
  case depth =>
    have within := nested.nodup.subperm fun s _ => s.mem_all
    simpa [resolving, Symbol.all] using within.length_le
  case told =>
    have made : state (n + 1) = m.begun.call setup step :=
      after_succ_of_step (step_eq_call setup running next)
    rw [made, nested.begun.told_call_iff setup lookup, Nested.resolving_begun]
  case found =>
    let resumed : Machine := { m with stack := below }
    have settles : m.step setup = some (resumed.settle setup frame) := by
      simp only [step, running, stack, returns, resumed]
    have made : state (n + 1) = resumed.settle setup frame := after_succ_of_step settles
    rw [made, settle, job]
    exact ⟨_, told_resume _ _ _ _⟩
  case ends =>
    obtain ⟨k, ended⟩ := nested.ends setup running next
    refine ⟨n + (k + 1), by omega, ?_⟩
    change m.begun.Ended step (after setup (n + (k + 1)) _)
    rwa [after_add]
  case idle =>
    have none (s : Symbol) : s ∉ m.resolving := by simp [resolving, idle]
    have bits : m.image.table.resolving.bits = 0 := by
      refine BitVec.eq_of_getLsbD_eq fun i _ => ?_
      have unset : m.image.table.resolving.bits.getLsbD i ≠ true := by
        rw [Ne, nested.marks]
        rintro ⟨s, mem, -⟩
        exact none s mem
      simpa using unset
    exact ⟨congrArg SymbolSet.mk bits, fun s => mt (nested.slots s).1 (none s)⟩

/-- A process whose loader frees memory to resolve `malloc`, and allocates to resolve `free`. -/
def entangledLoader : Setup where
  route := .layered .default
  access := .tagIgnoring
  resolver
    | .malloc => ⟨.ok, none, [⟨.request (.free (.address 0x1000)), none, none⟩]⟩
    | .free => ⟨.ok, none, [⟨.request (.malloc 8), none, none⟩, ⟨.lookup .malloc, none, none⟩]⟩
    | _ => ⟨.ok, none, []⟩

/-- The resolver of `free` is told that `malloc` is bootstrapping, and that is all that it sees of
the resolver that waits for it. -/
example :
    let m := after entangledLoader 4
      (start (.fresh 65536 1024) [⟨.request (.malloc 8), none, none⟩])
    m.resolving = [.free, .malloc] ∧
      m.image.events.getLast? = some (.inside .free (.lookup .malloc) .bootstrapping) := by
  decide

end Session.Machine

end PointerTagging
