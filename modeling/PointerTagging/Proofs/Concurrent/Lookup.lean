import PointerTagging.Proofs.Concurrent.Marks

/-!
# What lookups return

What lookups of a slot have read and returned agrees with its cells (`Reachable.honest`). From this,
the stages and the marks the safety of a table follows that any number of threads use
(`Reachable.safe`).
-/

namespace PointerTagging.Concurrent.Symbols

variable {κ : Type} [DecidableEq κ] {resolver : ThreadId → Site κ → Resolver κ}
variable {todo : ThreadId → List (Site κ)} {s s' : State κ} {t : ThreadId}

open State

/-- True of an answer that agrees with the cells of the slot. -/
def Agrees (slot : Slot) : Lookup → Prop
  | .ready addr => slot.state = .ready ∧ slot.addr = addr
  | .bootstrapping => True
  | .failed => slot.state = .failed

/-- What lookups have read and returned agrees with the slots. -/
structure Honest (s : State κ) : Prop where
  reading : ∀ t x, ⟨x, .readAddr⟩ ∈ (s.threads t).stack → (s.slots x).state = .ready
  returned : ∀ r ∈ s.returned, Agrees (s.slots r.site) r.answer

/-- An answer that agrees with a slot still does once the slot is settled. -/
lemma Agrees.mono {slot slot' : Slot} {answer : Lookup} (h : Agrees slot answer)
    (kept : slot.state = .ready ∨ slot.state = .failed → slot' = slot) : Agrees slot' answer := by
  cases answer with
  | ready => exact kept (.inl h.1) ▸ h
  | bootstrapping => trivial
  | failed => exact kept (.inr h) ▸ h

/-- A lookup that is about to read an address has seen that the slot is ready. -/
lemma Transition.reading (transition : Transition resolver s t s') {x : Site κ}
    (mem : ⟨x, .readAddr⟩ ∈ (s'.threads t).stack) :
    ⟨x, .readAddr⟩ ∈ (s.threads t).stack ∨ (s.slots x).state = .ready := by
  cases transition with
  | rest | spin => exact .inl mem
  | begin stack =>
    simp [setThread] at mem
  | bootstrap stack | sawFailed stack | readAddr stack | publishReady stack | publishFailed stack =>
    simp only [answer, withStack, setThread, update_same] at mem
    obtain mem | ⟨rest, ⟨⟩⟩ := mem_tell mem
    exact .inl (stack ▸ List.mem_cons_of_mem _ mem)
  | sawReady stack state =>
    simp only [withStack, setThread, update_same] at mem
    obtain e | mem := List.mem_cons.mp mem
    · cases e
      exact .inr state
    · exact .inl (stack ▸ List.mem_cons_of_mem _ mem)
  | ask stack =>
    simp only [withStack, setThread, update_same] at mem
    obtain ⟨⟨⟩⟩ | mem := List.mem_cons.mp mem
    exact .inl (stack ▸ mem)
  | sawUnresolved stack | lose stack | claim stack | enter stack | bind stack | refuse stack
  | storeAddr stack | countBind stack | complain stack =>
    simp only [withStack, setThread, update_same] at mem
    obtain ⟨⟨⟩⟩ | mem := List.mem_cons.mp mem
    exact .inl (stack ▸ List.mem_cons_of_mem _ mem)

/-- A lookup returns what the slot then holds. -/
lemma Transition.returned (transition : Transition resolver s t s')
    (staged : ∀ x, ∃ owner, At s x owner)
    (reading : ∀ x, ⟨x, .readAddr⟩ ∈ (s.threads t).stack → (s.slots x).state = .ready) :
    s'.returned = s.returned ∨
      ∃ site answer, s'.returned = ⟨t, site, answer⟩ :: s.returned ∧
        Agrees (s'.slots site) answer := by
  cases transition with
  | @bootstrap site => exact .inr ⟨site, .bootstrapping, rfl, trivial⟩
  | @sawFailed site _ stack state => exact .inr ⟨site, .failed, rfl, state⟩
  | @readAddr site _ stack =>
    exact .inr ⟨site, _, rfl, reading site (stack ▸ List.mem_cons_self), rfl⟩
  | @publishReady site addr _ stack =>
    -- the address was stored before, and nobody else has changed the claimed slot since
    obtain ⟨owner, stage⟩ := staged site
    have owned : owner = some (t, .publishing addr) :=
      stage.owned (by simp [stack, held_cons, Point.phase?])
    have slot : (s.record site).slot.addr = addr := (owned ▸ stage.stage).addr_eq
    refine .inr ⟨site, _, rfl, ?_⟩
    simp only [Agrees, answer, withStack, setThread, modifySlot, if_pos]
    exact ⟨trivial, slot⟩
  | @publishFailed site =>
    refine .inr ⟨site, _, rfl, ?_⟩
    simp only [Agrees, answer, withStack, setThread, modifySlot, if_pos]
  | _ => exact .inl rfl

/-- A step keeps what lookups have read and returned in agreement with the slots. -/
theorem Honest.step (h : Honest s) (staged : ∀ x, ∃ owner, At s x owner)
    (transition : Transition resolver s t s') : Honest s' := by
  -- what was read or returned before still holds, since settled slots no longer change
  have kept (x : Site κ) (settled : (s.slots x).state = .ready ∨ (s.slots x).state = .failed) :
      s'.slots x = s.slots x := by
    obtain ⟨owner, stage⟩ := staged x
    exact congrArg Record.slot (stage.settled settled (transition.effect x))
  constructor
  case reading =>
    intro u x mem
    have ready : (s.slots x).state = .ready := by
      by_cases e : u = t
      · subst e
        exact (transition.reading mem).elim (h.reading u x) id
      · exact h.reading u x (transition.others e ▸ mem)
    exact kept x (.inl ready) ▸ ready
  case returned =>
    intro r mem
    obtain same | ⟨site, answer, returned, agrees⟩ := transition.returned staged (h.reading t)
    · exact (h.returned r (same ▸ mem)).mono (kept r.site)
    · obtain rfl | mem := List.mem_cons.mp (returned ▸ mem)
      · exact agrees
      · exact (h.returned r mem).mono (kept r.site)

/-- What lookups have read and returned agrees with the slots in every reachable state. -/
theorem Reachable.honest (h : Reachable resolver todo s) : Honest s := by
  induction h with
  | initial => exact ⟨fun _ _ mem => (nomatch mem), fun _ mem => (nomatch mem)⟩
  | @step s t reachable ih => exact ih.step reachable.staged (s.transition resolver t)

/-- What holds of a symbol of one table, whatever the threads that look it up have done. -/
structure Safe (resolver : ThreadId → Site Unit → Resolver Unit) (s : State Unit) (x : Site Unit) :
    Prop where
  /-- The resolver was started once at most. -/
  started : (s.record x).starts.length ≤ 1
  /-- The state of the slot goes from unresolved over resolving to ready or failed. -/
  moves : ∀ t, Moves (s.slots x).state ((s.step resolver t).slots x).state
  /-- A slot that is ready or failed stays as it is. -/
  settled : (s.slots x).state = .ready ∨ (s.slots x).state = .failed →
    ∀ schedule, (s.run resolver schedule).slots x = s.slots x
  /-- The address that lookups return is not null, and what the resolver found. -/
  ready : ∀ t addr, ⟨t, x, .ready addr⟩ ∈ s.returned →
    addr ≠ 0 ∧ (s.record x).gave = [.ok addr]
  /-- Lookups fail only if the resolver found a null address or none. -/
  failed : ∀ t, ⟨t, x, .failed⟩ ∈ s.returned →
    (s.record x).gave = [.ok 0] ∨ ∃ error, (s.record x).gave = [.error error]
  /-- No two lookups return two addresses. -/
  same : ∀ t u addr addr', ⟨t, x, .ready addr⟩ ∈ s.returned → ⟨u, x, .ready addr'⟩ ∈ s.returned →
    addr = addr'
  /-- No two lookups return an address and fail. -/
  agree : ∀ t u addr, ⟨t, x, .ready addr⟩ ∈ s.returned → ⟨u, x, .failed⟩ ∉ s.returned
  /-- Only the thread whose resolver of the symbol is running is told to bootstrap. -/
  bootstrapping : ∀ t u, (s.step resolver t).returned = ⟨u, x, .bootstrapping⟩ :: s.returned →
    u = t ∧ ∃ rest, ⟨x, .running rest⟩ ∈ (s.threads u).stack
  /-- The slot was bound once at most. -/
  binds : (s.slots x).binds ≤ 1
  /-- A slot that is ready was bound. -/
  bound : (s.slots x).state = .ready → (s.slots x).binds = 1
  /-- A slot that failed was not. -/
  unbound : (s.slots x).state = .failed → (s.slots x).binds = 0

/-- A table is safe under all interleavings of the steps of any number of threads, whatever their
resolvers answer and look up. -/
theorem Reachable.safe {resolver : ThreadId → Site Unit → Resolver Unit}
    {todo : ThreadId → List (Site Unit)} {s : State Unit} (h : Reachable resolver todo s)
    (x : Site Unit) : Safe resolver s x := by
  obtain ⟨owner, stage⟩ := h.staged x
  have ready {t : ThreadId} {addr : UInt64} (mem : ⟨t, x, .ready addr⟩ ∈ s.returned) :
      (s.slots x).state = .ready ∧ (s.slots x).addr = addr :=
    h.honest.returned ⟨t, x, .ready addr⟩ mem
  have failed {t : ThreadId} (mem : ⟨t, x, .failed⟩ ∈ s.returned) :
      (s.slots x).state = .failed := h.honest.returned ⟨t, x, .failed⟩ mem
  constructor
  case started => exact stage.stage.starts_le
  case moves => exact fun t => stage.moves ((s.transition resolver t).effect x)
  case settled =>
    intro settled schedule
    exact congrArg Record.slot (h.settled_run settled schedule)
  case ready =>
    intro t addr mem
    obtain ⟨state, rfl⟩ := ready mem
    obtain ⟨nonnull, gave, -⟩ := stage.stage.of_ready state
    exact ⟨nonnull, gave⟩
  case failed => exact fun t mem => (stage.stage.of_failed (failed mem)).1
  case same =>
    intro t u addr addr' mem mem'
    rw [← (ready mem).2, ← (ready mem').2]
  case agree =>
    intro t u addr mem mem'
    have state := (ready mem).1
    rw [failed mem'] at state
    cases state
  case bootstrapping =>
    intro t u returned
    obtain ⟨rfl, marked⟩ := (s.transition resolver t).bootstrapping returned
    obtain ⟨point, mem, running⟩ := exists_frame_of_held ((h.marked u x).mp marked)
    refine ⟨rfl, ?_⟩
    cases point with
    | running rest => exact ⟨rest, mem⟩
    | _ => cases running
  case binds => exact stage.stage.binds_le
  case bound => exact fun state => (stage.stage.of_ready state).2.2
  case unbound => exact fun state => (stage.stage.of_failed state).2

/-- The resolver of `malloc` looks up `malloc` itself, and then `free`, which is not found. -/
def nesting (_ : ThreadId) (site : Site Unit) : Resolver Unit :=
  match site.symbol with
  | .malloc => .lookup ⟨(), .malloc⟩ fun _ => .lookup ⟨(), .free⟩ fun _ => .answer (.ok 0x1000)
  | .free => .answer (.error (.unresolved .free))
  | _ => .answer (.ok 0x2000)

/-- A thread that resolves `malloc` was told to bootstrap, and waits for one that resolves `free`. -/
def nestedWait : State Unit :=
  (State.initial fun t => [[⟨(), .malloc⟩], [⟨(), .free⟩]].getD t []).run nesting
    [1, 1, 1, 1, 0, 0, 0, 0, 0, 0, 0]

/-- Two threads that both go on to `calloc` behind that wait: `free` has failed, which the resolver
of `malloc` was told, `malloc` is ready, and one thread waits for the other to resolve `calloc`. -/
def nestedEnd : State Unit :=
  (State.initial fun t =>
      [[⟨(), .malloc⟩, ⟨(), .calloc⟩], [⟨(), .free⟩, ⟨(), .malloc⟩, ⟨(), .calloc⟩]].getD t []).run
    nesting
    ([1, 1, 1, 1, 0, 0, 0, 0, 0, 0, 0, 0, 1, 1, 1] ++ List.replicate 6 0 ++ List.replicate 7 1 ++
      [0, 0])

/-- The table is safe while resolvers run on two threads and look symbols up, and lookups have
returned every kind of answer. -/
theorem Reachable.safe_nested :
    (nestedEnd.slots ⟨(), .malloc⟩).state = .ready ∧ (nestedEnd.slots ⟨(), .free⟩).state = .failed ∧
      (nestedEnd.slots ⟨(), .calloc⟩).state = .resolving ∧ nestedEnd.spins 0 = true ∧
      nestedEnd.returned =
        [⟨1, ⟨(), .malloc⟩, .ready 0x1000⟩, ⟨0, ⟨(), .malloc⟩, .ready 0x1000⟩,
          ⟨0, ⟨(), .free⟩, .failed⟩, ⟨1, ⟨(), .free⟩, .failed⟩,
          ⟨0, ⟨(), .malloc⟩, .bootstrapping⟩] ∧
      ∀ symbol, Safe nesting nestedEnd ⟨(), symbol⟩ :=
  ⟨rfl, rfl, rfl, rfl, rfl, fun _ => Reachable.safe (Reachable.initial.run _) _⟩

/-! ## Threads that meet -/

/-- The resolvers look nothing up before they answer. -/
def Direct (resolver : ThreadId → Site κ → Resolver κ) : Prop :=
  ∀ t x, ∃ resolution, resolver t x = .answer resolution

/-- Every thread makes one lookup at a time. -/
def Flat (s : State κ) : Prop :=
  ∀ t, (s.threads t).stack = [] ∨
    ∃ x point, (s.threads t).stack = [⟨x, point⟩] ∧
      ∀ inner next, point ≠ .running (.lookup inner next)

/-- If the resolvers look nothing up, threads go on making one lookup at a time. -/
lemma Flat.step (h : Flat s) (direct : Direct resolver) (transition : Transition resolver s t s') :
    Flat s' := by
  intro u
  by_cases same : u = t
  case neg =>
    rw [transition.others same]
    exact h u
  subst same
  have alone {frame : Frame κ} {below : List (Frame κ)}
      (stack : (s.threads u).stack = frame :: below) :
      below = [] ∧ ∀ inner next, frame.point ≠ .running (.lookup inner next) := by
    obtain none | ⟨x, point, one, looks⟩ := h u
    · cases stack.symm.trans none
    · cases stack.symm.trans one
      exact ⟨rfl, looks⟩
  cases transition with
  | rest | spin => exact h u
  | begin => exact .inr ⟨_, _, congrArg Thread.stack (update_same _ _ _), nofun⟩
  | bootstrap stack | sawFailed stack | readAddr stack | publishReady stack | publishFailed stack =>
    obtain ⟨rfl, -⟩ := alone stack
    exact .inl (congrArg Thread.stack (update_same _ _ _))
  | ask stack => exact absurd rfl ((alone stack).2 _ _)
  | @enter site _ stack =>
    obtain ⟨rfl, -⟩ := alone stack
    refine .inr ⟨_, _, congrArg Thread.stack (update_same _ _ _), fun inner next looks => ?_⟩
    obtain ⟨resolution, answers⟩ := direct u site
    rw [answers] at looks
    cases looks
  | sawReady stack | sawUnresolved stack | lose stack | claim stack | bind stack | refuse stack
  | storeAddr stack | countBind stack | complain stack =>
    obtain ⟨rfl, -⟩ := alone stack
    exact .inr ⟨_, _, congrArg Thread.stack (update_same _ _ _), nofun⟩

/-- If the resolvers look nothing up, every thread makes one lookup at a time, and none is told to
bootstrap. -/
lemma Reachable.ne_bootstrapping [Subsingleton κ] (direct : Direct resolver)
    (h : Reachable resolver todo s) :
    Flat s ∧ ∀ r ∈ s.returned, r.answer ≠ .bootstrapping := by
  induction h with
  | initial => exact ⟨fun _ => .inl rfl, fun _ mem => absurd mem List.not_mem_nil⟩
  | @step s t reachable ih =>
    obtain ⟨flat, told⟩ := ih
    have transition := s.transition resolver t
    refine ⟨flat.step direct transition, ?_⟩
    generalize s.step resolver t = s' at transition
    cases transition with
    | @bootstrap site below stack _ mine =>
      -- the thread would have to run the resolver of the symbol beside its one lookup
      obtain none | ⟨x, point, one, -⟩ := flat t
      · cases stack.symm.trans none
      · cases stack.symm.trans one
        have running := (reachable.marked t site).mp mine
        simp [stack, held, Point.phase?] at running
    | sawFailed | readAddr | publishReady | publishFailed =>
      refine List.forall_mem_cons.mpr ⟨?_, told⟩
      rintro ⟨⟩
    | _ => exact told

/-- If the resolvers look nothing up, all lookups of a symbol are told the same, on however many
threads. -/
theorem Reachable.answer_eq [Subsingleton κ] (direct : Direct resolver)
    (h : Reachable resolver todo s) {r r' : Returned κ} (mem : r ∈ s.returned)
    (mem' : r' ∈ s.returned) (same : r.site = r'.site) : r.answer = r'.answer := by
  have agrees := h.honest.returned r mem
  have agrees' := h.honest.returned r' mem'
  have told := (h.ne_bootstrapping direct).2 r mem
  have told' := (h.ne_bootstrapping direct).2 r' mem'
  rw [← same] at agrees'
  generalize r.answer = answer at agrees told
  generalize r'.answer = answer' at agrees' told'
  cases answer with
  | bootstrapping => exact absurd rfl told
  | ready addr =>
    cases answer' with
    | bootstrapping => exact absurd rfl told'
    | ready addr' => rw [← agrees.2, ← agrees'.2]
    | failed => cases agrees.1.symm.trans agrees'
  | failed =>
    cases answer' with
    | bootstrapping => exact absurd rfl told'
    | ready addr' => cases agrees'.1.symm.trans agrees
    | failed => rfl

/-- However many threads meet, they are told the same of every symbol. -/
theorem meeting_answer_eq (threads : Nat) {r r' : Returned Unit}
    (mem : r ∈ (meeting threads).returned) (mem' : r' ∈ (meeting threads).returned)
    (same : r.site = r'.site) : r.answer = r'.answer := by
  have direct : Direct exampleResolver := fun t x => by
    unfold exampleResolver
    split <;> exact ⟨_, rfl⟩
  exact (Reachable.initial.run _).answer_eq direct mem mem' same

end PointerTagging.Concurrent.Symbols
