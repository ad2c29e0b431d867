import PointerTagging.Proofs.Concurrent.Deadlock

/-!
# Several tables

The marks of a thread do not tell the tables apart. A thread that never looks a symbol up in one
table while it resolves the symbol for another is told to bootstrap exactly when it runs the
resolver of the slot, whatever the other threads do (`distinguishes_run`). A thread that does so can
wait for itself forever, and can be told to bootstrap for a slot that another thread has claimed
(`mixed_tables`).
-/

namespace PointerTagging.Concurrent.Symbols

open State

variable {κ : Type}

/-- The thread runs the resolver of the slot. -/
def Runs (s : State κ) (t : ThreadId) (x : Site κ) : Prop :=
  ∃ rest, ⟨x, .running rest⟩ ∈ (s.threads t).stack

variable [DecidableEq κ] {resolver : ThreadId → Site κ → Resolver κ}
variable {todo : ThreadId → List (Site κ)} {s s' : State κ} {t u : ThreadId} {x : Site κ}

/-- A thread runs the resolver of a slot if one of its lookups is in that phase. -/
lemma runs_iff : Runs s t x ↔ Phase.running ∈ held x (s.threads t).stack := by
  constructor
  · rintro ⟨rest, mem⟩
    exact List.mem_filterMap.mpr ⟨_, mem, if_pos rfl⟩
  · intro running
    obtain ⟨point, mem, phase⟩ := exists_frame_of_held running
    cases point with
    | running rest => exact ⟨rest, mem⟩
    | _ => cases phase

/-- What a thread is told of slots that are being resolved. -/
structure Distinguishes (resolver : ThreadId → Site κ → Resolver κ) (s : State κ) (t : ThreadId) :
    Prop where
  /-- A lookup of a slot whose resolver its thread runs is told so by its first step. -/
  answered : ∀ x below, (s.threads t).stack = ⟨x, .readState⟩ :: below → Runs s t x →
    (s.step resolver t).returned = ⟨t, x, .bootstrapping⟩ :: s.returned
  /-- Of the lookups that return, those are told to bootstrap whose thread runs the resolver of the
  slot, and no others. -/
  told : ∀ x answer, (s.step resolver t).returned = ⟨t, x, answer⟩ :: s.returned →
    (answer = .bootstrapping ↔ Runs s t x)
  /-- The thread does not wait for a slot that it has claimed. -/
  waits : ∀ x below, (s.threads t).stack = ⟨x, .readState⟩ :: below → s.spins t = true →
    held x (s.threads t).stack = [] ∧ ∃ u, u ≠ t ∧ held x (s.threads u).stack ≠ []
  /-- The thread is not told to bootstrap for a slot that another thread has claimed. -/
  foreign : ∀ x u, u ≠ t → held x (s.threads u).stack ≠ [] →
    (s.step resolver t).returned ≠ ⟨t, x, .bootstrapping⟩ :: s.returned

/-- A claimed slot is being resolved. -/
lemma At.resolving {owner : Option (ThreadId × Phase)} (h : At s x owner) {phase : Phase}
    (mem : phase ∈ held x (s.threads t).stack) : (s.slots x).state = .resolving := by
  by_contra other
  have unowned := h.stage.unowned other
  rw [h.owned mem] at unowned
  cases unowned

/-- A lookup that returns is the innermost one, and not in its resolver. -/
lemma Transition.returning (transition : Transition resolver s t s') {answer : Lookup}
    (returned : s'.returned = ⟨u, x, answer⟩ :: s.returned) :
    ∃ point below, (s.threads t).stack = ⟨x, point⟩ :: below ∧ point.phase? ≠ some .running ∧
      (s'.threads t).stack = tell answer below := by
  cases transition with
  | bootstrap stack | sawFailed stack | readAddr stack | publishReady stack | publishFailed stack =>
    obtain ⟨⟨⟩, -⟩ := List.cons.inj returned
    refine ⟨_, _, stack, by rintro ⟨⟩, ?_⟩
    simp only [State.answer, withStack, setThread, modifySlot, update_same]
  | _ => exact absurd returned.symm (List.cons_ne_self _ _)

/-- The first step of a lookup of a slot that its thread has marked. -/
lemma State.step_marked {below : List (Frame κ)}
    (stack : (s.threads t).stack = ⟨x, .readState⟩ :: below)
    (resolving : (s.slots x).state = .resolving)
    (marked : (s.threads t).resolving.contains x.symbol = true) :
    s.step resolver t = s.answer t x .bootstrapping below := by
  simp only [step, stack, resolving, marked, finish_eq stack, if_true]

/-- The lookups below one that has just begun are in their resolvers. -/
lemma Reachable.running_of_claimed (h : Reachable resolver todo s) {y : Site κ}
    {below : List (Frame κ)} (stack : (s.threads t).stack = ⟨y, .readState⟩ :: below)
    (claimed : held x (s.threads t).stack ≠ []) :
    Phase.running ∈ held x (s.threads t).stack := by
  obtain ⟨phase, mem⟩ := List.exists_mem_of_ne_nil _ claimed
  rw [stack] at mem
  obtain ⟨-, ⟨⟩⟩ | mem_below := mem_held_cons.mp mem
  obtain ⟨point, frame_mem, phase_eq⟩ := exists_frame_of_held mem_below
  obtain ⟨-, running⟩ := (stack ▸ h.nested t).asks frame_mem
  obtain rfl : phase = .running := Option.some.inj (phase_eq.symm.trans running)
  exact stack ▸ mem

/-- A thread that has marked the symbols of the resolvers that it runs, and mixes no tables, is told
of each slot what it does there. -/
lemma Marks.distinguishes (marks : Marks s t) (unmixed : Unmixed (s.threads t).stack)
    (h : Reachable resolver todo s) : Distinguishes resolver s t := by
  have marked {x : Site κ} (running : Phase.running ∈ held x (s.threads t).stack) :
      (s.threads t).resolving.contains x.symbol = true := (marks _).mpr ⟨x, rfl, running⟩
  have told (x : Site κ) (answer : Lookup)
      (returned : (s.step resolver t).returned = ⟨t, x, answer⟩ :: s.returned) :
      answer = .bootstrapping ↔ Runs s t x := by
    obtain ⟨point, below, stack, idle, stack'⟩ := (s.transition resolver t).returning returned
    constructor
    · rintro rfl
      obtain ⟨-, mine⟩ := (s.transition resolver t).bootstrapping returned
      obtain ⟨y, same, running⟩ := (marks _).mp mine
      rw [runs_iff]
      -- the marked symbol is that of the slot itself, since the thread mixes no tables
      rw [stack] at running ⊢
      obtain ⟨-, phase⟩ | mem := mem_held_cons.mp running
      · exact absurd phase idle
      · obtain ⟨_, frame_mem, -⟩ := exists_frame_of_held mem
        obtain rfl : x = y := (stack ▸ unmixed).site_eq frame_mem same.symm
        exact running
    · intro runs
      -- the slot is still claimed, so the lookup has not read it as settled
      have running : Phase.running ∈ held x ((s.step resolver t).threads t).stack := by
        rw [stack', held_tell]
        rw [runs_iff, stack] at runs
        exact (mem_held_cons.mp runs).resolve_left fun claimed => idle claimed.2
      obtain ⟨owner, stage⟩ := (h.step t).staged x
      have resolving := stage.resolving running
      have agrees := (h.step t).honest.returned ⟨t, x, answer⟩ (returned ▸ List.mem_cons_self)
      cases answer with
      | bootstrapping => rfl
      | ready addr => cases resolving.symm.trans agrees.1
      | failed => cases resolving.symm.trans agrees
  constructor
  case answered =>
    intro x below stack runs
    have running := runs_iff.mp runs
    obtain ⟨owner, stage⟩ := h.staged x
    rw [step_marked stack (stage.resolving running) (marked running)]
    rfl
  case told => exact told
  case waits =>
    intro x below stack spins
    obtain ⟨y, below', stack', resolving, unmarked⟩ := of_spins spins
    cases stack.symm.trans stack'
    have unclaimed : held x (s.threads t).stack = [] := by
      by_contra claimed
      rw [marked (h.running_of_claimed stack claimed)] at unmarked
      cases unmarked
    refine ⟨unclaimed, ?_⟩
    obtain ⟨u, claimed⟩ := h.exists_claimed resolving
    refine ⟨u, ?_, claimed⟩
    rintro rfl
    exact claimed unclaimed
  case foreign =>
    intro x u other claimed returned
    have running := runs_iff.mp ((told x .bootstrapping returned).mp rfl)
    obtain ⟨phase, mem⟩ := List.exists_mem_of_ne_nil _ claimed
    obtain ⟨owner, stage⟩ := h.staged x
    cases (stage.owned mem).symm.trans (stage.owned running)
    exact other rfl

/-- A thread that has mixed no tables so far has marked the symbols whose resolvers it runs. -/
lemma marks_run {schedule : List ThreadId} (unmixed : ∀ before, before <+: schedule →
      Unmixed (((State.initial todo).run resolver before).threads t).stack) :
    Marks ((State.initial todo).run resolver schedule) t := by
  induction schedule using List.reverseRecOn with
  | nil => exact .initial todo t
  | append_singleton before u ih =>
    have earlier := ih fun earlier h => unmixed earlier (h.trans (List.prefix_append before [u]))
    have stopped := unmixed before (List.prefix_append before [u])
    rw [State.run, List.foldl_concat]
    exact earlier.step stopped (Reachable.initial.run before).staged (transition resolver _ u)

/-- A thread that never looks a symbol up in one table while it resolves the symbol for another is
told to bootstrap exactly when it runs the resolver of the slot. So it waits for no slot that it has
claimed, and is not told to bootstrap for one that another thread has claimed. -/
theorem distinguishes_run {schedule : List ThreadId} (unmixed : ∀ before, before <+: schedule →
      Unmixed (((State.initial todo).run resolver before).threads t).stack) :
    Distinguishes resolver ((State.initial todo).run resolver schedule) t :=
  (marks_run unmixed).distinguishes (unmixed schedule List.prefix_rfl)
    (Reachable.initial.run schedule)

/-- The resolver of `malloc` in one table looks up `free` in the other, and then `malloc` itself. -/
def visiting (_ : ThreadId) (site : Site Bool) : Resolver Bool :=
  if site = ⟨false, .malloc⟩ then
    .lookup ⟨true, .free⟩ fun _ => .lookup ⟨false, .malloc⟩ fun _ => .answer (.ok 0x1000)
  else .answer (.ok 0x2000)

/-- What the threads have done after a schedule, if the first lookup of each is that resolver's. -/
def visit (schedule : List ThreadId) : State Bool :=
  (State.initial fun _ => [⟨false, .malloc⟩]).run visiting schedule

/-- A thread that has visited the other table looks up the slot that it resolves. -/
theorem distinguishes_run_visiting :
    (∀ before, before <+: List.replicate 13 0 → Unmixed ((visit before).threads 0).stack) ∧
      (∃ below, ((visit (List.replicate 13 0)).threads 0).stack =
        ⟨⟨false, .malloc⟩, .readState⟩ :: below) ∧
      Distinguishes visiting (visit (List.replicate 13 0)) 0 := by
  have unmixed (before : List ThreadId) (h : before <+: List.replicate 13 0) :
      Unmixed ((visit before).threads 0).stack :=
    (by decide : ∀ before ∈ (List.replicate 13 (0 : ThreadId)).inits,
      Unmixed ((visit before).threads 0).stack) before ((List.mem_inits _ _).mpr h)
  exact ⟨unmixed, ⟨_, rfl⟩, distinguishes_run unmixed⟩

/-- The resolver of `malloc` in one table looks up `malloc` in the other, and then in its own. -/
def mixing (_ : ThreadId) (site : Site Bool) : Resolver Bool :=
  if site = ⟨false, .malloc⟩ then
    .lookup ⟨true, .malloc⟩ fun _ => .lookup ⟨false, .malloc⟩ fun _ => .answer (.ok 0x1000)
  else .answer (.ok 0x2000)

/-- A thread has resolved the symbol of the other table, and looks up the one it is resolving. -/
def forgotten : State Bool :=
  (State.initial fun t => [[⟨false, .malloc⟩]].getD t []).run mixing (List.replicate 13 0)

/-- A thread has claimed the symbol of the other table, and one that resolves it for the first table
looks it up there. -/
def misled : State Bool :=
  (State.initial fun t => [[⟨false, .malloc⟩], [⟨true, .malloc⟩]].getD t []).run mixing
    [1, 1, 1, 0, 0, 0, 0, 0]

/-- The resolver of a symbol that has resolved the symbol in another table waits forever for the
slot that its own thread has claimed. A thread that resolves a symbol for one table is told to
bootstrap for a slot of another table that another thread has claimed. -/
theorem mixed_tables :
    (Reachable mixing (fun t => [[⟨false, .malloc⟩]].getD t []) forgotten ∧
      (∃ below, (forgotten.threads 0).stack = ⟨⟨false, .malloc⟩, .readState⟩ :: below) ∧
      Runs forgotten 0 ⟨false, .malloc⟩ ∧ forgotten.spins 0 = true ∧
      ∀ t, forgotten.step mixing t = forgotten) ∧
    Reachable mixing (fun t => [[⟨false, .malloc⟩], [⟨true, .malloc⟩]].getD t []) misled ∧
      (misled.step mixing 0).returned = [⟨0, ⟨true, .malloc⟩, .bootstrapping⟩] ∧
      ¬ Runs misled 0 ⟨true, .malloc⟩ ∧ held ⟨true, .malloc⟩ (misled.threads 1).stack ≠ [] := by
  refine ⟨⟨Reachable.initial.run _, ⟨_, rfl⟩, runs_iff.mpr (by decide), rfl, fun t => ?_⟩,
    Reachable.initial.run _, rfl, fun runs => ?_, List.cons_ne_nil _ _⟩
  · match t with
    | 0 => rfl
    | t + 1 => rfl
  · exact absurd (runs_iff.mp runs) (by decide)

end PointerTagging.Concurrent.Symbols
