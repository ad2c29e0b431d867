import PointerTagging.Concurrent.ConfigCell
import PointerTagging.Proofs.Presentation

/-!
# One configuration for all threads

Whatever the order of their steps, the threads that ask for the configuration all get the one that
the first of them to claim the cell produced (`ConfigCells.published_once`). The cell goes through
stages, and each stage says what its four values hold, which thread is storing them, and what the
other threads may have loaded (`Stage`).
-/

namespace PointerTagging

namespace ConfigCell

/-- The trace switch can be read off the flags. -/
lemma flagsOf_trace (config : Config) : (flagsOf config &&& traceFlag != 0) = config.trace := by
  unfold flagsOf
  cases config.trace <;> cases config.policy <;> decide

/-- The policy can be read off the flags. -/
lemma flagsOf_policy (config : Config) :
    (if flagsOf config &&& bySizeFlag != 0 then ReallocPolicy.bySize else .inherit) =
      config.policy := by
  unfold flagsOf
  cases config.trace <;> cases config.policy <;> decide

/-- The stored values stand for the configuration that they were stored for. -/
lemma decode_flagsOf (config : Config) :
    decode config.tag.value config.threshold (flagsOf config) = config := by
  have tag : Tag.ofValue? config.tag.value = some config.tag := by
    rw [Tag.ofValue?, dif_neg config.tag.nonzero]
  simp only [decode, tag, Option.getD_some, flagsOf_trace, flagsOf_policy]

/-- What was stored is loaded. -/
lemma load_store (cell : ConfigCell) (config : Config) : (cell.store config).load = config :=
  decode_flagsOf config

/-- What calls on one thread return, one after the other, each with what its initialiser would
yield. -/
def answers (cell : ConfigCell) : List Config → List (Option (Config × Bool))
  | [] => []
  | init :: inits => (cell.getOrInit init).1 :: answers (cell.getOrInit init).2 inits

/-- A published configuration is what every call returns. -/
lemma answers_of_ready {cell : ConfigCell} (ready : cell.state = .ready) (inits : List Config) :
    cell.answers inits = inits.map fun _ => some (cell.load, false) := by
  induction inits with
  | nil => rfl
  | cons init inits ih =>
    have call : cell.getOrInit init = (some (cell.load, false), cell) := by
      rw [getOrInit, ready]
    rw [answers, call, ih, List.map_cons]

/-- Of calls on one thread the first runs its initialiser, and all return what it yielded. -/
lemma answers_fresh (init : Config) (inits : List Config) :
    fresh.answers (init :: inits) =
      some (init, true) :: inits.map fun _ => some (init, false) := by
  have published : ({ fresh.store init with state := .ready } : ConfigCell).state = .ready := rfl
  have load : ({ fresh.store init with state := .ready } : ConfigCell).load = init :=
    decode_flagsOf init
  have rest := answers_of_ready published inits
  rw [load] at rest
  exact congrArg (some (init, true) :: ·) rest

end ConfigCell

namespace Concurrent.ConfigCells

/-- The point lies before a thread's exchange: nothing of a configuration is known there. -/
inductive Point.Unaware : Point → Prop where
  | idle : Unaware .idle
  | readState : Unaware .readState
  | exchange : Unaware .exchange

/-- What the thread that won the exchange has stored by now, and which initialisers have run. -/
inductive Point.Stores (winner : ThreadId) (cell : ConfigCell) :
    List (ThreadId × Config) → Point → Prop where
  | initialise :
    Stores winner cell [] .initialise
  | storeTag {config : Config} :
    Stores winner cell [(winner, config)] (.storeTag config)
  | storeThreshold {config : Config} :
    cell.tag = config.tag.value →
    Stores winner cell [(winner, config)] (.storeThreshold config)
  | storeFlags {config : Config} :
    cell.tag = config.tag.value →
    cell.threshold = config.threshold →
    Stores winner cell [(winner, config)] (.storeFlags config)
  | publish {config : Config} :
    cell.tag = config.tag.value →
    cell.threshold = config.threshold →
    cell.flags = ConfigCell.flagsOf config →
    Stores winner cell [(winner, config)] (.publish config)

/-- What a thread has loaded by now are values of the configuration. -/
inductive Point.Loads (config : Config) : Point → Prop where
  | unaware {point : Point} :
    point.Unaware →
    Loads config point
  | loadFlags :
    Loads config .loadFlags
  | loadTag :
    Loads config (.loadTag (ConfigCell.flagsOf config))
  | loadThreshold :
    Loads config (.loadThreshold (ConfigCell.flagsOf config) config.tag.value)

/-- How far the cell has come: nobody has claimed it, one thread is storing to it, or it holds the
configuration that the one initialiser yielded. -/
inductive Stage (s : State) : Prop where
  | unset :
    s.cell.state = .unset →
    s.ran = [] →
    s.returned = [] →
    (∀ t, (s.points t).Unaware) →
    Stage s
  | resolving (winner : ThreadId) :
    s.cell.state = .resolving →
    (s.points winner).Stores winner s.cell s.ran →
    s.returned = [] →
    (∀ t ≠ winner, (s.points t).Unaware) →
    Stage s
  | ready (winner : ThreadId) (config : Config) :
    s.cell = ⟨.ready, config.tag.value, config.threshold, ConfigCell.flagsOf config⟩ →
    s.ran = [(winner, config)] →
    (∀ call ∈ s.returned, call.2 = config) →
    (∀ t, (s.points t).Loads config) →
    Stage s

variable {s : State} {t : ThreadId} {init : Config}

namespace State

/-- The state after steps of threads, each with what the thread's initialiser yields if it runs. -/
def run (s : State) : List (ThreadId × Config) → State
  | [] => s
  | (t, init) :: steps => (s.step t init).run steps

/-- A thread that goes to a point is there. -/
lemma points_goto_same (s : State) (t : ThreadId) (point : Point) :
    (s.goto t point).points t = point := update_same _ _ _

/-- The other threads stay where they are. -/
lemma points_goto_of_ne (s : State) {u : ThreadId} (point : Point) (ne : u ≠ t) :
    (s.goto t point).points u = s.points u := update_of_ne _ _ ne

/-- Where the threads stand after one of them went to another point. -/
lemma forall_points_goto {P : Point → Prop} {point : Point} (here : P point)
    (others : ∀ u ≠ t, P (s.points u)) (u : ThreadId) : P ((s.goto t point).points u) := by
  by_cases same : u = t
  · rw [same, points_goto_same]
    exact here
  · rw [points_goto_of_ne s point same]
    exact others u same

end State

namespace Stage

/-- A thread that goes where nothing of a configuration is known leaves the stage as it is. -/
lemma goto_unaware (stage : Stage s) (here : (s.points t).Unaware) {point : Point}
    (there : point.Unaware) : Stage (s.goto t point) := by
  cases stage with
  | unset state ran returned points =>
    exact .unset state ran returned (State.forall_points_goto there fun u _ => points u)
  | resolving winner state stores returned points =>
    have other : winner ≠ t := by
      rintro rfl
      generalize s.points winner = point, s.ran = ran at stores here
      cases here <;> cases stores
    refine .resolving winner state ?_ returned fun u ne => ?_
    · rw [State.points_goto_of_ne s point other]
      exact stores
    · by_cases same : u = t
      · rw [same, State.points_goto_same]
        exact there
      · rw [State.points_goto_of_ne s point same]
        exact points u ne
  | ready winner config cell ran returned points =>
    exact .ready winner config cell ran returned
      (State.forall_points_goto (.unaware there) fun u _ => points u)

/-- The winner goes on storing. -/
lemma stores_goto {r : State} {point : Point} (state : r.cell.state = .resolving)
    (points : r.points = s.points) (stores : point.Stores t r.cell r.ran)
    (returned : r.returned = []) (others : ∀ u ≠ t, (s.points u).Unaware) :
    Stage (r.goto t point) := by
  refine .resolving t state ?_ returned fun u ne => ?_
  · rw [State.points_goto_same]
    exact stores
  · rw [State.points_goto_of_ne r point ne, points]
    exact others u ne

/-- While nobody has claimed the cell, a thread reads the state or claims it. -/
lemma step_unset (state : s.cell.state = .unset) (ran : s.ran = []) (returned : s.returned = [])
    (points : ∀ t, (s.points t).Unaware) (t : ThreadId) (init : Config) :
    Stage (s.step t init) := by
  have stage : Stage s := .unset state ran returned points
  have here := points t
  have still := here
  generalize point : s.points t = p at here
  cases here with
  | idle =>
    simp only [State.step, point]
    exact stage.goto_unaware still .readState
  | readState =>
    simp only [State.step, point, state]
    exact stage.goto_unaware still .exchange
  | exchange =>
    simp only [State.step, point, state]
    refine stores_goto (r := { s with cell := { s.cell with state := .resolving } }) rfl rfl ?_
      returned fun u _ => points u
    rw [ran]
    exact .initialise

/-- While one thread stores, it stores the next value, and the others wait. -/
lemma step_resolving {winner : ThreadId} (state : s.cell.state = .resolving)
    (stores : (s.points winner).Stores winner s.cell s.ran) (returned : s.returned = [])
    (points : ∀ t ≠ winner, (s.points t).Unaware) (t : ThreadId) (init : Config) :
    Stage (s.step t init) := by
  by_cases same : t = winner
  · subst same
    generalize point : s.points t = p, ran : s.ran = initialisers at stores
    cases stores with
    | initialise =>
      simp only [State.step, point]
      refine stores_goto (r := { s with ran := (t, init) :: s.ran }) state rfl ?_ returned points
      rw [ran]
      exact .storeTag
    | @storeTag config =>
      simp only [State.step, point]
      refine stores_goto (r := { s with cell := { s.cell with tag := config.tag.value } }) state
        rfl ?_ returned points
      rw [ran]
      exact .storeThreshold rfl
    | @storeThreshold config tag =>
      simp only [State.step, point]
      refine stores_goto (r := { s with cell := { s.cell with threshold := config.threshold } })
        state rfl ?_ returned points
      rw [ran]
      exact .storeFlags tag rfl
    | @storeFlags config tag threshold =>
      simp only [State.step, point]
      refine stores_goto
        (r := { s with cell := { s.cell with flags := ConfigCell.flagsOf config } }) state rfl ?_
        returned points
      rw [ran]
      exact .publish tag threshold rfl
    | @publish config tag threshold flags =>
      simp only [State.step, point]
      refine .ready t config ?_ ran ?_ ?_
      · exact congr (congr (congrArg (ConfigCell.mk .ready) tag) threshold) flags
      · refine List.forall_mem_cons.2 ⟨rfl, ?_⟩
        exact fun call mem => absurd (returned ▸ mem) List.not_mem_nil
      · exact State.forall_points_goto (.unaware .idle) fun u ne => .unaware (points u ne)
  · have stage : Stage s := .resolving winner state stores returned points
    have here := points t same
    have still := here
    generalize point : s.points t = p at here
    cases here with
    | idle =>
      simp only [State.step, point]
      exact stage.goto_unaware still .readState
    | readState =>
      simp only [State.step, point, state]
      exact stage
    | exchange =>
      simp only [State.step, point, state]
      exact stage.goto_unaware still .readState

/-- Once the cell is ready, a thread loads the next value, or returns what it has loaded. -/
lemma step_ready {winner : ThreadId} {config : Config}
    (cell : s.cell = ⟨.ready, config.tag.value, config.threshold, ConfigCell.flagsOf config⟩)
    (ran : s.ran = [(winner, config)]) (returned : ∀ call ∈ s.returned, call.2 = config)
    (points : ∀ t, (s.points t).Loads config) (t : ThreadId) (init : Config) :
    Stage (s.step t init) := by
  have goes {point : Point} (loads : point.Loads config) : Stage (s.goto t point) :=
    .ready winner config cell ran returned (State.forall_points_goto loads fun u _ => points u)
  have here := points t
  generalize point : s.points t = p at here
  cases here with
  | unaware unaware =>
    cases unaware with
    | idle =>
      simp only [State.step, point]
      exact goes (.unaware .readState)
    | readState =>
      simp only [State.step, point, cell]
      exact goes .loadFlags
    | exchange =>
      simp only [State.step, point, cell]
      exact goes (.unaware .readState)
  | loadFlags =>
    simp only [State.step, point, cell]
    exact goes .loadTag
  | loadTag =>
    simp only [State.step, point, cell]
    exact goes .loadThreshold
  | loadThreshold =>
    simp only [State.step, point]
    refine .ready winner config cell ran (List.forall_mem_cons.2 ⟨?_, returned⟩) ?_
    · simp only [cell]
      exact ConfigCell.decode_flagsOf config
    · exact State.forall_points_goto (.unaware .idle) fun u _ => points u

/-- A step of a thread takes the cell to the next stage, or leaves it in the one that it is in. -/
theorem step (stage : Stage s) (t : ThreadId) (init : Config) : Stage (s.step t init) := by
  cases stage with
  | unset state ran returned points => exact step_unset state ran returned points t init
  | resolving winner state stores returned points =>
    exact step_resolving state stores returned points t init
  | ready winner config cell ran returned points =>
    exact step_ready cell ran returned points t init

/-- No thread has called. -/
lemma initial : Stage .initial := .unset rfl rfl rfl fun _ => .idle

/-- The cell is in a stage after all steps. -/
theorem run (stage : Stage s) (steps : List (ThreadId × Config)) : Stage (s.run steps) := by
  induction steps generalizing s with
  | nil => exact stage
  | cons step steps ih => exact ih (stage.step step.1 step.2)

/-- At most one initialiser has run. -/
lemma length_ran_le (stage : Stage s) : s.ran.length ≤ 1 := by
  cases stage with
  | unset _ ran => rw [ran]; exact Nat.zero_le 1
  | resolving _ _ stores =>
    generalize s.points _ = point, s.ran = ran at stores
    cases stores <;> simp
  | ready _ _ _ ran => rw [ran]; exact Nat.le_refl 1

/-- What a call has returned is what the one initialiser yielded. -/
lemma exists_winner (stage : Stage s) {call : ThreadId × Config} (mem : call ∈ s.returned) :
    ∃ winner, s.ran = [(winner, call.2)] := by
  cases stage with
  | unset _ _ returned => rw [returned] at mem; cases mem
  | resolving _ _ _ returned => rw [returned] at mem; cases mem
  | ready winner config _ ran returned => exact ⟨winner, by rw [ran, returned call mem]⟩

end Stage

/-- A cell that is ready does not change, and no initialiser runs. -/
lemma State.step_of_ready (stage : Stage s) (ready : s.cell.state = .ready) (t : ThreadId)
    (init : Config) : (s.step t init).cell = s.cell ∧ (s.step t init).ran = s.ran := by
  cases stage with
  | unset state => cases ready.symm.trans state
  | resolving _ state => cases ready.symm.trans state
  | ready winner config cell ran returned points =>
    have here := points t
    generalize point : s.points t = p at here
    cases here with
    | unaware unaware =>
      cases unaware with
      | idle => simp only [step, point]; exact ⟨rfl, rfl⟩
      | readState | exchange => simp only [step, point, ready]; exact ⟨rfl, rfl⟩
    | loadFlags | loadTag | loadThreshold => simp only [step, point]; exact ⟨rfl, rfl⟩

/-- A cell that is ready stays as it is, and no initialiser runs any more. -/
theorem State.run_of_ready (stage : Stage s) (ready : s.cell.state = .ready)
    (steps : List (ThreadId × Config)) :
    (s.run steps).cell = s.cell ∧ (s.run steps).ran = s.ran := by
  induction steps generalizing s with
  | nil => exact ⟨rfl, rfl⟩
  | cons step steps ih =>
    obtain ⟨cell, ran⟩ := State.step_of_ready stage ready step.1 step.2
    obtain ⟨cell', ran'⟩ := ih (stage.step step.1 step.2) (cell ▸ ready)
    exact ⟨cell'.trans cell, ran'.trans ran⟩

/-- There is one configuration for all threads. Let any number of threads ask for the configuration,
as often as they like, in any order of their steps, and let each initialiser yield what it likes.
Then in every state

* at most one initialiser has run, and every call that has returned, of whatever thread, has returned
  the configuration that this initialiser yielded;
* the cell, once it is ready, holds that configuration, and stays as it is from then on, and no
  initialiser runs any more;
* a pointer that was presented by what one call returned is resolved to its address and, unless it is
  null, classified as it was presented by what any other call returned.

What is stored of a configuration determines it. Calls on one thread return what the initialiser of
the first of them yielded. -/
theorem published_once (steps : List (ThreadId × Config)) :
    let s := State.initial.run steps
    s.ran.length ≤ 1 ∧
    (∀ call ∈ s.returned, ∃ winner, s.ran = [(winner, call.2)]) ∧
    (s.cell.isReady = true →
      (∃ winner, s.ran = [(winner, s.cell.load)]) ∧
      ∀ more, (s.run more).cell = s.cell ∧ (s.run more).ran = s.ran) ∧
    (∀ call ∈ s.returned, ∀ other ∈ s.returned, ∀ (protection : Protection) (addr : RealAddr),
      isEncoded addr.value = false →
      (protection.present addr call.2.tag).resolve other.2.tag = addr ∧
      (addr.isNull = false →
        other.2.classifyIncoming (protection.present addr call.2.tag) = protection)) ∧
    (∀ (cell : ConfigCell) (config : Config), (cell.store config).load = config) ∧
    ∀ init inits, ConfigCell.fresh.answers (init :: inits) =
      some (init, true) :: inits.map fun _ => some (init, false) := by
  intro s
  have stage : Stage s := Stage.initial.run steps
  have one : ∀ call ∈ s.returned, ∃ winner, s.ran = [(winner, call.2)] :=
    fun call mem => stage.exists_winner mem
  refine ⟨stage.length_ran_le, one, fun ready => ⟨?_, fun more => ?_⟩, ?_, ConfigCell.load_store,
    ConfigCell.answers_fresh⟩
  · have state : s.cell.state = .ready := by simpa [ConfigCell.isReady] using ready
    cases stage with
    | unset unset => cases state.symm.trans unset
    | resolving _ resolving => cases state.symm.trans resolving
    | ready winner config cell ran =>
      refine ⟨winner, ?_⟩
      rw [ran, cell, ConfigCell.load, ConfigCell.decode_flagsOf]
  · exact State.run_of_ready stage (by simpa [ConfigCell.isReady] using ready) more
  · intro call mem other mem' protection addr clear
    obtain ⟨winner, ran⟩ := one call mem
    obtain ⟨winner', ran'⟩ := one other mem'
    have same : call.2 = other.2 :=
      (Prod.mk.inj (List.cons.inj (ran.symm.trans ran')).1).2
    rw [same]
    refine ⟨Protection.resolve_present _ protection clear, fun nonnull => ?_⟩
    rw [Config.classifyIncoming, Protection.isTagged_present _ protection clear nonnull]
    cases protection <;> rfl

/-- The steps of a race: the threads 0 and 1 both find the cell unset, and the first of them to
exchange its state makes the other wait and load. -/
def race (first second : Config) : List (ThreadId × Config) :=
  [(0, first), (1, second), (0, first), (1, second), (1, second), (0, first)] ++
    List.replicate 5 (1, second) ++ List.replicate 5 (0, first)

/-- The thread that loses the race returns the configuration of the other, and a pointer that the one
has tagged is resolved by the other. -/
theorem published_once_race :
    let winner : Config := ⟨⟨0xBEEF, by decide⟩, 64, true, .bySize⟩
    let s := State.initial.run (race .default winner)
    s.returned = [(0, winner), (1, winner)] ∧ s.cell.isReady = true ∧
      (∀ more, (s.run more).cell = s.cell ∧ (s.run more).ran = s.ran) ∧
      (Protection.tagged.present ⟨0x100000000000⟩ winner.tag).resolve winner.tag =
        ⟨0x100000000000⟩ := by
  intro winner s
  have returned : s.returned = [(0, winner), (1, winner)] := by decide
  have ready : s.cell.isReady = true := by decide
  obtain ⟨_, _, stays, pointers, _⟩ := published_once (race .default winner)
  refine ⟨returned, ready, (stays ready).2, ?_⟩
  exact (pointers (0, winner) (by rw [returned]; decide) (1, winner) (by rw [returned]; decide)
    .tagged ⟨0x100000000000⟩ (by decide)).1

/-! ## Threads that meet -/

/-- The cell is in a stage in every reachable state. -/
theorem Reachable.stage (reach : Reachable s) : Stage s := by
  induction reach with
  | initial => exact .initial
  | step t init _ ih => exact ih.step t init

/-- An initialiser runs in a step, or none does. -/
lemma State.ran_step (s : State) (t : ThreadId) (init : Config) :
    (s.step t init).ran = s.ran ∨ (s.step t init).ran = (t, init) :: s.ran := by
  unfold step
  split
  case h_2 => split <;> exact .inl rfl
  case h_3 => split <;> exact .inl rfl
  case h_4 => exact .inr rfl
  all_goals exact .inl rfl

/-- However many threads meet, they get the one configuration that they ask for, and at most one
initialiser runs. -/
theorem meeting_returned (threads : Nat) (init : Config) :
    (∀ call ∈ (meeting threads init).returned, call.2 = init) ∧
      allEqual ((meeting threads init).returned.map (·.2)) = true ∧
      (meeting threads init).ran.length ≤ 1 := by
  have stage : Stage (meeting threads init) := (reachable_runOnce init _).stage
  have yields : ∀ r ∈ (meeting threads init).ran, r.2 = init := by
    refine runOnce_keeps (P := fun s => ∀ r ∈ s.ran, r.2 = init) (fun _ mem => (nomatch mem)) ?_ _
    intro s t kept
    obtain same | ran := s.ran_step t init
    · rw [same]
      exact kept
    · rw [ran]
      exact List.forall_mem_cons.mpr ⟨rfl, kept⟩
  have returned : ∀ call ∈ (meeting threads init).returned, call.2 = init := by
    intro call mem
    obtain ⟨winner, ran⟩ := stage.exists_winner mem
    exact yields (winner, call.2) (by rw [ran]; exact List.mem_singleton_self _)
  exact ⟨returned, allEqual_of_forall (List.forall_mem_map.mpr returned), stage.length_ran_le⟩

end Concurrent.ConfigCells

end PointerTagging
