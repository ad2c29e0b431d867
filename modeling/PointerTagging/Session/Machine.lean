import PointerTagging.Session.Image
/-!
# Sessions

A session is a machine that plays a script on one thread. Its stack holds the resolvers that are
running, the innermost first, each with the calls that it still has to make and the call that waits
for its symbol. One step starts the next call of the innermost resolver, or of the application if no
resolver runs, or lets a resolver without calls return.

`Machine.run` plays a session to its end. It needs no bound: a step either claims a slot, which no
step gives back, or shortens what is left to play (`Machine.step_decreases`).
-/

namespace PointerTagging.Session

/-- What a call waits for: the answer of a lookup, or a task of a request of the application. -/
inductive Job where
  | lookup
  | request (request : Request PresentedAddr) (task : Task)
  deriving DecidableEq, Repr

/-- A running resolver. -/
structure Frame where
  /-- The symbol that is being resolved. -/
  symbol : Symbol
  /-- The calls that the resolver still has to make. -/
  script : List Step
  /-- The step whose call claimed the slot. -/
  step : Step
  /-- What that call waits for. -/
  job : Job
  deriving DecidableEq, Repr

/-- Why a session stops before its script is played. -/
inductive Halt where
  /-- A call through a slot that failed aborts the process. -/
  | aborted (s : Symbol)
  /-- A lookup waits for a slot that nobody will publish. -/
  | spinning (s : Symbol)
  deriving DecidableEq, Repr

/-- What does not change during a session. -/
structure Setup where
  route : Route
  access : Access
  resolver : Symbol → Resolver

/-- An answer with what happened on the way to it. -/
structure Entry where
  answer : Answer
  events : List Event
  deriving DecidableEq, Repr

/-- The state of a session. -/
structure Machine where
  image : Image
  labels : List (String × UInt64)
  stack : List Frame
  /-- The calls that the application still has to make. -/
  todo : List Step
  /-- What the application's calls answered, in order. -/
  answered : List Entry
  halted : Option Halt

namespace Machine

/-- A session at its start. -/
def start (image : Image) (script : List Step) : Machine where
  image := image
  labels := []
  stack := []
  todo := script
  answered := []
  halted := none

/-- The address that an operand names. A label that stands for nothing names null. -/
def value (m : Machine) : Operand → UInt64
  | .address value => value
  | .label name => ((m.labels.find? fun l => l.1 == name).map (·.2)).getD 0

/-- The machine with a label put on an answer. -/
def label (m : Machine) (step : Step) (answer : Answer) : Machine :=
  match step.label, answer.address? with
  | some name, some addr => { m with labels := (name, addr) :: m.labels }
  | _, _ => m

/-- Hands an answer to whoever made the call: the innermost resolver, or the application. An answer
that was forced and not taken is dropped. -/
def deliver (m : Machine) (step : Step) (answer : Answer) : Machine :=
  let m := m.label step answer
  match m.stack with
  | [] =>
    { m with
      answered := m.answered ++ [⟨answer, m.image.events⟩]
      image := { m.image with events := [], heap := { m.image.heap with forced := none } } }
  | frame :: _ =>
    let heap := { m.image.heap with
      forced := if step.forced.isSome then none else m.image.heap.forced }
    { m with
      image := { m.image with heap }.record (.inside frame.symbol step.call answer) }

/-- Hands the response to a request to whoever made it. -/
def respond (setup : Setup) (m : Machine) (step : Step) (request : Request PresentedAddr)
    (response : Response RealAddr) : Machine :=
  let (presented, image) := setup.route.leave setup.access m.image request response
  let answer :=
    match presented with
    | .pointer addr => .pointer addr.value
    | .freed => .freed
    | .size n => .size n
  { m with image }.deliver step answer

/-- Goes on with a call whose symbol's slot is known. -/
def resume (setup : Setup) (m : Machine) (s : Symbol) (step : Step) (job : Job) (found : Lookup) :
    Machine :=
  match job with
  | .lookup =>
    match found with
    | .ready addr =>
      m.deliver step (.ready (if (setup.resolver s).addr.isSome then some addr else none))
    | .bootstrapping => m.deliver step .bootstrapping
    | .failed => m.deliver step .failed
  | .request request task =>
    match found with
    | .ready _ =>
      let (response, image) := m.image.carryOut task
      { m with image }.respond setup step request response
    | .bootstrapping =>
      let (response, image) := m.image.bootstrap task
      { m with image }.respond setup step request response
    | .failed =>
      { m with image := m.image.report [.symbol (.unbound s)], halted := some (.aborted s) }

/-- Looks a symbol up for a call. An unclaimed slot is claimed, and its resolver starts. -/
def lookup (setup : Setup) (m : Machine) (s : Symbol) (step : Step) (job : Job) : Machine :=
  let slot := m.image.table.slots s
  match slot.state with
  | .ready => m.resume setup s step job (.ready slot.addr)
  | .failed => m.resume setup s step job .failed
  | .resolving =>
    if m.image.table.resolving.contains s then m.resume setup s step job .bootstrapping
    else { m with halted := some (.spinning s) }
  | .unresolved =>
    { m with
      image := { m.image with table := m.image.table.claim s }.record (.resolve s)
      stack := ⟨s, (setup.resolver s).script, step, job⟩ :: m.stack }

/-- Starts a request of the application. -/
def request (setup : Setup) (m : Machine) (step : Step) (request : Request PresentedAddr) :
    Machine :=
  match setup.route.enter m.image request with
  | (.error (.pointer addr), image) => { m with image }.deliver step (.pointer addr.value)
  | (.error .freed, image) => { m with image }.deliver step .freed
  | (.error (.size n), image) => { m with image }.deliver step (.size n)
  | (.ok real, image) =>
    match setup.route.plan image real with
    | (.answer response, image) => { m with image }.respond setup step request response
    | (.need task, image) =>
      { m with image }.lookup setup task.symbol step (.request request task)

/-- Starts a call. -/
def call (setup : Setup) (m : Machine) (step : Step) : Machine :=
  let m :=
    if step.forced.isSome then
      { m with image := { m.image with heap := { m.image.heap with forced := step.forced } } }
    else m
  match step.call with
  | .request r => m.request setup step (r.map fun operand => ⟨m.value operand⟩)
  | .write target bytes =>
    let addr := (setup.route.resolve (m.value target)).toNat
    if m.image.maps addr bytes.length then
      { m with image := { m.image with memory := m.image.memory.write addr bytes } }.deliver
        step .stored
    else m.deliver step .fault
  | .read source len =>
    let addr := (setup.route.resolve (m.value source)).toNat
    if m.image.maps addr len.toNat then
      m.deliver step (.bytes (m.image.memory.read addr len.toNat))
    else m.deliver step .fault
  | .lookup s => m.lookup setup s step .lookup
  | .arenaAlloc size =>
    let (addr, image) := m.image.arenaAlloc size
    { m with image }.deliver step (.chunk (if addr.isNull then none else some addr.value))
  | .arenaContains addr => m.deliver step (.inArena (m.image.arena.contains ⟨m.value addr⟩))
  | .arenaUsable addr =>
    m.deliver step (.chunkSize (m.image.arena.usableSize? m.image.memory ⟨m.value addr⟩))
  | .stats => m.deliver step m.image.stats
  | .config =>
    { m with image := setup.route.configure m.image }.deliver step
      (.config (setup.route.config?.getD .default))

/-- Lets the innermost resolver return: its slot is published, a failure is reported, and the call
that waited for the symbol goes on. -/
def settle (setup : Setup) (m : Machine) (frame : Frame) : Machine :=
  let s := frame.symbol
  let resolver := setup.resolver s
  let resolution := resolver.resolution s
  let reports := if resolution.bound?.isSome then [] else [.symbol (resolution.complaint s)]
  let image := (m.image.record (.resolved s resolver.outcome)).report reports
  { m with image := { image with table := image.table.publish s resolution } }.resume setup s
    frame.step frame.job resolution.lookup

/-- One step of a session, or nothing if it is over. -/
def step (setup : Setup) (m : Machine) : Option Machine :=
  match m.halted with
  | some _ => none
  | none =>
    match m.stack with
    | [] =>
      match m.todo with
      | [] => none
      | next :: todo => some ({ m with todo }.call setup next)
    | frame :: stack =>
      match frame.script with
      | [] => some ({ m with stack }.settle setup frame)
      | next :: script => some ({ m with stack := { frame with script } :: stack }.call setup next)

/-! ## Every session ends -/

/-- How many slots can still be claimed. -/
def unclaimed (m : Machine) : Nat := m.image.table.unclaimed.length

/-- How much is left to play: a call each, and the return of each running resolver. -/
def remaining (m : Machine) : Nat :=
  m.todo.length + m.stack.length + (m.stack.flatMap (·.script)).length

/-- Two machines with the same slots and the same things left to play. -/
def SameCourse (m m' : Machine) : Prop :=
  m'.image.table = m.image.table ∧ m'.stack = m.stack ∧ m'.todo = m.todo

theorem SameCourse.trans {a b c : Machine} (hab : SameCourse a b) (hbc : SameCourse b c) :
    SameCourse a c :=
  ⟨hbc.1.trans hab.1, hbc.2.1.trans hab.2.1, hbc.2.2.trans hab.2.2⟩

theorem sameCourse_label (m : Machine) (step : Step) (answer : Answer) :
    SameCourse m (m.label step answer) := by
  unfold label
  split <;> exact ⟨rfl, rfl, rfl⟩

theorem sameCourse_deliver (m : Machine) (step : Step) (answer : Answer) :
    SameCourse m (m.deliver step answer) := by
  refine (sameCourse_label m step answer).trans ?_
  unfold deliver
  dsimp only
  split <;> exact ⟨rfl, rfl, rfl⟩

theorem SameCourse.of_image {m : Machine} {p : Image} (h : p.table = m.image.table) :
    SameCourse m { m with image := p } := ⟨h, rfl, rfl⟩

theorem sameCourse_respond (setup : Setup) (m : Machine) (step : Step)
    (request : Request PresentedAddr) (response : Response RealAddr) :
    SameCourse m (m.respond setup step request response) :=
  (SameCourse.of_image (Route.table_leave _ _ _ _ _)).trans (sameCourse_deliver _ _ _)

theorem sameCourse_resume (setup : Setup) (m : Machine) (s : Symbol) (step : Step) (job : Job)
    (found : Lookup) : SameCourse m (m.resume setup s step job found) := by
  unfold resume
  split
  · split <;> exact sameCourse_deliver _ _ _
  · split
    · exact (SameCourse.of_image (Image.table_carryOut _ _)).trans (sameCourse_respond _ _ _ _ _)
    · exact (SameCourse.of_image (Image.table_bootstrap _ _)).trans (sameCourse_respond _ _ _ _ _)
    · exact ⟨rfl, rfl, rfl⟩

/-- A call goes on without touching a slot, or claims one and starts its resolver. -/
def Advances (m m' : Machine) : Prop := SameCourse m m' ∨ m'.unclaimed < m.unclaimed

theorem Advances.of_sameCourse {a b c : Machine} (hab : SameCourse a b) (hbc : Advances b c) :
    Advances a c := by
  rcases hbc with h | h
  · exact .inl (hab.trans h)
  · exact .inr (by simpa only [unclaimed, hab.1] using h)

theorem advances_lookup (setup : Setup) (m : Machine) (s : Symbol) (step : Step) (job : Job) :
    Advances m (m.lookup setup s step job) := by
  unfold lookup
  dsimp only
  split
  · exact .inl (sameCourse_resume _ _ _ _ _ _)
  · exact .inl (sameCourse_resume _ _ _ _ _ _)
  · split
    · exact .inl (sameCourse_resume _ _ _ _ _ _)
    · exact .inl ⟨rfl, rfl, rfl⟩
  · rename_i h
    exact .inr (SymbolTable.length_unclaimed_claim _ _ h)

theorem advances_request (setup : Setup) (m : Machine) (step : Step)
    (request : Request PresentedAddr) : Advances m (m.request setup step request) := by
  have he := Route.table_enter setup.route m.image request
  unfold Machine.request
  split <;> rename_i h <;> rw [h] at he
  · exact .inl ((SameCourse.of_image he).trans (sameCourse_deliver _ _ _))
  · exact .inl ((SameCourse.of_image he).trans (sameCourse_deliver _ _ _))
  · exact .inl ((SameCourse.of_image he).trans (sameCourse_deliver _ _ _))
  · rename_i real image
    have hp := Route.table_plan setup.route image real
    split <;> rename_i h' <;> rw [h'] at hp
    · exact .inl ((SameCourse.of_image (hp.trans he)).trans (sameCourse_respond _ _ _ _ _))
    · exact .of_sameCourse (SameCourse.of_image (hp.trans he)) (advances_lookup _ _ _ _ _)

theorem advances_call (setup : Setup) (m : Machine) (step : Step) :
    Advances m (m.call setup step) := by
  unfold call
  have hm : SameCourse m (if step.forced.isSome then
      { m with image := { m.image with heap := { m.image.heap with forced := step.forced } } }
    else m) := by split <;> exact ⟨rfl, rfl, rfl⟩
  generalize (if step.forced.isSome then
      { m with image := { m.image with heap := { m.image.heap with forced := step.forced } } }
    else m) = m' at hm
  refine Advances.of_sameCourse hm ?_
  dsimp only
  split
  · exact advances_request _ _ _ _
  · split
    · exact .inl ((SameCourse.of_image rfl).trans (sameCourse_deliver _ _ _))
    · exact .inl (sameCourse_deliver _ _ _)
  · split <;> exact .inl (sameCourse_deliver _ _ _)
  · exact advances_lookup _ _ _ _ _
  · exact .inl ((SameCourse.of_image (Image.table_arenaAlloc _ _)).trans (sameCourse_deliver _ _ _))
  · exact .inl (sameCourse_deliver _ _ _)
  · exact .inl (sameCourse_deliver _ _ _)
  · exact .inl (sameCourse_deliver _ _ _)
  · exact .inl ((SameCourse.of_image (Route.table_configure _ _)).trans (sameCourse_deliver _ _ _))

theorem SameCourse.unclaimed_eq {m m' : Machine} (h : SameCourse m m') :
    m'.unclaimed = m.unclaimed := by simp only [unclaimed, h.1]

theorem SameCourse.remaining_eq {m m' : Machine} (h : SameCourse m m') :
    m'.remaining = m.remaining := by simp only [remaining, h.2.1, h.2.2]

/-- Going on from a machine with less to play leaves less to play, or claims a slot. -/
theorem Advances.decreases {a b c : Machine} (hbc : Advances b c) (hu : b.unclaimed ≤ a.unclaimed)
    (hr : b.remaining < a.remaining) :
    c.unclaimed < a.unclaimed ∨ c.unclaimed ≤ a.unclaimed ∧ c.remaining < a.remaining := by
  rcases hbc with h | h
  · exact .inr ⟨h.unclaimed_eq ▸ hu, h.remaining_eq ▸ hr⟩
  · exact .inl (Nat.lt_of_lt_of_le h hu)

/-- A step claims a slot, or leaves less to play. -/
theorem step_decreases {setup : Setup} {m m' : Machine} (h : m.step setup = some m') :
    m'.unclaimed < m.unclaimed ∨ m'.unclaimed ≤ m.unclaimed ∧ m'.remaining < m.remaining := by
  unfold step at h
  split at h
  · exact nomatch h
  split at h <;> rename_i hs <;> split at h <;> rename_i ht
  · exact nomatch h
  · cases h
    exact (advances_call _ _ _).decreases (Nat.le_refl _) (by simp [remaining, ht])
  · cases h
    refine Advances.decreases (.inl (sameCourse_resume _ _ _ _ _ _))
      (SymbolTable.length_unclaimed_publish_le _ _ _) ?_
    simp only [remaining, hs, List.length_cons, List.flatMap_cons, List.length_append]
    omega
  · cases h
    exact (advances_call _ _ _).decreases (Nat.le_refl _) (by simp [remaining, hs, ht])

/-- Plays a session to its end. -/
def run (setup : Setup) (m : Machine) : Machine :=
  match _h : m.step setup with
  | none => m
  | some m' => run setup m'
termination_by (m.unclaimed, m.remaining)
decreasing_by
  rcases step_decreases _h with h | h
  · exact Prod.Lex.left _ _ h
  · rcases Nat.lt_or_eq_of_le h.1 with h1 | h1
    · exact Prod.Lex.left _ _ h1
    · rw [h1]; exact Prod.Lex.right _ h.2

end Machine

end PointerTagging.Session
