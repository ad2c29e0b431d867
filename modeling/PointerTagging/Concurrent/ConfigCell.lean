import PointerTagging.ConfigCell
import PointerTagging.Concurrent.Schedule
/-!
# The configuration cell under threads

Any number of threads ask for the configuration at the same time. Each access to one of the cells is
a step of its own. The thread that wins the exchange runs its initialiser, stores the values one by
one and publishes them; the others read the state again until it is ready, then load the values one
by one.
-/

namespace PointerTagging.Concurrent.ConfigCells

/-- Where a thread stands in a call. -/
inductive Point where
  /-- Outside any call. -/
  | idle
  /-- About to read the state. -/
  | readState
  /-- The state was unset: about to exchange it. -/
  | exchange
  /-- The exchange succeeded: about to run the initialiser. -/
  | initialise
  /-- About to store the tag of the configuration. -/
  | storeTag (config : Config)
  /-- About to store its threshold. -/
  | storeThreshold (config : Config)
  /-- About to store its flags. -/
  | storeFlags (config : Config)
  /-- About to set the state to ready. -/
  | publish (config : Config)
  /-- The state was ready: about to load the flags. -/
  | loadFlags
  /-- About to load the tag. -/
  | loadTag (flags : UInt8)
  /-- About to load the threshold. -/
  | loadThreshold (flags : UInt8) (tag : UInt16)
  deriving DecidableEq, Repr

/-- The cells, where each thread stands, and what has happened so far. -/
structure State where
  cell : ConfigCell
  points : ThreadId → Point
  /-- The initialisers that ran, with what they yielded, the latest first. -/
  ran : List (ThreadId × Config)
  /-- What the calls returned, the latest first. -/
  returned : List (ThreadId × Config)

namespace State

/-- No thread has called. -/
def initial : State := ⟨.fresh, fun _ => .idle, [], []⟩

/-- The state with a thread at another point. -/
def goto (s : State) (t : ThreadId) (point : Point) : State :=
  { s with points := update s.points t point }

/-- The state after a thread's call has returned. -/
def finish (s : State) (t : ThreadId) (config : Config) : State :=
  { s.goto t .idle with returned := (t, config) :: s.returned }

/-- One step of a thread. If it runs its initialiser, this yields `init`. -/
def step (s : State) (t : ThreadId) (init : Config) : State :=
  match s.points t with
  | .idle => s.goto t .readState
  | .readState =>
    match s.cell.state with
    | .ready => s.goto t .loadFlags
    | .resolving => s
    | .unset => s.goto t .exchange
  | .exchange =>
    match s.cell.state with
    | .unset => { s.goto t .initialise with cell := { s.cell with state := .resolving } }
    | _ => s.goto t .readState
  | .initialise => { s.goto t (.storeTag init) with ran := (t, init) :: s.ran }
  | .storeTag config =>
    { s.goto t (.storeThreshold config) with cell := { s.cell with tag := config.tag.value } }
  | .storeThreshold config =>
    { s.goto t (.storeFlags config) with cell := { s.cell with threshold := config.threshold } }
  | .storeFlags config =>
    { s.goto t (.publish config) with cell := { s.cell with flags := ConfigCell.flagsOf config } }
  | .publish config => { s with cell := { s.cell with state := .ready } }.finish t config
  | .loadFlags => s.goto t (.loadTag s.cell.flags)
  | .loadTag flags => s.goto t (.loadThreshold flags s.cell.tag)
  | .loadThreshold flags tag => s.finish t (ConfigCell.decode tag s.cell.threshold flags)

end State

/-- The states that any number of threads can reach, whatever their initialisers yield. -/
inductive Reachable : State → Prop where
  | initial : Reachable .initial
  | step {s : State} (t : ThreadId) (init : Config) : Reachable s → Reachable (s.step t init)

/-- The state after the threads of a schedule took a step each, all with the same initialiser. A
thread that has returned stays away. -/
def runOnce (init : Config) (schedule : List ThreadId) : State :=
  schedule.foldl
    (fun s t => if s.returned.any fun r => r.1 == t then s else s.step t init) .initial

/-- What the steps of threads keep whose initialisers yield the same. -/
theorem runOnce_keeps {P : State → Prop} {init : Config} (initial : P .initial)
    (step : ∀ s t, P s → P (s.step t init)) (schedule : List ThreadId) :
    P (runOnce init schedule) := by
  refine List.foldlRecOn schedule _ initial fun s h t _ => ?_
  split
  · exact h
  · exact step s t h

theorem reachable_runOnce (init : Config) (schedule : List ThreadId) :
    Reachable (runOnce init schedule) :=
  runOnce_keeps .initial (fun _ t h => h.step t init) schedule

/-! ## Threads that meet -/

/-- How many rounds a call takes: eight steps of the thread that publishes, and five of one that
waits. -/
def meetingRounds : Nat := 13

/-- The state after some threads have asked in turn for the configuration, which is initialised to
`init`. -/
def meeting (threads : Nat) (init : Config) : State :=
  runOnce init (roundRobin threads meetingRounds)

end PointerTagging.Concurrent.ConfigCells
