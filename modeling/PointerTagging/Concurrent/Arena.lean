import PointerTagging.Arena
import PointerTagging.Concurrent.Schedule
/-!
# The arena under threads

Any number of threads allocate from one arena at the same time. A call loads the offset of the next
chunk once, then tries to exchange it for the end of its own chunk. An exchange fails if the offset
has changed meanwhile, and may also fail for no reason; either way it hands back the offset it
found, and the call tries again while its chunk still fits. The header is written after the
exchange.
-/

namespace PointerTagging.Concurrent.ArenaThreads

/-- Where a thread stands in an allocation. -/
inductive Point where
  /-- Outside any call. -/
  | idle
  /-- About to load the offset, for a chunk of a size that fits in a word. -/
  | load (size : UInt64)
  /-- About to exchange `offset` for `stop`, after `lost` exchanges that found it changed. -/
  | exchange (size : UInt64) (offset stop lost : Nat)
  /-- The chunk at `offset` is claimed: about to write its header. -/
  | header (size : UInt64) (offset lost : Nat)
  deriving DecidableEq, Repr

/-- An allocation that has returned. -/
structure Call where
  thread : ThreadId
  size : UInt64
  result : Option RealAddr
  /-- How many of its exchanges found the offset changed. -/
  lost : Nat
  deriving DecidableEq, Repr

/-- A chunk that is claimed. -/
structure Chunk where
  offset : Nat
  stop : Nat
  size : UInt64
  deriving DecidableEq, Repr

/-- The arena and its bytes, where each thread stands, and what has happened so far. -/
structure State where
  arena : Arena
  memory : Memory
  points : ThreadId → Point
  /-- The chunks in the order they were claimed, the latest first. -/
  claimed : List Chunk
  /-- The calls that have returned, the latest first. -/
  returned : List Call

/-- What a thread does in a step. -/
inductive Action where
  /-- Starts an allocation if it stands outside any. -/
  | start (size : UInt64)
  /-- Goes on with its allocation. An exchange fails for no reason if `spurious`. -/
  | advance (spurious : Bool)
  /-- Stores a byte at an offset in the payload of a chunk that a returned call handed out, if the
      offset is below the size that was asked for. -/
  | store (addr : RealAddr) (offset : Nat) (byte : UInt8)
  deriving DecidableEq, Repr

namespace State

/-- No thread has called. -/
def initial (capacity : Nat) : State := ⟨.fresh capacity, .zeroed, fun _ => .idle, [], []⟩

/-- The state with a thread at another point. -/
def goto (s : State) (t : ThreadId) (point : Point) : State :=
  { s with points := update s.points t point }

/-- The state after a thread's call has returned. -/
def finish (s : State) (t : ThreadId) (size : UInt64) (result : Option RealAddr) (lost : Nat) :
    State :=
  { s.goto t .idle with returned := ⟨t, size, result, lost⟩ :: s.returned }

/-- The state after a thread has learnt the offset: it tries to claim its chunk there, or gives up
if the rest is too small. -/
def attempt (s : State) (t : ThreadId) (size : UInt64) (offset lost : Nat) : State :=
  match Arena.chunkEnd? s.arena.capacity offset size with
  | none => s.finish t size none lost
  | some stop => s.goto t (.exchange size offset stop lost)

/-- One step of a thread. -/
def step (s : State) (t : ThreadId) : Action → State
  | .start size =>
    match s.points t with
    | .idle =>
      match Arena.chunkSize? size with
      | none => s.finish t size none 0
      | some _ => s.goto t (.load size)
    | _ => s
  | .advance spurious =>
    match s.points t with
    | .idle => s
    | .load size => s.attempt t size s.arena.used 0
    | .exchange size offset stop lost =>
      if s.arena.used = offset then
        if spurious then s.attempt t size offset lost
        else
          { s.goto t (.header size offset lost) with
            arena := { s.arena with used := stop }
            claimed := ⟨offset, stop, size⟩ :: s.claimed }
      else s.attempt t size s.arena.used (lost + 1)
    | .header size offset lost =>
      { s.finish t size (some (Arena.payload offset)) lost with
        memory := s.memory.writeWord (Arena.base + offset) size }
  | .store addr offset byte =>
    if s.returned.any fun c => c.result == some addr && offset < c.size.toNat then
      { s with memory := s.memory.write (addr.value.toNat + offset) [byte] }
    else s

end State

/-- The states that any number of threads can reach in an arena of the given capacity. -/
inductive Reachable (capacity : Nat) : State → Prop where
  | initial : Reachable capacity (.initial capacity)
  | step {s : State} (t : ThreadId) (action : Action) :
    Reachable capacity s → Reachable capacity (s.step t action)

/-- The state after the threads of a schedule took a step each of one allocation of the given size,
with no exchange failing for no reason. A thread that has returned stays away. -/
def runOnce (capacity : Nat) (size : UInt64) (schedule : List ThreadId) : State :=
  schedule.foldl
    (fun s t =>
      if s.returned.any fun c => c.thread == t then s
      else s.step t (if s.points t = .idle then .start size else .advance false))
    (.initial capacity)

/-- What the steps of an allocation of the given size keep, in which no exchange fails for no
reason. -/
theorem runOnce_keeps {P : State → Prop} {capacity : Nat} {size : UInt64}
    (initial : P (.initial capacity)) (start : ∀ s t, P s → P (s.step t (.start size)))
    (advance : ∀ s t, P s → P (s.step t (.advance false))) (schedule : List ThreadId) :
    P (runOnce capacity size schedule) := by
  refine List.foldlRecOn schedule _ initial fun s h t _ => ?_
  split
  · exact h
  · split
    · exact start s t h
    · exact advance s t h

theorem reachable_runOnce (capacity : Nat) (size : UInt64) (schedule : List ThreadId) :
    Reachable capacity (runOnce capacity size schedule) :=
  runOnce_keeps .initial (fun _ t h => h.step t _) (fun _ t h => h.step t _) schedule

/-! ## Threads that meet -/

/-- The state after some threads have allocated once each, in turn. In every round after the first
two some thread claims its chunk. -/
def meeting (capacity threads : Nat) (size : UInt64) : State :=
  runOnce capacity size (roundRobin threads (threads + 4))

/-- The addresses that were handed out, in increasing order. -/
def State.addresses (s : State) : List Nat :=
  (s.returned.filterMap fun c => c.result.map fun addr => addr.value.toNat).mergeSort (· ≤ ·)

/-- The distances between neighbours of a list. -/
def gaps : List Nat → List Nat
  | a :: b :: rest => (b - a) :: gaps (b :: rest)
  | _ => []

end PointerTagging.Concurrent.ArenaThreads
