import PointerTagging.SymbolTable
import PointerTagging.Concurrent.Schedule
/-!
# Symbol tables under threads

Any number of threads look symbols up in any number of symbol tables at the same time. Each access
to a cell of a slot is a step of its own: a lookup reads the state, claims an unresolved slot by an
exchange, and reads the address of a ready one; the thread that claimed a slot runs its resolver,
then stores the address, counts the binding, and publishes the state. A resolver may look further
symbols up on its own thread before it answers. Each thread has one set of the symbols that it is
resolving, which does not tell the tables apart.
-/

namespace PointerTagging.Concurrent.Symbols

/-- A slot: one symbol of one table. -/
structure Site (κ : Type) where
  table : κ
  symbol : Symbol
  deriving DecidableEq, Repr

/-- What a resolver does: it answers, or it looks a symbol up and goes on by what it is told. -/
inductive Resolver (κ : Type) where
  | answer (resolution : Resolution)
  | lookup (site : Site κ) (next : Lookup → Resolver κ)

/-- Where a thread stands in a lookup. -/
inductive Point (κ : Type) where
  /-- About to read the state. -/
  | readState
  /-- The state was ready: about to read the address. -/
  | readAddr
  /-- The state was unresolved: about to exchange it. -/
  | exchange
  /-- The exchange succeeded: about to start the resolver. -/
  | enter
  /-- The resolver is running, and this is what it still does. -/
  | running (resolver : Resolver κ)
  /-- About to store the address that the resolver gave. -/
  | storeAddr (addr : UInt64)
  /-- About to count the binding. -/
  | countBind (addr : UInt64)
  /-- About to set the state to ready. -/
  | publishReady (addr : UInt64)
  /-- About to report why nothing is bound. -/
  | complain (error : SymbolError)
  /-- About to set the state to failed. -/
  | publishFailed

/-- A lookup that has not returned. -/
structure Frame (κ : Type) where
  site : Site κ
  point : Point κ

/-- A thread. -/
structure Thread (κ : Type) where
  /-- Its lookups that have not returned, the innermost first: each but the last is made by the
      resolver of the next. -/
  stack : List (Frame κ)
  /-- The symbols whose resolvers it runs. -/
  resolving : SymbolSet
  /-- The lookups that it has yet to make. -/
  todo : List (Site κ)

/-- A lookup that has returned. -/
structure Returned (κ : Type) where
  thread : ThreadId
  site : Site κ
  answer : Lookup
  deriving DecidableEq, Repr

/-- The slots, the threads, and what has happened so far. -/
structure State (κ : Type) where
  slots : Site κ → Slot
  threads : ThreadId → Thread κ
  /-- The resolvers that were started, the latest first. -/
  started : List (ThreadId × Site κ)
  /-- What the resolvers answered, the latest first. -/
  resolutions : List (Site κ × Resolution)
  /-- What was reported, in order. -/
  reports : List SymbolError
  /-- The lookups that have returned, the latest first. -/
  returned : List (Returned κ)

namespace State

variable {κ : Type} [DecidableEq κ]

/-- No thread has made any of its lookups. -/
def initial (todo : ThreadId → List (Site κ)) : State κ where
  slots := fun _ => .fresh
  threads := fun t => ⟨[], .empty, todo t⟩
  started := []
  resolutions := []
  reports := []
  returned := []

/-- The state with a thread replaced. -/
def setThread (s : State κ) (t : ThreadId) (thread : Thread κ) : State κ :=
  { s with threads := update s.threads t thread }

/-- The state with a slot changed. -/
def modifySlot (s : State κ) (site : Site κ) (f : Slot → Slot) : State κ :=
  { s with slots := fun other => if other = site then f (s.slots other) else s.slots other }

/-- The state with a thread's innermost lookup at another point. -/
def goto (s : State κ) (t : ThreadId) (point : Point κ) : State κ :=
  let thread := s.threads t
  match thread.stack with
  | [] => s
  | frame :: below => s.setThread t { thread with stack := { frame with point } :: below }

/-- The stack of a thread whose innermost lookup has returned: a resolver that made the lookup is
told the answer. -/
def tell (answer : Lookup) : List (Frame κ) → List (Frame κ)
  | ⟨site, .running (.lookup _ next)⟩ :: below => ⟨site, .running (next answer)⟩ :: below
  | stack => stack

/-- The state after a thread's innermost lookup has returned. -/
def finish (s : State κ) (t : ThreadId) (answer : Lookup) : State κ :=
  let thread := s.threads t
  match thread.stack with
  | [] => s
  | frame :: below =>
    { s.setThread t { thread with stack := tell answer below } with
      returned := ⟨t, frame.site, answer⟩ :: s.returned }

/-- The state after a thread has begun a lookup. -/
def begin (s : State κ) (t : ThreadId) (site : Site κ) : State κ :=
  let thread := s.threads t
  s.setThread t { thread with stack := ⟨site, .readState⟩ :: thread.stack }

/-- The state after a resolver of a thread has answered: its symbol is no longer marked. -/
def leave (s : State κ) (t : ThreadId) (site : Site κ) (resolution : Resolution) : State κ :=
  let thread := s.threads t
  let s :=
    { s.setThread t { thread with resolving := thread.resolving.erase site.symbol } with
      resolutions := (site, resolution) :: s.resolutions }
  match resolution.bound? with
  | some addr => s.goto t (.storeAddr addr)
  | none => s.goto t (.complain (resolution.complaint site.symbol))

/-- One step of a thread. `resolver` says what each thread's resolver does for each slot. -/
def step (resolver : ThreadId → Site κ → Resolver κ) (s : State κ) (t : ThreadId) : State κ :=
  let thread := s.threads t
  match thread.stack with
  | [] =>
    match thread.todo with
    | [] => s
    | site :: todo => (s.setThread t { thread with todo }).begin t site
  | ⟨site, point⟩ :: _ =>
    match point with
    | .readState =>
      match (s.slots site).state with
      | .ready => s.goto t .readAddr
      | .failed => s.finish t .failed
      | .resolving =>
        if thread.resolving.contains site.symbol then s.finish t .bootstrapping else s
      | .unresolved => s.goto t .exchange
    | .readAddr => s.finish t (.ready (s.slots site).addr)
    | .exchange =>
      if (s.slots site).state = .unresolved then
        (s.modifySlot site fun slot => { slot with state := .resolving }).goto t .enter
      else s.goto t .readState
    | .enter =>
      let s := s.setThread t { thread with resolving := thread.resolving.insert site.symbol }
      { s.goto t (.running (resolver t site)) with started := (t, site) :: s.started }
    | .running (.lookup inner _) => s.begin t inner
    | .running (.answer resolution) => s.leave t site resolution
    | .storeAddr addr =>
      (s.modifySlot site fun slot => { slot with addr }).goto t (.countBind addr)
    | .countBind addr =>
      (s.modifySlot site fun slot => { slot with binds := slot.binds + 1 }).goto t
        (.publishReady addr)
    | .publishReady addr =>
      (s.modifySlot site fun slot => { slot with state := .ready }).finish t (.ready addr)
    | .complain error => { s.goto t .publishFailed with reports := s.reports ++ [error] }
    | .publishFailed =>
      (s.modifySlot site fun slot => { slot with state := .failed }).finish t .failed

/-- True of a thread that has made all its lookups. -/
def isDone (s : State κ) (t : ThreadId) : Bool :=
  (s.threads t).stack.isEmpty && (s.threads t).todo.isEmpty

/-- True of a thread whose next step reads a slot that is being resolved and leaves everything as it
is. -/
def spins (s : State κ) (t : ThreadId) : Bool :=
  match (s.threads t).stack with
  | ⟨site, .readState⟩ :: _ =>
    (s.slots site).state == .resolving && !(s.threads t).resolving.contains site.symbol
  | _ => false

/-- The state after the threads of a schedule took a step each. -/
def run (resolver : ThreadId → Site κ → Resolver κ) (s : State κ) (schedule : List ThreadId) :
    State κ :=
  schedule.foldl (fun s t => s.step resolver t) s

/-- What a thread's lookups answered, in order. -/
def answers (s : State κ) (t : ThreadId) : List (Site κ × Lookup) :=
  (s.returned.reverse.filter fun r => r.thread == t).map fun r => (r.site, r.answer)

end State

/-- The states that the threads can reach. -/
inductive Reachable {κ : Type} [DecidableEq κ] (resolver : ThreadId → Site κ → Resolver κ)
    (todo : ThreadId → List (Site κ)) : State κ → Prop where
  | initial : Reachable resolver todo (.initial todo)
  | step {s : State κ} (t : ThreadId) :
    Reachable resolver todo s → Reachable resolver todo (s.step resolver t)

theorem Reachable.run {κ : Type} [DecidableEq κ] {resolver : ThreadId → Site κ → Resolver κ}
    {todo : ThreadId → List (Site κ)} {s : State κ} (h : Reachable resolver todo s)
    (schedule : List ThreadId) : Reachable resolver todo (s.run resolver schedule) := by
  induction schedule generalizing s with
  | nil => exact h
  | cons t ts ih => exact ih (h.step t)

/-! ## Threads that meet -/

/-- A resolver that makes no lookups of its own: it finds an address for every symbol but `free`. -/
def exampleResolver (_ : ThreadId) (site : Site Unit) : Resolver Unit :=
  match site.symbol with
  | .free => .answer (.error (.unresolved .free))
  | s => .answer (.ok (0x1000 + s.index.toUInt64))

/-- How many rounds the lookups of all symbols take: for each symbol eight steps of the thread that
claims the slot, and three of a thread that waits for it. -/
def meetingRounds : Nat := Symbol.count * 11

/-- The state after some threads have looked up every symbol, in turn. -/
def meeting (threads : Nat) : State Unit :=
  (State.initial fun t => if t < threads then Symbol.all.map (Site.mk ()) else []).run
    exampleResolver (roundRobin threads meetingRounds)

/-- What each of the threads was told, in the order of its lookups. -/
def State.views (s : State Unit) (threads : Nat) : List (List Lookup) :=
  (List.range threads).map fun t => (s.answers t).map (·.2)

end PointerTagging.Concurrent.Symbols
