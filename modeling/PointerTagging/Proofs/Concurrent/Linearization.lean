import Mathlib.Data.List.Forall2
import PointerTagging.Proofs.Concurrent.Bump

/-!
# Allocations take effect at one step

A schedule says which thread takes each step and what for, and `trace` is the run that it makes.
Every call that returns in a run has taken effect at one of its own steps, as if it had been made
alone: a pointer was claimed by an exchange that found room for the chunk, and a call without a
result found no room at the moment it returned, and changed nothing (`linearizable`).
-/

namespace PointerTagging.Concurrent.ArenaThreads

open Arena (extent payload)

/-- Who takes each step, and what for. -/
abbrev Schedule := Nat → ThreadId × Action

/-- The state after the first steps of a schedule. -/
def trace (capacity : Nat) (schedule : Schedule) : Nat → State
  | 0 => .initial capacity
  | n + 1 => (trace capacity schedule n).step (schedule n).1 (schedule n).2

variable {capacity : Nat} {schedule : Schedule}

/-- A run passes through reachable states. -/
lemma reachable_trace (n : Nat) : Reachable capacity (trace capacity schedule n) := by
  induction n with
  | zero => exact .initial
  | succ n ih => exact ih.step _ _

/-- A run depends on the steps made so far only. -/
lemma trace_congr {other : Schedule} {n : Nat} (same : ∀ k < n, other k = schedule k) :
    trace capacity other n = trace capacity schedule n := by
  induction n with
  | zero => rfl
  | succ n ih =>
    rw [trace, trace, same n (Nat.lt_succ_self n), ih fun k lt => same k (Nat.lt_succ_of_lt lt)]

/-- Every reachable state lies on a run. -/
lemma Reachable.exists_trace {s : State} (reach : Reachable capacity s) :
    ∃ schedule n, trace capacity schedule n = s := by
  induction reach with
  | initial => exact ⟨fun _ => (0, .advance false), 0, rfl⟩
  | step t action _ ih =>
    obtain ⟨schedule, n, rfl⟩ := ih
    let longer : Schedule := fun k => if k < n then schedule k else (t, action)
    have same : ∀ k < n, longer k = schedule k := fun k lt => if_pos lt
    refine ⟨longer, n + 1, ?_⟩
    rw [trace, trace_congr same, show longer n = (t, action) from if_neg (Nat.lt_irrefl n)]

/-- The step belongs to an allocation of the thread: it is no store of a caller. -/
def Allocates (t : ThreadId) (event : ThreadId × Action) : Prop :=
  event.1 = t ∧ ∀ addr offset byte, event.2 ≠ .store addr offset byte

/-- The arena and its bytes have not changed. -/
structure State.Keeps (s next : State) : Prop where
  arena : next.arena = s.arena
  claimed : next.claimed = s.claimed
  memory : next.memory = s.memory

/-- The thread has been in one call since step `first`, up to state `n`. -/
structure Underway (capacity : Nat) (schedule : Schedule) (t : ThreadId) (size : UInt64)
    (first n : Nat) : Prop where
  started : schedule first = (t, .start size)
  idle : (trace capacity schedule first).points t = .idle
  busy : ∀ k, first < k → k ≤ n → (trace capacity schedule k).points t ≠ .idle

/-- The call has changed nothing between step `first` and state `n`. -/
def Silent (capacity : Nat) (schedule : Schedule) (t : ThreadId) (first n : Nat) : Prop :=
  ∀ k, first ≤ k → k < n → Allocates t (schedule k) →
    (trace capacity schedule k).Keeps (trace capacity schedule (k + 1))

/-- The call has claimed its chunk at step `point`, by an exchange that found room for it, and has
changed nothing else between step `first` and state `n`. -/
structure Claimed (capacity : Nat) (schedule : Schedule) (t : ThreadId) (size : UInt64)
    (first point n : Nat) : Prop where
  after : first < point
  before : point < n
  own : schedule point = (t, .advance false)
  exchanges : ∃ stop lost, (trace capacity schedule point).points t =
    .exchange size (trace capacity schedule point).arena.used stop lost
  fits : extent size ≤ capacity - (trace capacity schedule point).arena.used
  next : (trace capacity schedule (point + 1)).arena.used =
    (trace capacity schedule point).arena.used + extent size
  others : ∀ k, first ≤ k → k < n → k ≠ point → Allocates t (schedule k) →
    (trace capacity schedule k).Keeps (trace capacity schedule (k + 1))

/-- The call began at step `first` and has returned in step `last`. -/
structure Lasts (capacity : Nat) (schedule : Schedule) (c : Call) (first last : Nat) : Prop where
  underway : Underway capacity schedule c.thread c.size first last
  le : first ≤ last
  own : Allocates c.thread (schedule last)
  returns : (trace capacity schedule (last + 1)).returned =
    c :: (trace capacity schedule last).returned

/-- The call has returned the chunk that it claimed at step `point`. -/
structure Serves (capacity : Nat) (schedule : Schedule) (c : Call) (first point last : Nat) :
    Prop where
  claimed : Claimed capacity schedule c.thread c.size first point last
  result : c.result = some (payload (trace capacity schedule point).arena.used)
  arena : (trace capacity schedule (last + 1)).arena = (trace capacity schedule last).arena

/-- The call has returned nothing: there was no room for its chunk when it returned, and it has
changed nothing. -/
structure GivesUp (capacity : Nat) (schedule : Schedule) (c : Call) (first last : Nat) : Prop where
  result : c.result = none
  full : capacity - (trace capacity schedule last).arena.used < extent c.size
  silent : Silent capacity schedule c.thread first (last + 1)

/-- The call took effect at one of its steps. -/
def TakesEffect (capacity : Nat) (schedule : Schedule) (c : Call) (first last : Nat) : Prop :=
  Lasts capacity schedule c first last ∧
    ((∃ point, Serves capacity schedule c first point last) ∨
      GivesUp capacity schedule c first last)

variable {t u : ThreadId} {size : UInt64} {first point n : Nat} {action : Action}

/-- A call goes on as long as its thread stays in it. -/
lemma Underway.succ (underway : Underway capacity schedule t size first n)
    (busy : (trace capacity schedule (n + 1)).points t ≠ .idle) :
    Underway capacity schedule t size first (n + 1) where
  started := underway.started
  idle := underway.idle
  busy := fun k gt le => by
    rcases Nat.lt_or_eq_of_le le with lt | rfl
    · exact underway.busy k gt (Nat.le_of_lt_succ lt)
    · exact busy

/-- A step that changes nothing keeps a call silent, and so does a step of another thread. -/
lemma Silent.succ (silent : Silent capacity schedule t first n)
    (keeps : Allocates t (schedule n) →
      (trace capacity schedule n).Keeps (trace capacity schedule (n + 1))) :
    Silent capacity schedule t first (n + 1) := by
  intro k ge lt own
  rcases Nat.lt_or_eq_of_le (Nat.le_of_lt_succ lt) with lt | rfl
  · exact silent k ge lt own
  · exact keeps own

/-- A step that changes nothing keeps a call at its one change. -/
lemma Claimed.succ (claimed : Claimed capacity schedule t size first point n)
    (keeps : Allocates t (schedule n) →
      (trace capacity schedule n).Keeps (trace capacity schedule (n + 1))) :
    Claimed capacity schedule t size first point (n + 1) :=
  { claimed with
    before := Nat.lt_succ_of_lt claimed.before
    others := fun k ge lt ne own => by
      rcases Nat.lt_or_eq_of_le (Nat.le_of_lt_succ lt) with lt | rfl
      · exact claimed.others k ge lt ne own
      · exact keeps own }

/-- A thread that tries is in a call. -/
lemma Point.Tries.ne_idle {point : Point} (tries : point.Tries size) : point ≠ .idle := by
  cases tries <;> nofun

/-- A thread tries for one size. -/
lemma Point.Tries.size_eq {point : Point} {size' : UInt64} (tries : point.Tries size)
    (tries' : point.Tries size') : size' = size := by
  cases tries <;> cases tries' <;> rfl

/-- A step leaves every other thread where it is. -/
lemma Transition.others {s next : State} (transition : Transition s u action next) (ne : t ≠ u) :
    next.points t = s.points t := by
  cases transition with
  | rest | store => rfl
  | _ => exact update_of_ne _ _ ne

/-- What a thread does in state `n` follows from the call that it is in. -/
structure Traced (capacity : Nat) (schedule : Schedule) (t : ThreadId) (n : Nat) : Prop where
  tries : ∀ size, ((trace capacity schedule n).points t).Tries size →
    ∃ first < n, Underway capacity schedule t size first n ∧ Silent capacity schedule t first n
  header : ∀ size offset lost,
    (trace capacity schedule n).points t = .header size offset lost →
    ∃ first point, Underway capacity schedule t size first n ∧
      Claimed capacity schedule t size first point n ∧
      offset = (trace capacity schedule point).arena.used

/-- A thread that does not move, and changes nothing, stays traced. -/
lemma Traced.stay (traced : Traced capacity schedule t n)
    (same : (trace capacity schedule (n + 1)).points t = (trace capacity schedule n).points t)
    (keeps : Allocates t (schedule n) →
      (trace capacity schedule n).Keeps (trace capacity schedule (n + 1))) :
    Traced capacity schedule t (n + 1) where
  tries := fun size tries => by
    obtain ⟨first, lt, underway, silent⟩ := traced.tries size (same ▸ tries)
    exact ⟨first, Nat.lt_succ_of_lt lt, underway.succ tries.ne_idle, silent.succ keeps⟩
  header := fun size offset lost e => by
    obtain ⟨first, point, underway, claimed, e'⟩ := traced.header size offset lost (same ▸ e)
    exact ⟨first, point, underway.succ (by rw [e]; nofun), claimed.succ keeps, e'⟩

/-- A thread that has left its call is traced. -/
lemma Traced.of_idle (idle : (trace capacity schedule n).points t = .idle) :
    Traced capacity schedule t n where
  tries := fun size tries => by
    rw [idle] at tries
    cases tries
  header := fun size offset lost e => by
    rw [idle] at e
    cases e

/-- A thread that tries is traced if its call has changed nothing. -/
lemma Traced.of_tries (tries : ((trace capacity schedule n).points t).Tries size) (lt : first < n)
    (underway : Underway capacity schedule t size first n)
    (silent : Silent capacity schedule t first n) : Traced capacity schedule t n where
  tries := fun size' tries' => by
    obtain rfl := tries.size_eq tries'
    exact ⟨first, lt, underway, silent⟩
  header := fun size' offset lost e => by
    rw [e] at tries
    cases tries

/-- A thread that owes a header is traced if its call has claimed the chunk. -/
lemma Traced.of_header {lost : Nat}
    (header : (trace capacity schedule n).points t =
      .header size (trace capacity schedule point).arena.used lost)
    (underway : Underway capacity schedule t size first n)
    (claimed : Claimed capacity schedule t size first point n) : Traced capacity schedule t n where
  tries := fun size' tries => by
    rw [header] at tries
    cases tries
  header := fun size' offset lost' e => by
    rw [header] at e
    cases e
    exact ⟨first, point, underway, claimed, rfl⟩

/-- The calls that have returned in state `n` took effect before, each in a span of its own: a list
of their first and last steps, in the order of the calls. -/
structure Spanned (capacity : Nat) (schedule : Schedule) (n : Nat) (spans : List (Nat × Nat)) :
    Prop where
  effects : List.Forall₂ (fun c span => TakesEffect capacity schedule c span.1 span.2)
    (trace capacity schedule n).returned spans
  before : ∀ span ∈ spans, span.2 < n
  /-- No two calls returned in one step. -/
  decreasing : spans.Pairwise fun later earlier => earlier.2 < later.2

/-- Every call that has returned in state `n` took effect before. -/
def Accounted (capacity : Nat) (schedule : Schedule) (n : Nat) : Prop :=
  ∃ spans, Spanned capacity schedule n spans

/-- No call has returned yet. -/
lemma accounted_zero : Accounted capacity schedule 0 :=
  ⟨[], .nil, fun _ mem => (nomatch mem), .nil⟩

/-- If no call returns, the calls that have returned are the same ones. -/
lemma Accounted.stay (accounted : Accounted capacity schedule n)
    (same : (trace capacity schedule (n + 1)).returned = (trace capacity schedule n).returned) :
    Accounted capacity schedule (n + 1) := by
  obtain ⟨spans, effects, before, decreasing⟩ := accounted
  exact ⟨spans, same ▸ effects, fun span mem => Nat.lt_succ_of_lt (before span mem), decreasing⟩

/-- A call that returns is one more that took effect, after all those before it. -/
lemma Accounted.return {c : Call} (accounted : Accounted capacity schedule n)
    (effect : TakesEffect capacity schedule c first n) :
    Accounted capacity schedule (n + 1) := by
  obtain ⟨spans, effects, before, decreasing⟩ := accounted
  refine ⟨(first, n) :: spans, ?_, ?_, List.pairwise_cons.mpr ⟨before, decreasing⟩⟩
  · rw [effect.1.returns]
    exact .cons effect effects
  · intro span mem
    obtain rfl | mem := List.mem_cons.mp mem
    · exact Nat.lt_succ_self n
    · exact Nat.lt_succ_of_lt (before span mem)

/-- A call that is accounted for took effect. -/
lemma Accounted.effect {c : Call} (accounted : Accounted capacity schedule n)
    (mem : c ∈ (trace capacity schedule n).returned) :
    ∃ first last, last < n ∧ TakesEffect capacity schedule c first last := by
  obtain ⟨spans, effects, before, -⟩ := accounted
  obtain ⟨i, rfl⟩ := List.mem_iff_get.mp mem
  have lt : i < spans.length := effects.length_eq ▸ i.isLt
  exact ⟨_, _, before _ (List.get_mem spans ⟨i, lt⟩), effects.get i.isLt lt⟩

/-- A step keeps the thread that takes it traced, and the returned calls accounted for. -/
lemma traced_own (small : Arena.base + capacity < 2 ^ 64)
    (sound : Sound capacity (trace capacity schedule n)) (event : schedule n = (u, action))
    (traced : Traced capacity schedule u n) (accounted : Accounted capacity schedule n)
    {next : State} (later : trace capacity schedule (n + 1) = next)
    (transition : Transition (trace capacity schedule n) u action next) :
    Traced capacity schedule u (n + 1) ∧ Accounted capacity schedule (n + 1) := by
  have size_eq := sound.capacity_eq
  have within := sound.within
  have keeps (arena : next.arena = (trace capacity schedule n).arena)
      (claimed : next.claimed = (trace capacity schedule n).claimed)
      (memory : next.memory = (trace capacity schedule n).memory) :
      (trace capacity schedule n).Keeps (trace capacity schedule (n + 1)) := by
    rw [later]
    exact ⟨arena, claimed, memory⟩
  have own (notStore : ∀ addr offset byte, action ≠ .store addr offset byte) :
      Allocates u (schedule n) := by
    rw [event]
    exact ⟨rfl, notStore⟩
  have goes {point : Point} (e : next.points u = point) :
      (trace capacity schedule (n + 1)).points u = point := by
    rw [later, e]
  cases transition with
  | rest =>
    have keeps := keeps rfl rfl rfl
    exact ⟨traced.stay (goes rfl) fun _ => keeps, accounted.stay (by rw [later])⟩
  | store =>
    refine ⟨traced.stay (goes rfl) fun own => ?_, accounted.stay (by rw [later])⟩
    rw [event] at own
    exact absurd rfl (own.2 _ _ _)
  | @tooLarge size idle large =>
    have silent : Silent capacity schedule u n n := fun k ge lt => by omega
    have effect : TakesEffect capacity schedule ⟨u, size, none, 0⟩ n n := by
      refine ⟨⟨⟨event, idle, by omega⟩, Nat.le_refl _, own nofun, by rw [later]; rfl⟩, .inr ?_⟩
      exact ⟨rfl, by dsimp only; omega, silent.succ fun _ => keeps rfl rfl rfl⟩
    exact ⟨.of_idle (goes (update_same _ _ _)), accounted.return effect⟩
  | @start size idle =>
    have silent : Silent capacity schedule u n n := fun k ge lt => by omega
    have underway : Underway capacity schedule u size n n := ⟨event, idle, by omega⟩
    have point : (trace capacity schedule (n + 1)).points u = .load size :=
      goes (update_same _ _ _)
    refine ⟨.of_tries (point ▸ .load) (Nat.lt_succ_self n) (underway.succ ?_)
      (silent.succ fun _ => keeps rfl rfl rfl), accounted.stay (by rw [later]; rfl)⟩
    rw [point]
    nofun
  | @aim size spurious lost tries fits =>
    obtain ⟨first, lt, underway, silent⟩ := traced.tries size tries
    have point : (trace capacity schedule (n + 1)).points u = .exchange size _ _ lost :=
      goes (update_same _ _ _)
    refine ⟨.of_tries (point ▸ .exchange _ _ lost) (Nat.lt_succ_of_lt lt) (underway.succ ?_)
      (silent.succ fun _ => keeps rfl rfl rfl), accounted.stay (by rw [later]; rfl)⟩
    rw [point]
    nofun
  | @exhausted size spurious lost tries full =>
    obtain ⟨first, lt, underway, silent⟩ := traced.tries size tries
    have effect : TakesEffect capacity schedule ⟨u, size, none, lost⟩ first n := by
      refine ⟨⟨underway, Nat.le_of_lt lt, own nofun, by rw [later]; rfl⟩, .inr ?_⟩
      exact ⟨rfl, by dsimp only; omega, silent.succ fun _ => keeps rfl rfl rfl⟩
    exact ⟨.of_idle (goes (update_same _ _ _)), accounted.return effect⟩
  | @claim size stop lost exchange =>
    obtain ⟨first, lt, underway, silent⟩ :=
      traced.tries size (exchange ▸ .exchange _ stop lost)
    obtain ⟨e, le⟩ := sound.aims u size _ stop lost exchange
    have point : (trace capacity schedule (n + 1)).points u = .header size _ lost :=
      goes (update_same _ _ _)
    have claimed : Claimed capacity schedule u size first n (n + 1) :=
      { after := lt
        before := Nat.lt_succ_self n
        own := event
        exchanges := ⟨stop, lost, exchange⟩
        fits := by omega
        next := by rw [later]; exact e
        others := fun k ge lt ne => silent k ge (by omega) }
    refine ⟨.of_header point (underway.succ ?_) claimed, accounted.stay (by rw [later]; rfl)⟩
    rw [point]
    nofun
  | @deliver size offset lost spurious header =>
    obtain ⟨first, point, underway, claimed, rfl⟩ := traced.header size offset lost header
    have le : first ≤ n := Nat.le_of_lt (Nat.lt_trans claimed.after claimed.before)
    have effect : TakesEffect capacity schedule ⟨u, size, some (payload _), lost⟩ first n :=
      ⟨⟨underway, le, own nofun, by rw [later]; rfl⟩,
        .inl ⟨point, claimed, rfl, by rw [later]; rfl⟩⟩
    exact ⟨.of_idle (goes (update_same _ _ _)), accounted.return effect⟩

/-- A step keeps the threads traced and the returned calls accounted for. -/
lemma traced_succ (small : Arena.base + capacity < 2 ^ 64)
    (traced : ∀ t, Traced capacity schedule t n) (accounted : Accounted capacity schedule n) :
    (∀ t, Traced capacity schedule t (n + 1)) ∧ Accounted capacity schedule (n + 1) := by
  have sound : Sound capacity (trace capacity schedule n) := (reachable_trace n).sound small
  have size_eq := sound.capacity_eq
  have within := sound.within
  obtain ⟨u, action, event⟩ : ∃ u action, schedule n = (u, action) := ⟨_, _, rfl⟩
  have transition := (trace capacity schedule n).transition u action (by omega) (by omega)
  have later : trace capacity schedule (n + 1) = (trace capacity schedule n).step u action := by
    rw [trace, event]
  obtain ⟨own, accounted⟩ := traced_own small sound event (traced u) accounted later transition
  refine ⟨fun t => ?_, accounted⟩
  by_cases same : t = u
  case pos => exact same ▸ own
  case neg =>
    have others := transition.others same
    refine (traced t).stay (by rw [later, others]) fun own => ?_
    rw [event] at own
    exact absurd own.1.symm same

/-- In every state of a run the threads are traced and the returned calls accounted for. -/
theorem traced_trace (small : Arena.base + capacity < 2 ^ 64) (n : Nat) :
    (∀ t, Traced capacity schedule t n) ∧ Accounted capacity schedule n := by
  induction n with
  | zero => exact ⟨fun t => .of_idle rfl, accounted_zero⟩
  | succ n ih => exact traced_succ small ih.1 ih.2

/-- A call that has returned stays among those that have. -/
lemma mem_returned {c : Call} (small : Arena.base + capacity < 2 ^ 64) {later : Nat}
    (mem : c ∈ (trace capacity schedule n).returned) (le : n ≤ later) :
    c ∈ (trace capacity schedule later).returned := by
  induction le with
  | refl => exact mem
  | @step m _ ih =>
    have sound : Sound capacity (trace capacity schedule m) := (reachable_trace m).sound small
    have size_eq := sound.capacity_eq
    have within := sound.within
    obtain ⟨u, action, event⟩ : ∃ u action, schedule m = (u, action) := ⟨_, _, rfl⟩
    have transition := (trace capacity schedule m).transition u action (by omega) (by omega)
    rw [trace, event]
    generalize (trace capacity schedule m).step u action = next at transition
    cases transition with
    | tooLarge | exhausted | deliver => exact List.mem_cons_of_mem _ ih
    | _ => exact ih

/-! ## The arena as one object -/

/-- What the chunks of an arena are in every state. -/
structure Exact (capacity : Nat) (s : State) : Prop where
  within : s.arena.used ≤ capacity
  aligned : 16 ∣ s.arena.used
  /-- A chunk takes its header and the requested size, rounded up. -/
  extents : ∀ chunk ∈ s.claimed,
    chunk.stop = chunk.offset + (16 + (chunk.size.toNat + 15) / 16 * 16)
  disjoint : s.claimed.Pairwise fun later earlier => earlier.stop ≤ later.offset
  covers : ∀ a, a < s.arena.used ↔ ∃ chunk ∈ s.claimed, chunk.offset ≤ a ∧ a < chunk.stop
  distinct : (s.returned.filterMap Call.result).Nodup
  blank : ∀ a, Arena.base + s.arena.used ≤ a → s.memory.byteAt a = 0

/-- The arena under threads is linearizable and exact. Let an arena lie in the address space, let
any number of threads allocate chunks of any sizes, in any order of their steps, and let exchanges
fail for no reason as often as they like; callers store only inside the bytes that they asked for.
Then in every state

* the chunks claimed so far have the exact sizes, do not overlap and cover the used bytes, of which
  there are no more than the capacity; no chunk was returned twice, and what is not used is zero;
* every call that has returned took effect at one of its own steps, and no two of them, however
  alike, returned in the same step. If a call has returned a pointer, its chunk fitted in the room
  left at its exchange, and the pointer is the chunk's payload, whose header holds the requested
  size from then on. If it has returned nothing, the chunk did not fit when it returned and will
  never fit, and the call has changed nothing.

The runs of all schedules pass through all reachable states. -/
theorem linearizable {capacity : Nat} (small : Arena.base + capacity < 2 ^ 64) :
    (∀ schedule n,
      let s := trace capacity schedule n
      Exact capacity s ∧
      (∃ spans, Spanned capacity schedule n spans) ∧
      ∀ c ∈ s.returned,
        (∃ first last, last < n ∧ TakesEffect capacity schedule c first last) ∧
        (∀ addr, c.result = some addr →
          (∃ chunk ∈ s.claimed, chunk.size = c.size ∧
            addr.value.toNat = Arena.base + chunk.offset + 16) ∧
          ∀ later ≥ n, (trace capacity schedule later).memory.readWord (addr.value.toNat - 16) =
            c.size) ∧
        (c.result = none → ∀ later ≥ n,
          capacity - (trace capacity schedule later).arena.used <
            16 + (c.size.toNat + 15) / 16 * 16)) ∧
    ∀ s, Reachable capacity s → ∃ schedule n, trace capacity schedule n = s := by
  refine ⟨fun schedule n => ?_, fun s reach => reach.exists_trace⟩
  have sound (n : Nat) : Sound capacity (trace capacity schedule n) :=
    (reachable_trace n).sound small
  have accounted : Accounted capacity schedule n := (traced_trace small n).2
  refine ⟨?_, accounted, fun c mem =>
    ⟨accounted.effect mem, fun addr e => ?_, fun e later le => ?_⟩⟩
  · constructor
    case within => exact (sound n).within
    case aligned => exact (sound n).tiled.dvd
    case extents => exact fun chunk mem => ((sound n).tiled.bounds mem).1
    case disjoint => exact (sound n).tiled.pairwise
    case covers => exact fun a => (sound n).tiled.covers
    case distinct => exact (sound n).distinct
    case blank => exact (sound n).blank
  · -- the payload lies in the address space, so its address is the exact one
    have top {m offset : Nat}
        (mem : ⟨offset, offset + extent c.size, c.size⟩ ∈ (trace capacity schedule m).claimed) :
        (payload offset).value.toNat = Arena.base + offset + 16 := by
      obtain ⟨_, room, le, within⟩ := (sound m).bounds mem
      dsimp only at room le
      exact Arena.toNat_payload (by omega)
    constructor
    · obtain ⟨offset, rfl, mem, _⟩ := (sound n).served c mem addr e
      exact ⟨_, mem, rfl, top mem⟩
    · intro later le
      obtain ⟨offset, rfl, mem, word⟩ := (sound later).served c (mem_returned small mem le) addr e
      rw [top mem, Nat.add_sub_cancel, word]
  · have full := (sound later).refused c (mem_returned small mem le) e
    have within := (sound later).within
    rw [extent, Arena.headerSize_eq] at full
    omega

/-- Two threads load the same offset: the one that exchanges first claims its chunk, and the chunk
of the other does not fit behind it, now or at either of its next two calls. -/
def race : Schedule := fun n =>
  [(0, .start 3), (1, .start 20), (0, .advance false), (1, .advance false), (0, .advance false),
    (1, .advance false), (0, .advance false), (1, .start 20), (1, .advance false), (1, .start 20),
    (1, .advance false)].getD n (0, .advance false)

/-- The race of two threads in an arena of 64 bytes. Two of the calls that return nothing are alike,
and still took effect in spans of their own. -/
theorem linearizable_race :
    let s := trace 64 race 11
    s.returned = [⟨1, 20, none, 0⟩, ⟨1, 20, none, 0⟩, ⟨0, 3, some ⟨0x110000000010⟩, 0⟩,
        ⟨1, 20, none, 1⟩] ∧ Exact 64 s ∧
      (∃ spans, Spanned 64 race 11 spans ∧ spans.length = 4) ∧
      (∃ first last, last < 11 ∧ TakesEffect 64 race ⟨0, 3, some ⟨0x110000000010⟩, 0⟩ first last) ∧
      (∀ later ≥ 11, (trace 64 race later).memory.readWord 0x110000000000 = 3) ∧
      ∀ later ≥ 11, 64 - (trace 64 race later).arena.used < 48 := by
  intro s
  have returned : s.returned = [⟨1, 20, none, 0⟩, ⟨1, 20, none, 0⟩,
      ⟨0, 3, some ⟨0x110000000010⟩, 0⟩, ⟨1, 20, none, 1⟩] := by decide
  obtain ⟨exact', ⟨spans, spanned⟩, calls⟩ := (@linearizable 64 (by decide)).1 race 11
  have count : spans.length = 4 := by rw [← spanned.effects.length_eq]; exact congrArg _ returned
  have served := calls ⟨0, 3, some ⟨0x110000000010⟩, 0⟩ (by rw [returned]; decide)
  have refused := calls ⟨1, 20, none, 1⟩ (by rw [returned]; decide)
  exact ⟨returned, exact', ⟨spans, spanned, count⟩, served.1, (served.2.1 _ rfl).2,
    refused.2.2 rfl⟩

end PointerTagging.Concurrent.ArenaThreads
