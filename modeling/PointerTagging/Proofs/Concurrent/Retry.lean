import Mathlib.Data.List.Chain
import Mathlib.Data.List.Intervals
import PointerTagging.Proofs.Concurrent.Linearization

/-!
# The retries of an allocation end

An exchange that finds the offset changed has lost it to a chunk of another thread, and is handed an
offset behind that chunk. Offsets are whole units of the alignment, and a chunk takes at least one
unit, so a call loses no more exchanges than the arena has units, whatever the other threads do.
Unless exchanges fail for no reason, it returns within a fixed number of its own steps
(`retries_end`).
-/

namespace PointerTagging.Concurrent.ArenaThreads

open Arena (extent)

/-- An exchange of the offset: the offset that it expects, the one that it finds, and whether it
fails for no reason if they are the same. -/
structure Exchange where
  expected : Nat
  found : Nat
  spurious : Bool
  deriving DecidableEq, Repr

namespace Exchange

/-- The exchange fails because the offset has changed. -/
def lost (e : Exchange) : Bool := e.found != e.expected

/-- The exchange fails although the offset has not changed. -/
def missed (e : Exchange) : Bool := e.found == e.expected && e.spurious

end Exchange

/-- The thread goes on with its allocation. -/
def Action.goesOn : Action → Bool
  | .advance _ => true
  | _ => false

/-- The exchange that an action of a thread makes, if it makes one. -/
def State.exchange? (s : State) (t : ThreadId) : Action → Option Exchange
  | .advance spurious =>
    match s.points t with
    | .exchange _ offset _ _ => some ⟨offset, s.arena.used, spurious⟩
    | _ => none
  | _ => none

/-- The exchange that a thread makes in a step of a run, if it makes one. -/
def exchangeAt? (capacity : Nat) (schedule : Schedule) (t : ThreadId) (k : Nat) :
    Option Exchange :=
  if (schedule k).1 = t then (trace capacity schedule k).exchange? t (schedule k).2 else none

/-- The exchanges that a thread makes from step `first` up to state `n`, in order. -/
def exchanges (capacity : Nat) (schedule : Schedule) (t : ThreadId) (first n : Nat) :
    List Exchange :=
  (List.Ico first n).filterMap (exchangeAt? capacity schedule t)

/-- How often a thread goes on with its allocation from step `first` up to state `n`. -/
def advances (schedule : Schedule) (t : ThreadId) (first n : Nat) : Nat :=
  (List.Ico first n).countP fun k => (schedule k).1 == t && (schedule k).2.goesOn

variable {capacity : Nat} {schedule : Schedule} {s next : State} {t u : ThreadId} {size : UInt64}
  {action : Action} {point : Point} {offset first n advanced : Nat} {es : List Exchange}
  {e : Exchange}

/-! ## Offsets -/

/-- What holds in every reachable state, wherever the arena lies in the address space: an exchange
expects an offset that the arena has or had before, and its chunk fits there. -/
structure Aligned (capacity : Nat) (s : State) : Prop where
  capacity_eq : s.arena.capacity = capacity
  within : s.arena.used ≤ capacity
  dvd : 16 ∣ s.arena.used
  aims : ∀ t size offset stop lost, s.points t = .exchange size offset stop lost →
    16 ∣ offset ∧ offset ≤ s.arena.used ∧ stop = offset + extent size ∧ stop ≤ capacity

namespace Aligned

lemma initial (capacity : Nat) : Aligned capacity (.initial capacity) where
  capacity_eq := rfl
  within := Nat.zero_le _
  dvd := Nat.dvd_zero 16
  aims := fun _ _ _ _ _ e => nomatch e

lemma goto (aligned : Aligned capacity s) (t : ThreadId) (point : Point)
    (aims : ∀ size offset stop lost, point = .exchange size offset stop lost →
      16 ∣ offset ∧ offset ≤ s.arena.used ∧ stop = offset + extent size ∧ stop ≤ capacity) :
    Aligned capacity (s.goto t point) where
  capacity_eq := aligned.capacity_eq
  within := aligned.within
  dvd := aligned.dvd
  aims := fun u size offset stop lost e => by
    rcases State.points_goto.1 e with ⟨_, here⟩ | ⟨_, there⟩
    · exact aims size offset stop lost here
    · exact aligned.aims u size offset stop lost there

lemma claim {stop lost : Nat} (aligned : Aligned capacity s)
    (point : s.points t = .exchange size s.arena.used stop lost) :
    Aligned capacity
      { s.goto t (.header size s.arena.used lost) with
        arena := { s.arena with used := stop }
        claimed := ⟨s.arena.used, stop, size⟩ :: s.claimed } := by
  obtain ⟨dvd, _, rfl, fits⟩ := aligned.aims t size _ stop lost point
  constructor
  case capacity_eq => exact aligned.capacity_eq
  case within => exact fits
  case dvd => exact Nat.dvd_add dvd (Arena.dvd_extent size)
  case aims =>
    -- the offset has grown, so what other threads expect is still one that the arena had
    intro u size' offset stop lost' e
    rcases State.points_goto.1 e with ⟨_, here⟩ | ⟨_, there⟩
    · cases here
    · obtain ⟨dvd', le, e', fits'⟩ := aligned.aims u size' offset stop lost' there
      exact ⟨dvd', Nat.le_add_right_of_le le, e', fits'⟩

theorem step (aligned : Aligned capacity s) (small : capacity < 2 ^ 64) (t : ThreadId)
    (action : Action) : Aligned capacity (s.step t action) := by
  have size_eq := aligned.capacity_eq
  have within := aligned.within
  have transition := s.transition t action (by omega) (by omega)
  generalize s.step t action = next at transition
  cases transition with
  | rest => exact aligned
  | tooLarge | exhausted | deliver => exact { aligned.goto t .idle nofun with }
  | start => exact aligned.goto t _ nofun
  | aim lost _ fits =>
    refine aligned.goto t _ ?_
    rintro _ _ _ _ ⟨⟩
    exact ⟨aligned.dvd, Nat.le_refl _, rfl, size_eq ▸ fits⟩
  | claim point => exact aligned.claim point
  | store => exact { aligned with }

lemma gains {stop lost : Nat} (aligned : Aligned capacity s)
    (point : s.points t = .exchange size offset stop lost) (changed : s.arena.used ≠ offset) :
    offset + 16 ≤ s.arena.used := by
  obtain ⟨dvd, le, _⟩ := aligned.aims t size offset stop lost point
  have dvd' := aligned.dvd
  omega

end Aligned

theorem aligned_trace (small : capacity < 2 ^ 64) (n : Nat) :
    Aligned capacity (trace capacity schedule n) := by
  induction n with
  | zero => exact .initial capacity
  | succ n ih => exact ih.step small _ _

/-! ## The exchanges of a call -/

/-- The exchanges failed one after the other, and the last of them has handed back the offset. -/
inductive Failed (capacity : Nat) (size : UInt64) : List Exchange → Nat → Prop where
  | nil {offset : Nat} : offset ≤ capacity → Failed capacity size [] offset
  | lost {es : List Exchange} {e : Exchange} :
    Failed capacity size es e.expected →
    e.expected + extent size ≤ capacity →
    e.expected + 16 ≤ e.found →
    e.found ≤ capacity →
    Failed capacity size (es ++ [e]) e.found
  | missed {es : List Exchange} {e : Exchange} :
    Failed capacity size es e.expected →
    e.expected + extent size ≤ capacity →
    e.missed = true →
    Failed capacity size (es ++ [e]) e.found

/-- The exchanges failed, unless the last of them has claimed the chunk. -/
inductive Tried (capacity : Nat) (size : UInt64) : List Exchange → Prop where
  | failed {es : List Exchange} {offset : Nat} : Failed capacity size es offset →
    Tried capacity size es
  | claimed {es : List Exchange} {offset : Nat} : Failed capacity size es offset →
    offset + extent size ≤ capacity →
    Tried capacity size (es ++ [⟨offset, offset, false⟩])

/-- The exchanges of a call for a chunk of the given size follow each other. -/
structure Linked (capacity : Nat) (size : UInt64) (es : List Exchange) : Prop where
  /-- An exchange is made only where the chunk fits. -/
  fits : ∀ e ∈ es, e.expected + extent size ≤ capacity
  /-- One that finds the offset changed is handed one that is higher by a unit at least. -/
  gains : ∀ e ∈ es, e.found ≠ e.expected → e.expected + 16 ≤ e.found
  /-- The next one expects the offset that was handed back. -/
  chain : es.IsChain fun e later => later.expected = e.found

/-- The exchanges of a call follow each other, and there are not too many. -/
structure Bounded (capacity : Nat) (size : UInt64) (es : List Exchange) : Prop
    extends Linked capacity size es where
  /-- No more exchanges are lost than the arena has units. -/
  losses : es.countP Exchange.lost ≤ capacity / 16
  /-- All exchanges together, the successful one included, are no more than that either, but for
  those that fail for no reason. -/
  attempts : es.length ≤ capacity / 16 + es.countP Exchange.missed

lemma Exchange.found_of_missed (missed : e.missed = true) : e.found = e.expected := by
  simp only [Exchange.missed, Bool.and_eq_true, beq_iff_eq] at missed
  exact missed.1

lemma countP_lost_of_changed (changed : e.found ≠ e.expected) :
    (es ++ [e]).countP Exchange.lost = es.countP Exchange.lost + 1 := by
  simp [Exchange.lost, changed]

lemma countP_lost_of_same (same : e.found = e.expected) :
    (es ++ [e]).countP Exchange.lost = es.countP Exchange.lost := by
  simp [Exchange.lost, same]

lemma countP_missed_of_changed (changed : e.found ≠ e.expected) :
    (es ++ [e]).countP Exchange.missed = es.countP Exchange.missed := by
  simp [Exchange.missed, changed]

lemma Linked.snoc (linked : Linked capacity size es)
    (last : ∀ before ∈ es.getLast?, before.found = e.expected)
    (fits : e.expected + extent size ≤ capacity)
    (gains : e.found ≠ e.expected → e.expected + 16 ≤ e.found) :
    Linked capacity size (es ++ [e]) where
  fits := List.forall_mem_append.2 ⟨linked.fits, List.forall_mem_singleton.2 fits⟩
  gains := List.forall_mem_append.2 ⟨linked.gains, List.forall_mem_singleton.2 gains⟩
  chain := by
    refine linked.chain.append (.singleton e) fun before mem after mem' => ?_
    cases mem'
    exact (last before mem).symm

namespace Failed

lemma last (failed : Failed capacity size es offset) : ∀ e ∈ es.getLast?, e.found = offset := by
  intro e mem
  cases failed with
  | nil => cases mem
  | lost | missed =>
    rw [List.getLast?_concat] at mem
    cases mem
    rfl

lemma linked (failed : Failed capacity size es offset) : Linked capacity size es := by
  induction failed with
  | nil => exact ⟨nofun, nofun, .nil⟩
  | lost before fits gain _ ih => exact ih.snoc before.last fits fun _ => gain
  | missed before fits missed ih =>
    exact ih.snoc before.last fits fun ne => absurd (Exchange.found_of_missed missed) ne

lemma le (failed : Failed capacity size es offset) : offset ≤ capacity := by
  cases failed with
  | nil le => exact le
  | lost _ _ _ le => exact le
  | missed _ fits missed =>
    rw [Exchange.found_of_missed missed]
    omega

/-- Every exchange that was lost has raised the offset. -/
lemma losses (failed : Failed capacity size es offset) :
    16 * es.countP Exchange.lost ≤ offset := by
  induction failed with
  | nil => exact Nat.zero_le _
  | lost _ _ gain _ ih =>
    rw [countP_lost_of_changed (by omega)]
    omega
  | missed _ _ missed ih =>
    rw [countP_lost_of_same (Exchange.found_of_missed missed), Exchange.found_of_missed missed]
    exact ih

lemma length (failed : Failed capacity size es offset) :
    es.length = es.countP Exchange.lost + es.countP Exchange.missed := by
  induction failed with
  | nil => rfl
  | @lost es e _ _ gain _ ih =>
    have changed : e.found ≠ e.expected := by omega
    rw [countP_lost_of_changed changed, countP_missed_of_changed changed, List.length_append,
      List.length_singleton]
    omega
  | missed _ _ missed ih =>
    rw [countP_lost_of_same (Exchange.found_of_missed missed), List.countP_append,
      List.countP_singleton, if_pos missed, List.length_append, List.length_singleton]
    omega

end Failed

/-- Exchanges that have failed keep to the bounds, and so do those that end in a claim. -/
theorem Tried.bounded (tried : Tried capacity size es) : Bounded capacity size es := by
  cases tried with
  | @failed _ offset failed =>
    have losses := failed.losses
    have length := failed.length
    have le := failed.le
    exact { failed.linked with losses := by omega, attempts := by omega }
  | @claimed es offset failed fits =>
    have losses := failed.losses
    have length := failed.length
    -- the chunk itself takes a unit, which no lost exchange has used
    have room := Arena.le_extent size
    have header := Arena.headerSize_eq
    refine { failed.linked.snoc failed.last fits (absurd rfl) with losses := ?_, attempts := ?_ }
    · rw [countP_lost_of_same rfl]
      omega
    · rw [List.countP_append, List.length_append, List.length_singleton]
      omega

/-! ## The course of a call -/

/-- Where a call stands that has made the exchanges, after its thread has gone on that often. -/
inductive Course (capacity : Nat) (size : UInt64) : List Exchange → Nat → Point → Prop where
  | load : Course capacity size [] 0 (.load size)
  | exchange {es : List Exchange} {offset : Nat} (stop : Nat) :
    Failed capacity size es offset →
    offset + extent size ≤ capacity →
    Course capacity size es (es.length + 1)
      (.exchange size offset stop (es.countP Exchange.lost))
  | header {es : List Exchange} {offset : Nat} :
    Failed capacity size es offset →
    offset + extent size ≤ capacity →
    Course capacity size (es ++ [⟨offset, offset, false⟩]) (es.length + 2)
      (.header size offset (es.countP Exchange.lost))

namespace Course

lemma tried (course : Course capacity size es advanced point) : Tried capacity size es := by
  cases course with
  | load => exact .failed (.nil (Nat.zero_le _))
  | exchange _ failed => exact .failed failed
  | header failed fits => exact .claimed failed fits

lemma ne_idle (course : Course capacity size es advanced point) : point ≠ .idle := by
  cases course <;> nofun

/-- A call that has not returned has gone on once to load the offset, and once for each exchange. -/
lemma advanced_le (course : Course capacity size es advanced point) :
    advanced ≤ capacity / 16 + 1 + es.countP Exchange.missed := by
  have attempts := course.tried.bounded.attempts
  cases course with
  | load => exact Nat.zero_le _
  | exchange => omega
  | header =>
    rw [List.length_append, List.length_singleton] at attempts
    omega

/-- A call whose exchanges have failed tries again where the used bytes end, or returns nothing. -/
lemma attempt {lost : Nat} (aligned : Aligned capacity s) (small : capacity < 2 ^ 64)
    (t : ThreadId) (failed : Failed capacity size es s.arena.used)
    (count : lost = es.countP Exchange.lost) (gone : advanced = es.length + 1) :
    let next := s.attempt t size s.arena.used lost
    Course capacity size es advanced (next.points t) ∨
      next.points t = .idle ∧ Tried capacity size es ∧
        ∃ result, next.returned = ⟨t, size, result, es.countP Exchange.lost⟩ :: s.returned := by
  subst count gone
  obtain ⟨rfl, within, _, _⟩ := aligned
  rcases State.attempt_cases t size (es.countP Exchange.lost) small within with
    ⟨fits, e⟩ | ⟨_, e⟩
  · left
    rw [e, State.points_goto_same]
    exact .exchange _ failed fits
  · right
    rw [e]
    exact ⟨State.points_goto_same, .failed failed, none, rfl⟩

/-- A thread that goes on with its call keeps to the course, or returns. -/
theorem advance (aligned : Aligned capacity s) (small : capacity < 2 ^ 64) (spurious : Bool)
    (course : Course capacity size es advanced (s.points t)) :
    let next := s.step t (.advance spurious)
    let later := es ++ (s.exchange? t (.advance spurious)).toList
    Course capacity size later (advanced + 1) (next.points t) ∨
      next.points t = .idle ∧ Tried capacity size later ∧
        ∃ result, next.returned = ⟨t, size, result, later.countP Exchange.lost⟩ :: s.returned := by
  generalize here : s.points t = point at course
  cases course with
  | load =>
    simp only [State.step, State.exchange?, here, Option.toList_none, List.append_nil]
    exact attempt aligned small t (.nil aligned.within) rfl rfl
  | @exchange es offset stop failed fits =>
    simp only [State.step, State.exchange?, here, Option.toList_some]
    have gone (e : Exchange) : es.length + 1 + 1 = (es ++ [e]).length + 1 := by
      rw [List.length_append, List.length_singleton]
    split
    case isTrue same =>
      subst same
      cases spurious with
      | true =>
        -- it tries for the same offset again, and only such exchanges are without a bound
        exact attempt aligned small t (failed.missed fits (by simp [Exchange.missed]))
          (countP_lost_of_same rfl).symm (gone _)
      | false =>
        left
        rw [if_neg Bool.false_ne_true, State.points_goto_same]
        exact .header failed fits
    case isFalse changed =>
      -- another thread has claimed a chunk meanwhile, which took a unit at least
      have gain := aligned.gains here changed
      exact attempt aligned small t (failed.lost fits gain aligned.within)
        (countP_lost_of_changed changed).symm (gone _)
  | @header es offset failed fits =>
    simp only [State.step, State.exchange?, here, Option.toList_none, List.append_nil]
    rw [countP_lost_of_same rfl]
    exact .inr ⟨State.points_goto_same, .claimed failed fits, _, rfl⟩

end Course

/-! ## Runs -/

lemma counts_of_le (capacity : Nat) (schedule : Schedule) (t : ThreadId) (le : n ≤ first) :
    exchanges capacity schedule t first n = [] ∧ advances schedule t first n = 0 := by
  rw [exchanges, advances, List.Ico.eq_nil_of_le le]
  exact ⟨rfl, rfl⟩

lemma exchanges_succ (le : first ≤ n) :
    exchanges capacity schedule t first (n + 1) =
      exchanges capacity schedule t first n ++ (exchangeAt? capacity schedule t n).toList := by
  rw [exchanges, List.Ico.succ_top le, List.filterMap_append, List.filterMap_cons,
    List.filterMap_nil]
  cases exchangeAt? capacity schedule t n <;> rfl

lemma advances_succ (le : first ≤ n) :
    advances schedule t first (n + 1) = advances schedule t first n +
      if ((schedule n).1 == t && (schedule n).2.goesOn) = true then 1 else 0 := by
  rw [advances, List.Ico.succ_top le, List.countP_append, List.countP_singleton]
  rfl

/-- A step in which the thread does not go on makes no exchange. -/
lemma counts_still (capacity : Nat) (le : first ≤ n)
    (apart : (schedule n).1 = t → (schedule n).2.goesOn = false) :
    exchanges capacity schedule t first (n + 1) = exchanges capacity schedule t first n ∧
      advances schedule t first (n + 1) = advances schedule t first n := by
  have none : exchangeAt? capacity schedule t n = none := by
    rw [exchangeAt?]
    split
    case isTrue own =>
      have still := apart own
      generalize (schedule n).2 = action at still
      cases action with
      | advance => cases still
      | start | store => rfl
    case isFalse => rfl
  have not : ((schedule n).1 == t && (schedule n).2.goesOn) = false := by
    rw [Bool.and_eq_false_imp]
    intro own
    exact apart (beq_iff_eq.1 own)
  rw [exchanges_succ le, none, advances_succ le, not]
  exact ⟨List.append_nil _, rfl⟩

lemma counts_advance (capacity : Nat) (le : first ≤ n) {spurious : Bool}
    (event : schedule n = (t, .advance spurious)) :
    exchanges capacity schedule t first (n + 1) = exchanges capacity schedule t first n ++
        ((trace capacity schedule n).exchange? t (.advance spurious)).toList ∧
      advances schedule t first (n + 1) = advances schedule t first n + 1 := by
  have made : exchangeAt? capacity schedule t n =
      (trace capacity schedule n).exchange? t (.advance spurious) := by
    rw [exchangeAt?, event, if_pos rfl]
  rw [exchanges_succ le, made, advances_succ le, event]
  exact ⟨rfl, by simp [Action.goesOn]⟩

/-- A call that has not returned in state `n` keeps to its course. -/
structure Pending (capacity : Nat) (schedule : Schedule) (t : ThreadId) (size : UInt64)
    (first n : Nat) : Prop where
  lt : first < n
  underway : Underway capacity schedule t size first n
  course : Course capacity size (exchanges capacity schedule t first n)
    (advances schedule t first n) ((trace capacity schedule n).points t)

/-- The call has returned in step `last`, and it has counted its lost exchanges. -/
structure Ended (capacity : Nat) (schedule : Schedule) (t : ThreadId) (size : UInt64)
    (first last : Nat) : Prop where
  idle : (trace capacity schedule (last + 1)).points t = .idle
  tried : Tried capacity size (exchanges capacity schedule t first (last + 1))
  lasts : ∃ result, Lasts capacity schedule ⟨t, size, result,
    (exchanges capacity schedule t first (last + 1)).countP Exchange.lost⟩ first last

/-- A step that is not about the allocation of a thread leaves the thread where it is. -/
lemma Transition.stays (transition : Transition s u action next) (busy : s.points t ≠ .idle)
    (apart : u = t → action.goesOn = false) : next.points t = s.points t := by
  by_cases same : t = u
  case pos =>
    subst same
    have still := apart rfl
    cases transition with
    | rest | store => rfl
    | tooLarge idle | start idle => exact absurd idle busy
    | _ => cases still
  case neg => exact transition.others same

lemma Allocates.start (size : UInt64) : Allocates t (t, .start size) := ⟨rfl, nofun⟩

lemma Allocates.advance (spurious : Bool) : Allocates t (t, .advance spurious) := ⟨rfl, nofun⟩

lemma exists_eq_advance {event : ThreadId × Action} (own : event.1 = t)
    (on : event.2.goesOn = true) : ∃ spurious, event = (t, .advance spurious) := by
  obtain ⟨u, action⟩ := event
  cases own
  cases action with
  | advance spurious => exact ⟨spurious, rfl⟩
  | start | store => cases on

/-- A call that starts comes to load the offset, or returns at once for want of any such chunk. -/
lemma pending_or_ended (small : capacity < 2 ^ 64)
    (underway : Underway capacity schedule t size first first) :
    Pending capacity schedule t size first (first + 1) ∨
      Ended capacity schedule t size first first := by
  have started := underway.started
  have still : (schedule first).1 = t → (schedule first).2.goesOn = false := by
    rw [started]
    exact fun _ => rfl
  obtain ⟨made, gone⟩ := counts_still capacity (Nat.le_refl first) still
  obtain ⟨unmade, ungone⟩ := counts_of_le capacity schedule t (Nat.le_refl first)
  rw [unmade] at made
  rw [ungone] at gone
  obtain ⟨size_eq, within, _, _⟩ : Aligned capacity (trace capacity schedule first) :=
    aligned_trace small first
  have transition :=
    (trace capacity schedule first).transition t (.start size) (by omega) (by omega)
  have later : trace capacity schedule (first + 1) =
      (trace capacity schedule first).step t (.start size) := by
    rw [trace, started]
  rw [← later] at transition
  generalize after : trace capacity schedule (first + 1) = next at transition
  cases transition with
  | rest busy => exact absurd underway.idle (busy ⟨size, rfl⟩)
  | tooLarge =>
    have own : Allocates t (schedule first) := started ▸ .start size
    right
    constructor
    case idle => rw [after]; exact State.points_goto_same
    case tried => rw [made]; exact .failed (.nil (Nat.zero_le _))
    case lasts => rw [made]; exact ⟨none, underway, Nat.le_refl _, own, by rw [after]; rfl⟩
  | start =>
    have course : Course capacity size (exchanges capacity schedule t first (first + 1))
        (advances schedule t first (first + 1))
        ((trace capacity schedule (first + 1)).points t) := by
      rw [made, gone, after, State.points_goto_same]
      exact .load
    exact .inl ⟨Nat.lt_succ_self first, underway.succ course.ne_idle, course⟩

/-- A step keeps a call on its course, or the call returns in it. -/
theorem Pending.step (small : capacity < 2 ^ 64)
    (pending : Pending capacity schedule t size first n) :
    Pending capacity schedule t size first (n + 1) ∨ Ended capacity schedule t size first n := by
  obtain ⟨lt, underway, course⟩ := pending
  have le : first ≤ n := Nat.le_of_lt lt
  have aligned : Aligned capacity (trace capacity schedule n) := aligned_trace small n
  by_cases own : (schedule n).1 = t ∧ (schedule n).2.goesOn = true
  case pos =>
    obtain ⟨spurious, event⟩ := exists_eq_advance own.1 own.2
    obtain ⟨made, gone⟩ := counts_advance capacity le event
    have later : trace capacity schedule (n + 1) =
        (trace capacity schedule n).step t (.advance spurious) := by
      rw [trace, event]
    rcases course.advance aligned small spurious with course | ⟨idle, tried, result, returned⟩
    · rw [← made, ← gone, ← later] at course
      exact .inl ⟨Nat.lt_succ_of_lt lt, underway.succ course.ne_idle, course⟩
    · rw [← later] at idle returned
      rw [← made] at tried returned
      have own : Allocates t (schedule n) := event ▸ .advance spurious
      exact .inr ⟨idle, tried, result, underway, le, own, returned⟩
  case neg =>
    have still : (schedule n).1 = t → (schedule n).2.goesOn = false := fun same => by
      rw [Bool.eq_false_iff]
      exact fun on => own ⟨same, on⟩
    obtain ⟨made, gone⟩ := counts_still capacity le still
    obtain ⟨size_eq, within, _, _⟩ := aligned
    have transition := (trace capacity schedule n).transition (schedule n).1 (schedule n).2
      (by omega) (by omega)
    have stays := transition.stays course.ne_idle still
    rw [← trace] at stays
    rw [← made, ← gone, ← stays] at course
    exact .inl ⟨Nat.lt_succ_of_lt lt, underway.succ course.ne_idle, course⟩

/-- A call either goes on or has returned. -/
theorem pending_or_exists_ended (small : capacity < 2 ^ 64)
    (underway : Underway capacity schedule t size first first) (lt : first < n) :
    Pending capacity schedule t size first n ∨
      ∃ last < n, Ended capacity schedule t size first last := by
  induction lt with
  | refl =>
    rcases pending_or_ended small underway with pending | ended
    · exact .inl pending
    · exact .inr ⟨first, Nat.lt_succ_self first, ended⟩
  | @step m _ ih =>
    rcases ih with pending | ⟨last, lt, ended⟩
    · rcases pending.step small with pending | ended
      · exact .inl pending
      · exact .inr ⟨m, Nat.lt_succ_self m, ended⟩
    · exact .inr ⟨last, Nat.lt_succ_of_lt lt, ended⟩

/-- The retries of an allocation end. Let any number of threads allocate chunks of any sizes from an
arena whose capacity is a word, in any order of their steps, and let exchanges fail for no reason
as often as they like. Then for every call, which starts at step `first`, and whatever the other
threads do

* its exchanges, up to the step in which it returns, are `Bounded`: at most `capacity / 16` of them
  fail because the offset has changed, as each of these is handed an offset that is higher by 16 at
  least, and none is made where the chunk does not fit; so if none fails for no reason, the call
  makes no more than `capacity / 16` exchanges, the successful one included;
* it returns: its thread can go on at most `capacity / 16 + 2` times before, once to load the
  offset, once for each exchange and once to write the header, not counting exchanges that fail for
  no reason. Its own count of lost exchanges is the true one. -/
theorem retries_end (small : capacity < 2 ^ 64) (started : schedule first = (t, .start size))
    (idle : (trace capacity schedule first).points t = .idle) :
    (∀ n ≥ first, Underway capacity schedule t size first n →
      Bounded capacity size (exchanges capacity schedule t first (n + 1))) ∧
    ∀ n, capacity / 16 + 2 + (exchanges capacity schedule t first n).countP Exchange.missed ≤
        advances schedule t first n →
      ∃ last < n, Bounded capacity size (exchanges capacity schedule t first (last + 1)) ∧
        ∃ result, Lasts capacity schedule ⟨t, size, result,
          (exchanges capacity schedule t first (last + 1)).countP Exchange.lost⟩ first last := by
  have start : Underway capacity schedule t size first first :=
    ⟨started, idle, fun k gt le => absurd gt (Nat.not_lt.2 le)⟩
  refine ⟨fun n le underway => ?_, fun n enough => ?_⟩
  · have lt : first < n + 1 := Nat.lt_succ_of_le le
    rcases pending_or_exists_ended small start lt with pending | ⟨last, lt, ended⟩
    · exact pending.course.tried.bounded
    · obtain ⟨result, lasts⟩ := ended.lasts
      -- the thread has not been idle before, so the call has returned in this very step
      have same : last = n := by
        by_contra ne
        have after : last + 1 ≤ n := by omega
        exact underway.busy (last + 1) (Nat.lt_succ_of_le lasts.le) after ended.idle
      exact same ▸ ended.tried.bounded
  · have lt : first < n := by
      by_contra ge
      have none := (counts_of_le capacity schedule t (Nat.le_of_not_lt ge)).2
      omega
    rcases pending_or_exists_ended small start lt with pending | ⟨last, before, ended⟩
    · have most := pending.course.advanced_le
      omega
    · exact ⟨last, before, ended.tried.bounded, ended.lasts⟩

/-- Two threads load the same offset for chunks without payload. Thread 0 claims its chunk first, so
that thread 1 loses an exchange, and claims the second half of an arena of 32 bytes. -/
def overtaken : Schedule := fun n =>
  [(0, .start 0), (1, .start 0), (0, .advance false), (1, .advance false), (0, .advance false),
    (1, .advance false), (1, .advance false), (1, .advance false)].getD n (0, .advance false)

/-- The thread that is overtaken makes two exchanges, and returns as it goes on for the fourth
time: the bounds are reached. -/
theorem retries_end_overtaken :
    let es := exchanges 32 overtaken 1 1 8
    es = [⟨0, 16, false⟩, ⟨16, 16, false⟩] ∧ Bounded 32 0 es ∧ advances overtaken 1 1 8 = 4 ∧
      ∃ last < 8, Bounded 32 0 (exchanges 32 overtaken 1 1 (last + 1)) ∧
        ∃ result, Lasts 32 overtaken ⟨1, 0, result,
          (exchanges 32 overtaken 1 1 (last + 1)).countP Exchange.lost⟩ 1 last := by
  intro es
  have busy : ∀ k < 8, 1 < k → (trace 32 overtaken k).points 1 ≠ .idle := by decide
  have underway : Underway 32 overtaken 1 0 1 7 :=
    ⟨rfl, by decide, fun k gt le => busy k (Nat.lt_succ_of_le le) gt⟩
  obtain ⟨bounded, ended⟩ := @retries_end 32 overtaken 1 0 1 (by decide) rfl (by decide)
  exact ⟨by decide, bounded 7 (by decide) underway, by decide, ended 8 (by decide)⟩

end PointerTagging.Concurrent.ArenaThreads
