import Mathlib.Tactic.Lemma
import PointerTagging.Concurrent.SymbolTable

/-!
# The life of a slot

A slot goes through stages, from unclaimed through the phases of the one lookup that claimed it to
ready or failed (`Stage`). The stage fixes the slot's cells, how often its resolver was started and
what it answered. Only the lookup that claimed the slot takes it to the next stage (`Stage.change`).
-/

namespace PointerTagging.Concurrent.Symbols

/-- How far a lookup has come that has claimed its slot. -/
inductive Phase where
  | entering
  | running
  | storing (addr : UInt64)
  | counting (addr : UInt64)
  | publishing (addr : UInt64)
  | complaining
  | failing
  deriving DecidableEq, Repr

/-- What there is to know of a slot: its cells, the threads that started its resolver, and what the
resolver answered, the latest first. -/
structure Record where
  slot : Slot
  starts : List ThreadId
  gave : List Resolution

/-- The stages of a slot, with the thread that has claimed it and the phase of its lookup. -/
inductive Stage : Option (ThreadId × Phase) → Record → Prop where
  | unclaimed :
    Stage none ⟨⟨.unresolved, 0, 0⟩, [], []⟩
  | entering {t : ThreadId} :
    Stage (some (t, .entering)) ⟨⟨.resolving, 0, 0⟩, [], []⟩
  | running {t : ThreadId} :
    Stage (some (t, .running)) ⟨⟨.resolving, 0, 0⟩, [t], []⟩
  | storing {t : ThreadId} {resolution : Resolution} {addr : UInt64} :
    resolution.bound? = some addr →
    Stage (some (t, .storing addr)) ⟨⟨.resolving, 0, 0⟩, [t], [resolution]⟩
  | counting {t : ThreadId} {resolution : Resolution} {addr : UInt64} :
    resolution.bound? = some addr →
    Stage (some (t, .counting addr)) ⟨⟨.resolving, addr, 0⟩, [t], [resolution]⟩
  | publishing {t : ThreadId} {resolution : Resolution} {addr : UInt64} :
    resolution.bound? = some addr →
    Stage (some (t, .publishing addr)) ⟨⟨.resolving, addr, 1⟩, [t], [resolution]⟩
  | complaining {t : ThreadId} {resolution : Resolution} :
    resolution.bound? = none →
    Stage (some (t, .complaining)) ⟨⟨.resolving, 0, 0⟩, [t], [resolution]⟩
  | failing {t : ThreadId} {resolution : Resolution} :
    resolution.bound? = none →
    Stage (some (t, .failing)) ⟨⟨.resolving, 0, 0⟩, [t], [resolution]⟩
  | ready {t : ThreadId} {resolution : Resolution} {addr : UInt64} :
    resolution.bound? = some addr →
    Stage none ⟨⟨.ready, addr, 1⟩, [t], [resolution]⟩
  | failed {t : ThreadId} {resolution : Resolution} :
    resolution.bound? = none →
    Stage none ⟨⟨.failed, 0, 0⟩, [t], [resolution]⟩

/-- How a step of a thread takes its lookup, and the slot, from one phase to the next. -/
inductive Change (t : ThreadId) : Option Phase → Record → Option Phase → Record → Prop where
  | claim {record : Record} :
    record.slot.state = .unresolved →
    Change t none record (some .entering)
      { record with slot := { record.slot with state := .resolving } }
  | start {record : Record} :
    Change t (some .entering) record (some .running) { record with starts := t :: record.starts }
  | bind {record : Record} {resolution : Resolution} {addr : UInt64} :
    resolution.bound? = some addr →
    Change t (some .running) record (some (.storing addr))
      { record with gave := resolution :: record.gave }
  | refuse {record : Record} {resolution : Resolution} :
    resolution.bound? = none →
    Change t (some .running) record (some .complaining)
      { record with gave := resolution :: record.gave }
  | store {record : Record} {addr : UInt64} :
    Change t (some (.storing addr)) record (some (.counting addr))
      { record with slot := { record.slot with addr } }
  | count {record : Record} {addr : UInt64} :
    Change t (some (.counting addr)) record (some (.publishing addr))
      { record with slot := { record.slot with binds := record.slot.binds + 1 } }
  | publish {record : Record} {addr : UInt64} :
    Change t (some (.publishing addr)) record none
      { record with slot := { record.slot with state := .ready } }
  | complain {record : Record} :
    Change t (some .complaining) record (some .failing) record
  | fail {record : Record} :
    Change t (some .failing) record none
      { record with slot := { record.slot with state := .failed } }

/-- The lookup that has claimed a slot takes it to the next stage. -/
lemma Stage.change {t : ThreadId} {before after : Option Phase} {record record' : Record}
    (stage : Stage (before.map (t, ·)) record) (change : Change t before record after record') :
    Stage (after.map (t, ·)) record' := by
  cases change with
  | claim state =>
    cases stage with
    | unclaimed => exact .entering
    | ready => cases state
    | failed => cases state
  | start => cases stage; exact .running
  | bind bound => cases stage; exact .storing bound
  | refuse unbound => cases stage; exact .complaining unbound
  | store => cases stage with | storing bound => exact .counting bound
  | count => cases stage with | counting bound => exact .publishing bound
  | publish => cases stage with | publishing bound => exact .ready bound
  | complain => cases stage with | complaining unbound => exact .failing unbound
  | fail => cases stage with | failing unbound => exact .failed unbound

/-- A lookup that holds no slot changes one only by claiming it. -/
lemma Change.unresolved {t : ThreadId} {after : Option Phase} {record record' : Record}
    (change : Change t none record after record') : record.slot.state = .unresolved := by
  cases change with
  | claim state => exact state

/-- Only a slot that is being resolved has an owner. -/
lemma Stage.unowned {owner : Option (ThreadId × Phase)} {record : Record}
    (stage : Stage owner record) (state : record.slot.state ≠ .resolving) : owner = none := by
  cases stage with
  | unclaimed | ready | failed => rfl
  | _ => exact absurd rfl state

/-- A slot that is being resolved has an owner. -/
lemma Stage.owned {owner : Option (ThreadId × Phase)} {record : Record}
    (stage : Stage owner record) (state : record.slot.state = .resolving) :
    ∃ t phase, owner = some (t, phase) := by
  cases stage with
  | unclaimed | ready | failed => cases state
  | _ => exact ⟨_, _, rfl⟩

/-- A slot that is about to be ready holds its address. -/
lemma Stage.addr_eq {t : ThreadId} {addr : UInt64} {record : Record}
    (stage : Stage (some (t, .publishing addr)) record) : record.slot.addr = addr := by
  cases stage with
  | publishing bound => rfl

/-- How the state of a slot moves in one step. -/
inductive Moves : SlotState → SlotState → Prop where
  | stay {state : SlotState} : Moves state state
  | claim : Moves .unresolved .resolving
  | bind : Moves .resolving .ready
  | fail : Moves .resolving .failed

/-- A change of a slot that is at a stage moves its state. -/
lemma Stage.moves {t : ThreadId} {before after : Option Phase} {record record' : Record}
    (stage : Stage (before.map (t, ·)) record) (change : Change t before record after record') :
    Moves record.slot.state record'.slot.state := by
  cases change with
  | claim state => exact state ▸ .claim
  | publish => cases stage; exact .bind
  | fail => cases stage; exact .fail
  | _ => exact .stay

/-- A resolution that binds an address found that address, which is not null. -/
lemma bound_eq_some {resolution : Resolution} {addr : UInt64} :
    resolution.bound? = some addr ↔ addr ≠ 0 ∧ resolution = .ok addr := by
  unfold Resolution.bound?
  cases resolution with
  | error => simp
  | ok found =>
    by_cases null : found = 0
    · simp [null, eq_comm]
    · simp only [beq_iff_eq, null, if_false, Option.some.injEq, Except.ok.injEq]
      constructor
      · rintro rfl
        exact ⟨null, rfl⟩
      · exact And.right

/-- A resolution that binds nothing found a null address or none. -/
lemma bound_eq_none {resolution : Resolution} :
    resolution.bound? = none ↔ resolution = .ok 0 ∨ ∃ error, resolution = .error error := by
  unfold Resolution.bound?
  cases resolution <;> simp

namespace Stage

variable {owner : Option (ThreadId × Phase)} {record : Record}

/-- The resolver of a slot is started once at most. -/
lemma starts_le (h : Stage owner record) : record.starts.length ≤ 1 := by
  cases h <;> simp

/-- A slot is bound once at most. -/
lemma binds_le (h : Stage owner record) : record.slot.binds ≤ 1 := by
  cases h <;> simp

/-- A ready slot is bound to the address that its resolver found. -/
lemma of_ready (h : Stage owner record) (ready : record.slot.state = .ready) :
    record.slot.addr ≠ 0 ∧ record.gave = [.ok record.slot.addr] ∧ record.slot.binds = 1 := by
  cases h with
  | ready bound =>
    obtain ⟨nonnull, rfl⟩ := bound_eq_some.mp bound
    exact ⟨nonnull, rfl, rfl⟩
  | _ => cases ready

/-- The resolver of a failed slot found nothing to bind. -/
lemma of_failed (h : Stage owner record) (failed : record.slot.state = .failed) :
    (record.gave = [.ok 0] ∨ ∃ error, record.gave = [.error error]) ∧ record.slot.binds = 0 := by
  cases h with
  | failed unbound =>
    refine ⟨?_, rfl⟩
    obtain rfl | ⟨error, rfl⟩ := bound_eq_none.mp unbound
    · exact .inl rfl
    · exact .inr ⟨error, rfl⟩
  | _ => cases failed

end Stage

end PointerTagging.Concurrent.Symbols
