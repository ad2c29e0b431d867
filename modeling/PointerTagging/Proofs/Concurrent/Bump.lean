import Mathlib.Data.List.Nodup
import PointerTagging.Concurrent.Arena
import PointerTagging.Proofs.Arena

/-!
# Steps of an allocation

What one step of a thread can do to an arena (`Transition`), and what every reachable state keeps
(`Sound`): the claimed chunks tile the used bytes, each of them is owned by one call, headers of
returned chunks hold the requested sizes, and what was refused fits in no later state.
-/

namespace PointerTagging.Concurrent.ArenaThreads

open Arena (extent payload)

/-- The chunks, the latest first, lie one behind the other in the first bytes of the arena. -/
inductive Tiled : List Chunk → Nat → Prop where
  | nil : Tiled [] 0
  | cons {chunks : List Chunk} {offset : Nat} (size : UInt64) :
    Tiled chunks offset →
    Tiled (⟨offset, offset + extent size, size⟩ :: chunks) (offset + extent size)

namespace Tiled

variable {chunks : List Chunk} {chunk other : Chunk} {used a : Nat}

/-- A chunk takes its own bytes, and they are used. -/
lemma bounds (tiled : Tiled chunks used) (mem : chunk ∈ chunks) :
    chunk.stop = chunk.offset + extent chunk.size ∧ chunk.stop ≤ used := by
  induction tiled with
  | nil => cases mem
  | @cons chunks offset size _ ih =>
    cases mem with
    | head => exact ⟨rfl, Nat.le_refl _⟩
    | tail _ mem =>
      obtain ⟨e, le⟩ := ih mem
      exact ⟨e, by omega⟩

/-- Of two chunks the later one lies behind the earlier. -/
lemma pairwise (tiled : Tiled chunks used) :
    chunks.Pairwise fun later earlier => earlier.stop ≤ later.offset := by
  induction tiled with
  | nil => exact .nil
  | cons size tiled ih => exact .cons (fun earlier mem => (tiled.bounds mem).2) ih

/-- Two chunks are the same one or do not overlap. -/
lemma apart (tiled : Tiled chunks used) (mem : chunk ∈ chunks) (mem' : other ∈ chunks) :
    chunk = other ∨ chunk.stop ≤ other.offset ∨ other.stop ≤ chunk.offset := by
  induction tiled with
  | nil => cases mem
  | cons size tiled ih =>
    cases mem with
    | head =>
      cases mem' with
      | head => exact .inl rfl
      | tail _ mem' => exact .inr (.inr (tiled.bounds mem').2)
    | tail _ mem =>
      cases mem' with
      | head => exact .inr (.inl (tiled.bounds mem).2)
      | tail _ mem' => exact ih mem mem'

/-- The chunks cover the used bytes and no others. -/
lemma covers (tiled : Tiled chunks used) :
    a < used ↔ ∃ chunk ∈ chunks, chunk.offset ≤ a ∧ a < chunk.stop := by
  constructor
  · intro lt
    induction tiled with
    | nil => cases lt
    | @cons chunks offset size _ ih =>
      rcases Nat.lt_or_ge a offset with below | above
      · obtain ⟨chunk, mem, inside⟩ := ih below
        exact ⟨chunk, List.mem_cons_of_mem _ mem, inside⟩
      · exact ⟨_, List.mem_cons_self, above, lt⟩
  · rintro ⟨chunk, mem, _, lt⟩
    exact Nat.lt_of_lt_of_le lt (tiled.bounds mem).2

/-- Chunks are whole units of the alignment. -/
lemma dvd (tiled : Tiled chunks used) : 16 ∣ used := by
  induction tiled with
  | nil => exact Nat.dvd_zero 16
  | cons size _ ih => exact Nat.dvd_add ih (Arena.dvd_extent size)

end Tiled

/-! ## Transitions -/

/-- The point lies between the start of an allocation and its claim. -/
inductive Point.Tries (size : UInt64) : Point → Prop where
  | load : Tries size (.load size)
  | exchange (offset stop lost : Nat) : Tries size (.exchange size offset stop lost)

/-- What a step of a thread does. -/
inductive Transition (s : State) (t : ThreadId) : Action → State → Prop where
  | rest {action : Action} :
    ((∃ size, action = .start size) → s.points t ≠ .idle) →
    ((∃ spurious, action = .advance spurious) → s.points t = .idle) →
    Transition s t action s
  | tooLarge {size : UInt64} :
    s.points t = .idle →
    2 ^ 64 ≤ extent size →
    Transition s t (.start size) (s.finish t size none 0)
  | start {size : UInt64} :
    s.points t = .idle →
    Transition s t (.start size) (s.goto t (.load size))
  | aim {size : UInt64} {spurious : Bool} (lost : Nat) :
    (s.points t).Tries size →
    s.arena.used + extent size ≤ s.arena.capacity →
    Transition s t (.advance spurious)
      (s.goto t (.exchange size s.arena.used (s.arena.used + extent size) lost))
  | exhausted {size : UInt64} {spurious : Bool} (lost : Nat) :
    (s.points t).Tries size →
    s.arena.capacity < s.arena.used + extent size →
    Transition s t (.advance spurious) (s.finish t size none lost)
  | claim {size : UInt64} {stop lost : Nat} :
    s.points t = .exchange size s.arena.used stop lost →
    Transition s t (.advance false)
      { s.goto t (.header size s.arena.used lost) with
        arena := { s.arena with used := stop }
        claimed := ⟨s.arena.used, stop, size⟩ :: s.claimed }
  | deliver {size : UInt64} {offset lost : Nat} {spurious : Bool} :
    s.points t = .header size offset lost →
    Transition s t (.advance spurious)
      { s.finish t size (some (payload offset)) lost with
        memory := s.memory.writeWord (Arena.base + offset) size }
  | store {addr : RealAddr} {offset : Nat} {byte : UInt8} {c : Call} :
    c ∈ s.returned →
    c.result = some addr →
    offset < c.size.toNat →
    Transition s t (.store addr offset byte)
      { s with memory := s.memory.write (addr.value.toNat + offset) [byte] }

/-- An attempt aims at the place where the used bytes end, or gives up if the chunk does not fit
there. -/
lemma State.attempt_cases {s : State} (t : ThreadId) (size : UInt64) (lost : Nat)
    (small : s.arena.capacity < 2 ^ 64) (within : s.arena.used ≤ s.arena.capacity) :
    s.arena.used + extent size ≤ s.arena.capacity ∧
      s.attempt t size s.arena.used lost =
        s.goto t (.exchange size s.arena.used (s.arena.used + extent size) lost) ∨
    s.arena.capacity < s.arena.used + extent size ∧
      s.attempt t size s.arena.used lost = s.finish t size none lost := by
  rw [attempt]
  cases h : Arena.chunkEnd? s.arena.capacity s.arena.used size with
  | some stop =>
    obtain ⟨rfl, fits⟩ := (Arena.chunkEnd?_eq_some small within).1 h
    exact .inl ⟨fits, rfl⟩
  | none =>
    refine .inr ⟨Nat.lt_of_not_le fun fits => ?_, rfl⟩
    rw [(Arena.chunkEnd?_eq_some small within).2 ⟨rfl, fits⟩] at h
    cases h

/-- An attempt is a transition of a thread that tries. -/
lemma transition_attempt {s : State} {t : ThreadId} {size : UInt64} (spurious : Bool) (lost : Nat)
    (small : s.arena.capacity < 2 ^ 64) (within : s.arena.used ≤ s.arena.capacity)
    (tries : (s.points t).Tries size) :
    Transition s t (.advance spurious) (s.attempt t size s.arena.used lost) := by
  rcases State.attempt_cases t size lost small within with ⟨fits, e⟩ | ⟨full, e⟩
  · exact e ▸ .aim lost tries fits
  · exact e ▸ .exhausted lost tries full

/-- Every step is one of the transitions. -/
theorem State.transition (s : State) (t : ThreadId) (action : Action)
    (small : s.arena.capacity < 2 ^ 64) (within : s.arena.used ≤ s.arena.capacity) :
    Transition s t action (s.step t action) := by
  cases action with
  | start size =>
    cases point : s.points t with
    | idle =>
      simp only [step, point]
      cases h : Arena.chunkSize? size with
      | some chunk => exact .start point
      | none =>
        refine .tooLarge point (Nat.le_of_not_lt fun fits => ?_)
        have e : (extent size).toUInt64.toNat = extent size := Nat.mod_eq_of_lt fits
        rw [Arena.chunkSize?_eq_some.2 ⟨fits, e⟩] at h
        cases h
    | load size' => simp only [step, point]; exact .rest (by simp [point]) (by simp)
    | exchange size' offset stop lost =>
      simp only [step, point]; exact .rest (by simp [point]) (by simp)
    | header size' offset lost => simp only [step, point]; exact .rest (by simp [point]) (by simp)
  | advance spurious =>
    cases point : s.points t with
    | idle => simp only [step, point]; exact .rest (by simp) fun _ => point
    | load size =>
      simp only [step, point]
      exact transition_attempt spurious 0 small within (point ▸ .load)
    | exchange size offset stop lost =>
      have tries : (s.points t).Tries size := point ▸ .exchange offset stop lost
      simp only [step, point]
      split
      case isTrue same =>
        subst same
        cases spurious with
        | true => exact transition_attempt true lost small within tries
        | false => exact .claim point
      case isFalse => exact transition_attempt spurious (lost + 1) small within tries
    | header size offset lost =>
      simp only [step, point]
      exact .deliver point
  | store addr offset byte =>
    rw [step]
    split
    case isTrue h =>
      obtain ⟨c, mem, h⟩ := List.any_eq_true.1 h
      simp only [Bool.and_eq_true, beq_iff_eq, decide_eq_true_eq] at h
      exact .store mem h.1 h.2
    case isFalse => exact .rest (by simp) (by simp)

@[simp] lemma State.points_goto_same {s : State} {t : ThreadId} {point : Point} :
    (s.goto t point).points t = point := update_same _ _ _

/-- A thread that goes to a point is there, and no other thread has moved. -/
lemma State.points_goto {s : State} {t u : ThreadId} {point p : Point} :
    (s.goto t point).points u = p ↔ u = t ∧ point = p ∨ u ≠ t ∧ s.points u = p := by
  by_cases h : u = t
  case pos =>
    subst h
    simp [goto]
  case neg => simp [goto, update_of_ne _ _ h, h]

/-! ## What reachable states keep -/

/-- What holds in every reachable state. -/
structure Sound (capacity : Nat) (s : State) : Prop where
  capacity_eq : s.arena.capacity = capacity
  within : s.arena.used ≤ capacity
  tiled : Tiled s.claimed s.arena.used
  /-- An exchange puts the end of the chunk, which lies within the capacity. -/
  aims : ∀ t size offset stop lost, s.points t = .exchange size offset stop lost →
    stop = offset + extent size ∧ stop ≤ capacity
  /-- A claimed chunk without a header belongs to one thread, and was not returned. -/
  owed : ∀ t size offset lost, s.points t = .header size offset lost →
    ⟨offset, offset + extent size, size⟩ ∈ s.claimed ∧
    (∀ c ∈ s.returned, c.result ≠ some (payload offset)) ∧
    ∀ u size' lost', s.points u = .header size' offset lost' → u = t
  /-- A returned pointer is that of a claimed chunk whose header holds the requested size. -/
  served : ∀ c ∈ s.returned, ∀ addr, c.result = some addr →
    ∃ offset, addr = payload offset ∧ ⟨offset, offset + extent c.size, c.size⟩ ∈ s.claimed ∧
      s.memory.readWord (Arena.base + offset) = c.size
  /-- What was refused does not fit. -/
  refused : ∀ c ∈ s.returned, c.result = none → capacity < s.arena.used + extent c.size
  /-- No pointer was returned twice. -/
  distinct : (s.returned.filterMap Call.result).Nodup
  blank : ∀ a, Arena.base + s.arena.used ≤ a → s.memory.byteAt a = 0

/-- Payloads at different offsets have different addresses. -/
lemma payload_inj {offset offset' : Nat} (fits : Arena.base + offset + Arena.headerSize < 2 ^ 64)
    (fits' : Arena.base + offset' + Arena.headerSize < 2 ^ 64) :
    payload offset = payload offset' ↔ offset = offset' := by
  refine ⟨fun e => ?_, congrArg payload⟩
  have h : (payload offset).value.toNat = (payload offset').value.toNat := by rw [e]
  rw [Arena.toNat_payload fits, Arena.toNat_payload fits'] at h
  omega

/-- A word does not depend on what is written elsewhere. -/
lemma readWord_eq {memory memory' : Memory} {start len word : Nat}
    (same : ∀ a, ¬(start ≤ a ∧ a < start + len) → memory'.byteAt a = memory.byteAt a)
    (apart : word + 8 ≤ start ∨ start + len ≤ word) :
    memory'.readWord word = memory.readWord word :=
  Memory.readWord_congr fun a ge lt => same a (by omega)

namespace Sound

variable {capacity : Nat} {s : State} {t : ThreadId} {size : UInt64} {offset stop lost : Nat}
  {c : Call} {chunk : Chunk} {addr : RealAddr}

/-- No thread has called. -/
lemma initial (capacity : Nat) : Sound capacity (.initial capacity) where
  capacity_eq := rfl
  within := Nat.zero_le _
  tiled := .nil
  aims := fun _ _ _ _ _ e => nomatch e
  owed := fun _ _ _ _ e => nomatch e
  served := fun _ mem => nomatch mem
  refused := fun _ mem => nomatch mem
  distinct := .nil
  blank := fun _ _ => rfl

/-- A claimed chunk lies in the arena, with its header and its payload. -/
lemma bounds (sound : Sound capacity s) (mem : chunk ∈ s.claimed) :
    chunk.stop = chunk.offset + extent chunk.size ∧
      Arena.headerSize + chunk.size.toNat ≤ extent chunk.size ∧ chunk.stop ≤ s.arena.used ∧
      s.arena.used ≤ capacity := by
  obtain ⟨e, le⟩ := sound.tiled.bounds mem
  exact ⟨e, Arena.le_extent _, le, sound.within⟩

/-- A thread goes to a point outside the writing of a header. -/
lemma goto (sound : Sound capacity s) (t : ThreadId) (point : Point)
    (aims : ∀ size offset stop lost, point = .exchange size offset stop lost →
      stop = offset + extent size ∧ stop ≤ capacity)
    (unclaimed : ∀ size offset lost, point ≠ .header size offset lost) :
    Sound capacity (s.goto t point) where
  capacity_eq := sound.capacity_eq
  within := sound.within
  tiled := sound.tiled
  aims := fun u size offset stop lost e => by
    rcases State.points_goto.1 e with ⟨_, here⟩ | ⟨_, there⟩
    · exact aims size offset stop lost here
    · exact sound.aims u size offset stop lost there
  owed := fun u size offset lost e => by
    have before (v : ThreadId) {size offset lost}
        (e : (s.goto t point).points v = .header size offset lost) :
        s.points v = .header size offset lost := by
      rcases State.points_goto.1 e with ⟨_, here⟩ | ⟨_, there⟩
      · exact absurd here (unclaimed size offset lost)
      · exact there
    obtain ⟨mem, unreturned, only⟩ := sound.owed u size offset lost (before u e)
    exact ⟨mem, unreturned, fun v size' lost' e' => only v size' lost' (before v e')⟩
  served := sound.served
  refused := sound.refused
  distinct := sound.distinct
  blank := sound.blank

/-- A call returns without a chunk that does not fit. -/
lemma refuse (sound : Sound capacity s) (t : ThreadId) (lost : Nat)
    (full : capacity < s.arena.used + extent size) :
    Sound capacity (s.finish t size none lost) := by
  have moved := sound.goto t .idle nofun nofun
  constructor
  case capacity_eq => exact moved.capacity_eq
  case within => exact moved.within
  case tiled => exact moved.tiled
  case aims => exact moved.aims
  case owed =>
    intro u size' offset lost' e
    obtain ⟨mem, unreturned, only⟩ := moved.owed u size' offset lost' e
    exact ⟨mem, List.forall_mem_cons.2 ⟨nofun, unreturned⟩, only⟩
  case served => exact List.forall_mem_cons.2 ⟨nofun, moved.served⟩
  case refused => exact List.forall_mem_cons.2 ⟨fun _ => full, moved.refused⟩
  case distinct => exact moved.distinct
  case blank => exact moved.blank

/-- A thread claims the next chunk. -/
lemma claim (sound : Sound capacity s) (small : Arena.base + capacity < 2 ^ 64)
    (point : s.points t = .exchange size s.arena.used stop lost) :
    Sound capacity
      { s.goto t (.header size s.arena.used lost) with
        arena := { s.arena with used := stop }
        claimed := ⟨s.arena.used, stop, size⟩ :: s.claimed } := by
  obtain ⟨rfl, fits⟩ := sound.aims t size _ _ lost point
  have room := Arena.le_extent size
  have header := Arena.headerSize_eq
  -- the chunk is new, so no other thread and no returned call has it
  have old {offset size} (mem : (⟨offset, offset + extent size, size⟩ : Chunk) ∈ s.claimed) :
      offset < s.arena.used := by
    obtain ⟨_, room, le, _⟩ := sound.bounds mem
    dsimp only at le room
    omega
  constructor
  case capacity_eq => exact sound.capacity_eq
  case within => exact fits
  case tiled => exact sound.tiled.cons size
  case aims =>
    intro u size' offset stop lost' e
    rcases State.points_goto.1 e with ⟨_, here⟩ | ⟨_, there⟩
    · cases here
    · exact sound.aims u size' offset stop lost' there
  case owed =>
    intro u size' offset lost' e
    rcases State.points_goto.1 e with ⟨mine, here⟩ | ⟨_, there⟩
    · cases here
      refine ⟨List.mem_cons_self, fun c mem e => ?_, fun v size' lost' e => ?_⟩
      · obtain ⟨offset, e', mem', _⟩ := sound.served c mem _ e
        have lt := old mem'
        rw [payload_inj (by omega) (by omega)] at e'
        omega
      · rcases State.points_goto.1 e with ⟨same, _⟩ | ⟨_, there⟩
        · exact same.trans mine.symm
        · have lt := old (sound.owed v size' _ lost' there).1
          omega
    · obtain ⟨mem, unreturned, only⟩ := sound.owed u size' offset lost' there
      refine ⟨List.mem_cons_of_mem _ mem, unreturned, fun v size'' lost'' e' => ?_⟩
      rcases State.points_goto.1 e' with ⟨_, here⟩ | ⟨_, there⟩
      · cases here
        have lt := old mem
        omega
      · exact only v size'' lost'' there
  case served =>
    intro c mem addr e
    obtain ⟨offset, e', mem', word⟩ := sound.served c mem addr e
    exact ⟨offset, e', List.mem_cons_of_mem _ mem', word⟩
  case refused =>
    intro c mem e
    have full := sound.refused c mem e
    dsimp only
    omega
  case distinct => exact sound.distinct
  case blank =>
    intro a le
    exact sound.blank a (by dsimp only at le; omega)

/-- The header of a claimed chunk is written, and its pointer returned. -/
lemma deliver (sound : Sound capacity s) (small : Arena.base + capacity < 2 ^ 64)
    (point : s.points t = .header size offset lost) :
    Sound capacity
      { s.finish t size (some (payload offset)) lost with
        memory := s.memory.writeWord (Arena.base + offset) size } := by
  have header := Arena.headerSize_eq
  obtain ⟨mem, unreturned, only⟩ := sound.owed t size offset lost point
  obtain ⟨_, room, le, within⟩ := sound.bounds mem
  dsimp only at le room
  have moved := sound.goto t .idle nofun nofun
  have outside (a : Nat) (h : ¬(Arena.base + offset ≤ a ∧ a < Arena.base + offset + 8)) :
      (s.memory.writeWord (Arena.base + offset) size).byteAt a = s.memory.byteAt a :=
    s.memory.byteAt_writeWord_of_not_mem size h
  constructor
  case capacity_eq => exact moved.capacity_eq
  case within => exact moved.within
  case tiled => exact moved.tiled
  case aims => exact moved.aims
  case owed =>
    intro u size' offset' lost' e
    obtain ⟨mem', unreturned', only'⟩ := moved.owed u size' offset' lost' e
    refine ⟨mem', List.forall_mem_cons.2 ⟨fun e' => ?_, unreturned'⟩, only'⟩
    -- a chunk that was just returned belongs to no other thread
    obtain ⟨_, room', le', _⟩ := sound.bounds mem'
    dsimp only at le' room'
    rw [Option.some.injEq, payload_inj (by omega) (by omega)] at e'
    subst e'
    rcases State.points_goto.1 e with ⟨_, here⟩ | ⟨ne, there⟩
    · cases here
    · exact ne (only u size' lost' there)
  case served =>
    refine List.forall_mem_cons.2 ⟨?_, fun c memc addr e => ?_⟩
    · rintro addr ⟨⟩
      exact ⟨offset, rfl, mem, s.memory.readWord_writeWord _ size⟩
    · obtain ⟨offset', rfl, mem', word⟩ := sound.served c memc addr e
      refine ⟨offset', rfl, mem', ?_⟩
      -- another chunk's header, since this one was not returned before
      have ne : offset ≠ offset' := by
        rintro rfl
        exact unreturned c memc e
      have apart := sound.tiled.apart mem mem'
      have room' := Arena.le_extent c.size
      simp only [Chunk.mk.injEq] at apart
      rw [← word]
      exact readWord_eq outside (by omega)
  case refused => exact List.forall_mem_cons.2 ⟨nofun, moved.refused⟩
  case distinct =>
    refine List.nodup_cons.2 ⟨fun mem => ?_, moved.distinct⟩
    obtain ⟨c, memc, e⟩ := List.mem_filterMap.1 mem
    exact unreturned c memc e
  case blank =>
    intro a le
    exact (outside a (by dsimp only [State.finish, State.goto] at le; omega)).trans
      (sound.blank a le)

/-- A caller stores a byte in what was returned to it. -/
lemma store (sound : Sound capacity s) (small : Arena.base + capacity < 2 ^ 64)
    (mem : c ∈ s.returned) (result : c.result = some addr) {i : Nat} (inside : i < c.size.toNat)
    (byte : UInt8) :
    Sound capacity { s with memory := s.memory.write (addr.value.toNat + i) [byte] } := by
  have header := Arena.headerSize_eq
  obtain ⟨offset, rfl, memc, _⟩ := sound.served c mem addr result
  obtain ⟨_, room, le, within⟩ := sound.bounds memc
  dsimp only at le room
  have top : (payload offset).value.toNat = Arena.base + offset + Arena.headerSize :=
    Arena.toNat_payload (by omega)
  have outside (a : Nat)
      (h : ¬((payload offset).value.toNat + i ≤ a ∧ a < (payload offset).value.toNat + i + 1)) :
      (s.memory.write ((payload offset).value.toNat + i) [byte]).byteAt a = s.memory.byteAt a :=
    s.memory.byteAt_write_of_not_mem [byte] h
  constructor
  case capacity_eq => exact sound.capacity_eq
  case within => exact sound.within
  case tiled => exact sound.tiled
  case aims => exact sound.aims
  case owed => exact sound.owed
  case served =>
    intro c' mem' addr' e
    obtain ⟨offset', e', memc', word⟩ := sound.served c' mem' addr' e
    refine ⟨offset', e', memc', ?_⟩
    -- a payload overlaps neither its own header nor any other chunk
    have apart := sound.tiled.apart memc memc'
    have room' := Arena.le_extent c'.size
    simp only [Chunk.mk.injEq] at apart
    rw [← word]
    exact readWord_eq outside (by omega)
  case refused => exact sound.refused
  case distinct => exact sound.distinct
  case blank =>
    intro a le
    exact (outside a (by dsimp only at le; omega)).trans (sound.blank a le)

/-- A step keeps a state sound. -/
theorem step (sound : Sound capacity s) (small : Arena.base + capacity < 2 ^ 64) (t : ThreadId)
    (action : Action) : Sound capacity (s.step t action) := by
  have e := sound.capacity_eq
  have transition := s.transition t action (by omega) (e ▸ sound.within)
  generalize s.step t action = next at transition
  cases transition with
  | rest => exact sound
  | tooLarge _ large => exact sound.refuse t 0 (by omega)
  | start => exact sound.goto t _ nofun nofun
  | aim lost _ fits =>
    refine sound.goto t _ ?_ nofun
    rintro _ _ _ _ ⟨⟩
    exact ⟨rfl, e ▸ fits⟩
  | exhausted lost _ full => exact sound.refuse t lost (e ▸ full)
  | claim point => exact sound.claim small point
  | deliver point => exact sound.deliver small point
  | store mem result inside => exact sound.store small mem result inside _

end Sound

/-- Every reachable state is sound. -/
theorem Reachable.sound {capacity : Nat} {s : State} (small : Arena.base + capacity < 2 ^ 64)
    (reach : Reachable capacity s) : Sound capacity s := by
  induction reach with
  | initial => exact .initial capacity
  | step t action _ ih => exact ih.step small t action

/-! ## Threads that meet -/

/-- All allocations are of one size. -/
structure Uniform (size : UInt64) (s : State) : Prop where
  tries : ∀ t size', (s.points t).Tries size' → size' = size
  claimed : ∀ chunk ∈ s.claimed, chunk.size = size

/-- A step of an allocation of the size keeps all of them to it. -/
lemma Uniform.step {size : UInt64} {s next : State} {t : ThreadId} {action : Action}
    (uniform : Uniform size s) (own : ∀ size', action = .start size' → size' = size)
    (transition : Transition s t action next) : Uniform size next := by
  have goes {point : Point} (only : ∀ size', point.Tries size' → size' = size) (u : ThreadId)
      (size' : UInt64) (tries : ((s.goto t point).points u).Tries size') : size' = size := by
    by_cases same : u = t
    · rw [same, State.points_goto_same] at tries
      exact only size' tries
    · have there : (s.goto t point).points u = s.points u := update_of_ne _ _ same
      exact uniform.tries u size' (there ▸ tries)
  cases transition with
  | rest | store => exact ⟨uniform.tries, uniform.claimed⟩
  | tooLarge | exhausted | deliver =>
    refine ⟨goes fun size' tries => ?_, uniform.claimed⟩
    cases tries
  | start =>
    refine ⟨goes fun size' tries => ?_, uniform.claimed⟩
    cases tries
    exact own _ rfl
  | aim lost tries =>
    refine ⟨goes fun size' tries' => ?_, uniform.claimed⟩
    cases tries'
    exact uniform.tries t _ tries
  | @claim size' stop lost exchange =>
    refine ⟨goes fun size' tries => ?_, List.forall_mem_cons.mpr ⟨?_, uniform.claimed⟩⟩
    · cases tries
    · exact uniform.tries t size' (exchange ▸ .exchange _ stop lost)

/-- Threads that allocate once each, all of one size. -/
lemma uniform_runOnce {capacity : Nat} (small : Arena.base + capacity < 2 ^ 64) (size : UInt64)
    (schedule : List ThreadId) :
    Sound capacity (runOnce capacity size schedule) ∧
      Uniform size (runOnce capacity size schedule) := by
  have keeps {s : State} (t : ThreadId) {action : Action}
      (own : ∀ size', action = .start size' → size' = size)
      (h : Sound capacity s ∧ Uniform size s) :
      Sound capacity (s.step t action) ∧ Uniform size (s.step t action) := by
    obtain ⟨sound, uniform⟩ := h
    have size_eq := sound.capacity_eq
    have within := sound.within
    exact ⟨sound.step small t action,
      uniform.step own (s.transition t action (by omega) (by omega))⟩
  refine runOnce_keeps (P := fun s => Sound capacity s ∧ Uniform size s) ⟨.initial capacity, ?_⟩
    (fun s t => keeps t ?_) (fun s t => keeps t nofun) schedule
  · exact ⟨nofun, nofun⟩
  · rintro _ ⟨⟩
    rfl

namespace Sound

variable {capacity : Nat} {s : State} {size : UInt64}

/-- Of two addresses that were handed out the higher one lies behind the other's chunk. -/
lemma addresses_apart (sound : Sound capacity s) (small : Arena.base + capacity < 2 ^ 64)
    (uniform : Uniform size s) {a b : Nat} (mem : a ∈ s.addresses) (mem' : b ∈ s.addresses)
    (lt : a < b) : a + extent size ≤ b := by
  have spot {a : Nat} (mem : a ∈ s.addresses) : ∃ offset, a = Arena.base + offset + 16 ∧
      ⟨offset, offset + extent size, size⟩ ∈ s.claimed := by
    rw [State.addresses, List.mem_mergeSort] at mem
    obtain ⟨c, returned, e⟩ := List.mem_filterMap.mp mem
    obtain ⟨addr, result, rfl⟩ := Option.map_eq_some_iff.mp e
    obtain ⟨offset, rfl, claimed, -⟩ := sound.served c returned addr result
    obtain ⟨-, room, le, within⟩ := sound.bounds claimed
    have same : c.size = size := uniform.claimed _ claimed
    rw [same] at claimed room le
    have header := Arena.headerSize_eq
    dsimp only at room le
    exact ⟨offset, Arena.toNat_payload (by omega), claimed⟩
  obtain ⟨offset, rfl, claimed⟩ := spot mem
  obtain ⟨offset', rfl, claimed'⟩ := spot mem'
  have apart := sound.tiled.apart claimed claimed'
  simp only [Chunk.mk.injEq] at apart
  omega

/-- The addresses that were handed out, in increasing order, lie a chunk apart. -/
lemma pairwise_addresses (sound : Sound capacity s) (small : Arena.base + capacity < 2 ^ 64)
    (uniform : Uniform size s) : s.addresses.Pairwise fun a b => a + extent size ≤ b := by
  have sorted : s.addresses.Pairwise (· ≤ ·) := by
    have sorts := @List.pairwise_mergeSort Nat (fun a b => a ≤ b)
      (by simpa using fun a b c => Nat.le_trans) (by simpa using Nat.le_total)
    exact (sorts _).imp of_decide_eq_true
  have distinct : s.addresses.Nodup := by
    rw [State.addresses, (List.mergeSort_perm _ _).nodup_iff, ← List.map_filterMap]
    refine List.Nodup.map (fun addr addr' e => ?_) sound.distinct
    cases addr
    cases addr'
    exact congrArg RealAddr.mk (UInt64.toNat_inj.mp e)
  refine (sorted.and distinct).imp_of_mem fun mem mem' h => ?_
  exact sound.addresses_apart small uniform mem mem' (Nat.lt_of_le_of_ne h.1 h.2)

end Sound

/-- Numbers that lie apart have gaps between them. -/
lemma le_of_mem_gaps {d : Nat} {as : List Nat} (apart : as.Pairwise fun a b => a + d ≤ b) :
    ∀ gap ∈ gaps as, d ≤ gap := by
  induction as using gaps.induct with
  | case1 a b rest ih =>
    obtain ⟨first, apart⟩ := List.pairwise_cons.mp apart
    have le := first b List.mem_cons_self
    exact List.forall_mem_cons.mpr ⟨by omega, ih apart⟩
  | case2 as short =>
    intro gap mem
    rw [gaps] at mem
    · cases mem
    · exact short

/-- However many threads meet, their chunks do not overlap. -/
theorem extent_le_gaps {capacity : Nat} (small : Arena.base + capacity < 2 ^ 64) (threads : Nat)
    (size : UInt64) :
    ∀ gap ∈ gaps (meeting capacity threads size).addresses, extent size ≤ gap := by
  obtain ⟨sound, uniform⟩ := uniform_runOnce small size (roundRobin threads (threads + 4))
  exact le_of_mem_gaps (sound.pairwise_addresses small uniform)

end PointerTagging.Concurrent.ArenaThreads
