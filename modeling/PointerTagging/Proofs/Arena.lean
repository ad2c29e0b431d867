import PointerTagging.Arena
import PointerTagging.Proofs.Memory
import PointerTagging.Proofs.Word

/-!
# The geometry of the arena

The chunks that an arena hands out tile its used bytes (`Arena.Tiles`). From the tiling follow where
a chunk can lie, which chunks the range test recognises (`Tiles.contains_eq_false`), and that no
payload overlaps the header of a chunk (`Tiles.avoids_payload`), so that headers keep the requested
sizes as long as writes stay in payloads (`Intact.of_avoids`).
-/

namespace PointerTagging.Arena

/-- The bytes that a chunk of the given size takes, header included. -/
def extent (size : UInt64) : Nat := headerSize + (size.toNat + 15) / 16 * 16

/-- The chunks, the latest first, lie one behind the other in the first bytes of the arena. -/
inductive Tiles : List Chunk → Nat → Prop where
  | nil : Tiles [] 0
  | cons {chunks : List Chunk} {offset : Nat} (size : UInt64) (rest : Tiles chunks offset) :
    Tiles (⟨payload offset, size⟩ :: chunks) (offset + extent size)

/-- The chunk has no payload, and its header ends where an arena of that capacity ends. -/
def Chunk.AtEnd (chunk : Chunk) (capacity : Nat) : Prop :=
  chunk.size = 0 ∧ chunk.addr.value.toNat = base + capacity

instance (chunk : Chunk) (capacity : Nat) : Decidable (chunk.AtEnd capacity) :=
  inferInstanceAs (Decidable (_ ∧ _))

/-- No byte of the range belongs to the size in a chunk's header. -/
def Avoids (chunks : List Chunk) (start len : Nat) : Prop :=
  ∀ chunk ∈ chunks, len = 0 ∨ start + len ≤ chunk.addr.value.toNat - headerSize ∨
    chunk.addr.value.toNat - headerSize + 8 ≤ start

instance (chunks : List Chunk) (start len : Nat) : Decidable (Avoids chunks start len) :=
  inferInstanceAs (Decidable (∀ chunk ∈ chunks, _ ∨ _ ∨ _))

/-- Every chunk's header holds the requested size. -/
def Intact (memory : Memory) (chunks : List Chunk) : Prop :=
  ∀ chunk ∈ chunks, memory.readWord (chunk.addr.value.toNat - headerSize) = chunk.size

variable {arena arena' : Arena} {memory memory' : Memory} {chunks : List Chunk} {chunk : Chunk}
  {offset used stop start len : Nat} {size : UInt64} {addr : RealAddr}

/-- The size of a header in digits. -/
lemma headerSize_eq : headerSize = 16 := rfl

/-- The size of a chunk is the exact one, if it fits in a word. -/
lemma chunkSize?_eq_some {chunk : UInt64} :
    chunkSize? size = some chunk ↔ extent size < 2 ^ 64 ∧ chunk.toNat = extent size := by
  have e16 : Word.alignment.toNat = 16 := rfl
  rw [chunkSize?, Option.bind_eq_some_iff, extent, headerSize_eq]
  constructor
  · rintro ⟨rounded, hr, hs⟩
    rw [Word.alignUp?_eq_some] at hr
    rw [Word.add?_eq_some, e16] at hs
    omega
  · rintro ⟨fits, e⟩
    have lt := size.toNat_lt
    have e' : (chunk - 16).toNat = chunk.toNat - 16 :=
      UInt64.toNat_sub_of_le _ _ (UInt64.le_iff_toNat_le.2 (show 16 ≤ chunk.toNat by omega))
    refine ⟨chunk - 16, ?_, ?_⟩
    · rw [Word.alignUp?_eq_some]
      omega
    · rw [Word.add?_eq_some, e16]
      omega

/-- A chunk ends where its bytes end, if that is within the capacity. -/
lemma chunkEnd?_eq_some {capacity : Nat} (small : capacity < 2 ^ 64) (within : offset ≤ capacity) :
    chunkEnd? capacity offset size = some stop ↔
      stop = offset + extent size ∧ offset + extent size ≤ capacity := by
  have eoffset : offset.toUInt64.toNat = offset := Nat.mod_eq_of_lt (show offset < 2 ^ 64 by omega)
  simp only [chunkEnd?, Option.bind_eq_bind, Option.bind_eq_some_iff, chunkSize?_eq_some,
    Word.add?_eq_some, eoffset]
  constructor
  · rintro ⟨chunk, hc, sum, hs, h⟩
    split at h
    case isTrue le =>
      cases h
      omega
    case isFalse => cases h
  · rintro ⟨rfl, fits⟩
    have echunk : (extent size).toUInt64.toNat = extent size :=
      Nat.mod_eq_of_lt (show extent size < 2 ^ 64 by omega)
    have estop : (offset + extent size).toUInt64.toNat = offset + extent size :=
      Nat.mod_eq_of_lt (show offset + extent size < 2 ^ 64 by omega)
    refine ⟨(extent size).toUInt64, by omega, (offset + extent size).toUInt64, by omega, ?_⟩
    rw [estop, if_pos fits]

/-- The range test depends on the capacity only. -/
lemma contains_congr (capacity : arena'.capacity = arena.capacity) (addr : RealAddr) :
    arena'.contains addr = arena.contains addr := by
  rw [contains, contains, capacity]

/-- What a request for a chunk yields: the place behind the used bytes, if the chunk fits. -/
lemma alloc_eq_some (small : arena.capacity < 2 ^ 64) (within : arena.used ≤ arena.capacity) :
    arena.alloc memory size = some (addr, arena', memory') ↔
      arena.used + extent size ≤ arena.capacity ∧ addr = payload arena.used ∧
        arena' = { arena with used := arena.used + extent size } ∧
        memory' = memory.writeWord (base + arena.used) size := by
  rw [alloc, Option.map_eq_some_iff]
  simp only [chunkEnd?_eq_some small within, Prod.mk.injEq]
  constructor
  · rintro ⟨stop, ⟨rfl, fits⟩, rfl, rfl, rfl⟩
    exact ⟨fits, rfl, rfl, rfl⟩
  · rintro ⟨fits, rfl, rfl, rfl⟩
    exact ⟨_, ⟨rfl, fits⟩, rfl, rfl, rfl⟩

/-- The address of a payload as a number. -/
lemma toNat_payload (fits : base + offset + headerSize < 2 ^ 64) :
    (payload offset).value.toNat = base + offset + headerSize :=
  Nat.mod_eq_of_lt fits

/-- A chunk takes its header and room for its size. -/
lemma le_extent (size : UInt64) : headerSize + size.toNat ≤ extent size := by
  rw [extent]
  omega

/-- A chunk takes whole units of the alignment. -/
lemma dvd_extent (size : UInt64) : 16 ∣ extent size := by
  rw [extent, headerSize_eq]
  omega

/-- A chunk takes no more than its header only if its size is zero. -/
lemma extent_le_headerSize : extent size ≤ headerSize ↔ size = 0 := by
  rw [extent, ← UInt64.toNat_inj, UInt64.toNat_zero]
  omega

namespace Tiles

/-- A chunk of a tiling has its place in the used bytes. -/
lemma exists_offset (tiles : Tiles chunks used) (mem : chunk ∈ chunks) :
    ∃ offset, chunk.addr = payload offset ∧ offset + extent chunk.size ≤ used := by
  induction tiles with
  | nil => cases mem
  | @cons chunks offset size _ ih =>
    cases mem with
    | head => exact ⟨offset, rfl, Nat.le_refl _⟩
    | tail _ mem =>
      obtain ⟨place, e, le⟩ := ih mem
      exact ⟨place, e, by omega⟩

/-- The payload of a chunk lies in the used bytes, behind its header. -/
lemma bounds (tiles : Tiles chunks used) (below : base + used ≤ 2 ^ 48) (mem : chunk ∈ chunks) :
    base + headerSize ≤ chunk.addr.value.toNat ∧
      chunk.addr.value.toNat + (extent chunk.size - headerSize) ≤ base + used := by
  obtain ⟨offset, e, le⟩ := tiles.exists_offset mem
  have room := le_extent chunk.size
  rw [e, toNat_payload (by omega)]
  omega

/-- The range test misses exactly the chunk without payload at the end of the arena. -/
lemma contains_eq_false (tiles : Tiles chunks arena.used) (within : arena.used ≤ arena.capacity)
    (below : base + arena.capacity ≤ 2 ^ 48) (mem : chunk ∈ chunks) :
    arena.contains chunk.addr = false ↔ chunk.AtEnd arena.capacity := by
  have bounds := tiles.bounds (by omega) mem
  have room := le_extent chunk.size
  rw [Chunk.AtEnd, ← extent_le_headerSize]
  simp only [contains, Bool.and_eq_false_iff, decide_eq_false_iff_not]
  omega

/-- No payload overlaps the header of a chunk. -/
lemma avoids_payload (tiles : Tiles chunks used) (below : base + used ≤ 2 ^ 48)
    (mem : chunk ∈ chunks) :
    Avoids chunks chunk.addr.value.toNat (extent chunk.size - headerSize) := by
  induction tiles with
  | nil => cases mem
  | @cons chunks offset size rest ih =>
    have room := le_extent size
    have header := headerSize_eq
    have top : (payload offset).value.toNat = base + offset + headerSize :=
      toNat_payload (by omega)
    intro other memOther
    -- the latest chunk lies behind all others, so only two older ones need the hypothesis
    cases memOther with
    | head =>
      cases mem with
      | head =>
        dsimp only
        omega
      | tail _ mem =>
        have bounds := rest.bounds (by omega) mem
        dsimp only
        omega
    | tail _ memOther =>
      cases mem with
      | head =>
        have bounds := rest.bounds (by omega) memOther
        dsimp only
        omega
      | tail _ mem => exact ih (by omega) mem other memOther

/-- What lies outside the arena overlaps no header. -/
lemma avoids_of_outside (tiles : Tiles chunks used) (below : base + used ≤ 2 ^ 48)
    (outside : start + len ≤ base ∨ base + used ≤ start) : Avoids chunks start len := by
  intro chunk mem
  have bounds := tiles.bounds below mem
  have room := le_extent chunk.size
  have header := headerSize_eq
  omega

end Tiles

/-- A shorter range avoids the headers as well. -/
lemma Avoids.mono {len' : Nat} (avoids : Avoids chunks start len) (le : len' ≤ len) :
    Avoids chunks start len' := by
  intro chunk mem
  have h := avoids chunk mem
  omega

/-- A write keeps the headers that it avoids. -/
lemma Intact.of_avoids (intact : Intact memory chunks) (avoids : Avoids chunks start len)
    (same : ∀ a, ¬(start ≤ a ∧ a < start + len) → memory'.byteAt a = memory.byteAt a) :
    Intact memory' chunks := by
  intro chunk mem
  rw [← intact chunk mem]
  refine Memory.readWord_congr fun a ge lt => same a fun inside => ?_
  have h := avoids chunk mem
  omega

/-- A new chunk's header is written where no other chunk has its own. -/
lemma Intact.cons (intact : Intact memory chunks) (tiles : Tiles chunks used)
    (below : base + used + headerSize ≤ 2 ^ 48) (size : UInt64) :
    Intact (memory.writeWord (base + used) size) (⟨payload used, size⟩ :: chunks) := by
  have top : (payload used).value.toNat = base + used + headerSize := toNat_payload (by omega)
  intro chunk mem
  cases mem with
  | head =>
    rw [top, Nat.add_sub_cancel]
    exact memory.readWord_writeWord _ size
  | tail _ mem =>
    have avoids : Avoids chunks (base + used) 8 :=
      tiles.avoids_of_outside (by omega) (.inr (Nat.le_refl _))
    exact intact.of_avoids avoids (fun a => memory.byteAt_writeWord_of_not_mem size) chunk mem

end PointerTagging.Arena
