import PointerTagging.Symbol
/-!
# The symbol table

One slot for each symbol. A slot is claimed by the first lookup, which runs the resolver, and ends
up ready with an address or failed. A lookup that the resolver makes of a symbol it is resolving is
told that it is bootstrapping, since waiting for the slot would be waiting for itself.
-/

namespace PointerTagging

/-- How far a slot has come. -/
inductive SlotState where
  | unresolved
  | resolving
  | ready
  | failed
  deriving DecidableEq, Repr

/-- A slot: its state, the address it is bound to, and how often it was bound. -/
structure Slot where
  state : SlotState
  addr : UInt64
  binds : Nat
  deriving DecidableEq, Repr

/-- A slot that no lookup has claimed. -/
def Slot.fresh : Slot := ⟨.unresolved, 0, 0⟩

/-- What a lookup returns. -/
inductive Lookup where
  | ready (addr : UInt64)
  /-- This thread is resolving the symbol right now. -/
  | bootstrapping
  | failed
  deriving DecidableEq, Repr

/-- What a resolver finds: the address of the real implementation, or why there is none. -/
abbrev Resolution := Except SymbolError UInt64

namespace Resolution

/-- The address that a slot is bound to: a null address binds nothing. -/
def bound? : Resolution → Option UInt64
  | .ok addr => if addr == 0 then none else some addr
  | .error _ => none

/-- What is reported of a resolution of `s` that binds nothing. -/
def complaint (s : Symbol) : Resolution → SymbolError
  | .ok _ => .unresolved s
  | .error error => error

/-- What the lookup that made the resolution returns. -/
def lookup (resolution : Resolution) : Lookup :=
  match resolution.bound? with
  | some addr => .ready addr
  | none => .failed

end Resolution

/-- The slots of all symbols, and the symbols whose resolvers run on this thread. -/
structure SymbolTable where
  slots : Symbol → Slot
  resolving : SymbolSet

namespace SymbolTable

/-- No slot is claimed. -/
def fresh : SymbolTable := ⟨fun _ => .fresh, .empty⟩

/-- The table with a slot replaced. -/
def setSlot (table : SymbolTable) (s : Symbol) (slot : Slot) : SymbolTable :=
  { table with slots := fun t => if t = s then slot else table.slots t }

/-- The table with the slot claimed and its resolver about to run on this thread. -/
def claim (table : SymbolTable) (s : Symbol) : SymbolTable :=
  { table.setSlot s { table.slots s with state := .resolving } with
    resolving := table.resolving.insert s }

/-- The table after the resolver of `s` has returned: bound, or failed. -/
def publish (table : SymbolTable) (s : Symbol) (resolution : Resolution) : SymbolTable :=
  let slot := table.slots s
  let slot :=
    match resolution.bound? with
    | some addr => { state := .ready, addr, binds := slot.binds + 1 }
    | none => { slot with state := .failed }
  { table.setSlot s slot with resolving := table.resolving.erase s }

/-- True of a symbol that is bound. -/
def isBound (table : SymbolTable) (s : Symbol) : Bool := (table.slots s).state == .ready

/-- The symbols whose slots nobody has claimed. -/
def unclaimed (table : SymbolTable) : List Symbol :=
  Symbol.all.filter fun s => (table.slots s).state == .unresolved

/-- A claim leaves one slot less to claim. -/
theorem length_unclaimed_claim (table : SymbolTable) (s : Symbol)
    (h : (table.slots s).state = .unresolved) :
    (table.claim s).unclaimed.length < table.unclaimed.length := by
  have hs (t : Symbol) :
      ((table.claim s).slots t).state = if t = s then .resolving else (table.slots t).state := by
    simp only [claim, setSlot]
    split <;> rfl
  simp only [unclaimed, Symbol.all, hs]
  cases s <;> simp [List.filter_cons, h] <;> grind

/-- Publishing a slot leaves no more slots to claim. -/
theorem length_unclaimed_publish_le (table : SymbolTable) (s : Symbol) (resolution : Resolution) :
    (table.publish s resolution).unclaimed.length ≤ table.unclaimed.length := by
  have hs (t : Symbol) : ((table.publish s resolution).slots t).state = .unresolved →
      (table.slots t).state = .unresolved := by
    simp only [publish, setSlot]
    split
    · split <;> exact fun h => nomatch h
    · exact id
  simp only [unclaimed, ← List.countP_eq_length_filter]
  exact List.countP_mono_left fun t _ => by simpa using hs t

end SymbolTable

end PointerTagging
