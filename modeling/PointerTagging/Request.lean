import PointerTagging.Address
/-!
# Requests to an allocator

The five calls of an allocator as data, with pointers of any kind, and the answers to them. An
`Allocator` answers requests and keeps a state.
-/

namespace PointerTagging

/-- A call of an allocator whose pointers are of type `α`. -/
inductive Request (α : Type) where
  | malloc (size : UInt64)
  | calloc (count size : UInt64)
  | realloc (addr : α) (size : UInt64)
  | free (addr : α)
  | usableSize (addr : α)
  deriving DecidableEq, Repr

/-- What a call returns. -/
inductive Response (α : Type) where
  | pointer (addr : α)
  | freed
  | size (n : UInt64)
  deriving DecidableEq, Repr

/-- The request with its pointers replaced. -/
def Request.map {α β : Type} (f : α → β) : Request α → Request β
  | .malloc size => .malloc size
  | .calloc count size => .calloc count size
  | .realloc addr size => .realloc (f addr) size
  | .free addr => .free (f addr)
  | .usableSize addr => .usableSize (f addr)

/-- The response with its pointer replaced. -/
def Response.map {α β : Type} (f : α → β) : Response α → Response β
  | .pointer addr => .pointer (f addr)
  | .freed => .freed
  | .size n => .size n

/-- An allocator with states of type `σ`. -/
structure Allocator (σ : Type) where
  malloc : UInt64 → σ → RealAddr × σ
  calloc : UInt64 → UInt64 → σ → RealAddr × σ
  realloc : RealAddr → UInt64 → σ → RealAddr × σ
  free : RealAddr → σ → σ
  usableSize : RealAddr → σ → UInt64 × σ

/-- The answer of an allocator to a request, and its state after it. -/
def Allocator.serve {σ : Type} (allocator : Allocator σ) (request : Request RealAddr) (state : σ) :
    Response RealAddr × σ :=
  match request with
  | .malloc size => (allocator.malloc size state).map .pointer id
  | .calloc count size => (allocator.calloc count size state).map .pointer id
  | .realloc addr size => (allocator.realloc addr size state).map .pointer id
  | .free addr => (.freed, allocator.free addr state)
  | .usableSize addr => (allocator.usableSize addr state).map .size id

end PointerTagging
