import PointerTagging.Config
import PointerTagging.Request
import PointerTagging.SymbolTable
/-!
# Scripts

A session is driven by a script: the calls that the application makes, and for each symbol the calls
that the loader makes while it resolves the symbol. A call names a pointer by its address or by the
label that an earlier step put on its answer.
-/

namespace PointerTagging.Session

/-- How a call names a pointer. -/
inductive Operand where
  | address (value : UInt64)
  | label (name : String)
  deriving DecidableEq, Repr

/-- A call in a script. -/
inductive Call where
  /-- A call of the allocator. -/
  | request (request : Request Operand)
  /-- Stores bytes through a pointer. -/
  | write (target : Operand) (bytes : List UInt8)
  /-- Loads bytes through a pointer. -/
  | read (source : Operand) (len : UInt64)
  /-- Asks the symbol table for an address. -/
  | lookup (s : Symbol)
  /-- Takes a chunk from the arena. -/
  | arenaAlloc (size : UInt64)
  /-- Asks whether an address lies in the arena. -/
  | arenaContains (addr : Operand)
  /-- Asks for the size of an arena chunk. -/
  | arenaUsable (addr : Operand)
  /-- Asks for the state of the symbol table and the arena. -/
  | stats
  /-- Asks for the configuration of the process. -/
  | config
  deriving DecidableEq, Repr

/-- A call with the label for its answer, and the answer that is forced on the first request that
reaches the heap because of it. -/
structure Step where
  call : Call
  label : Option String
  forced : Option UInt64
  deriving DecidableEq, Repr

/-- How the resolution of a symbol ends. -/
inductive Outcome where
  | ok
  | null
  | unresolved
  | unbound
  deriving DecidableEq, Repr

/-- What the loader does to resolve a symbol: the calls that it makes, how it ends, and the address
that it finds, if not that of the heap's own function. -/
structure Resolver where
  outcome : Outcome
  addr : Option UInt64
  script : List Step
  deriving DecidableEq, Repr

/-- The address of the heap's own function for a symbol. -/
def entry (s : Symbol) : UInt64 := 0x120000000000 + s.index.toUInt64

/-- What the loader finds. -/
def Resolver.resolution (resolver : Resolver) (s : Symbol) : Resolution :=
  match resolver.outcome with
  | .ok => .ok (resolver.addr.getD (entry s))
  | .null => .ok 0
  | .unresolved => .error (.unresolved s)
  | .unbound => .error (.unbound s)

/-- What a call answers. -/
inductive Answer where
  | pointer (addr : UInt64)
  | freed
  | size (n : UInt64)
  /-- The bytes are stored. -/
  | stored
  | bytes (bytes : List UInt8)
  /-- The memory is not mapped. -/
  | fault
  /-- The symbol is bound, to this address if it is not the heap's own function. -/
  | ready (addr : Option UInt64)
  | bootstrapping
  | failed
  | inArena (b : Bool)
  | chunk (addr : Option UInt64)
  | chunkSize (size : Option UInt64)
  | stats (bound : List Bool) (binds : List Nat) (arenaUsed : Nat)
  | config (config : Config)
  deriving DecidableEq, Repr

/-- The address that a label on the answer stands for. A chunk that is refused has none, so the
label keeps what it stood for. -/
def Answer.address? : Answer → Option UInt64
  | .pointer addr => some addr
  | .chunk addr => addr
  | _ => none

/-- Something that happens in a session besides its answers. -/
inductive Event where
  /-- A request reached the heap. It is known unless it frees what is no live block. -/
  | real (request : Request RealAddr) (response : Response RealAddr) (known : Bool)
  /-- A range was set to zero through a presented address, or could not be. -/
  | cleared (addr : PresentedAddr) (len : UInt64) (fault : Bool)
  /-- A resolver starts. -/
  | resolve (s : Symbol)
  /-- A call of the resolver of `s` is answered. -/
  | inside (s : Symbol) (call : Call) (answer : Answer)
  /-- A resolver returns. -/
  | resolved (s : Symbol) (outcome : Outcome)
  deriving DecidableEq, Repr

end PointerTagging.Session
