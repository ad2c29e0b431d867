import PointerTagging.Arena
import PointerTagging.Environment
import PointerTagging.Heap
import PointerTagging.Interposer
import PointerTagging.Session.Script
/-!
# Process images

The state of a process that calls a tagging allocator, and what each layer does to it: the heap
below, the allocator that reaches the heap through the symbol table, and the interposer on top.

The allocator in the middle needs at most one symbol for a request. `plan` says which, from the
state before the request; the request then waits as a `Task` until the symbol's slot is known, and
is carried out by the heap if the slot is bound, or by the arena while the slot is being resolved.
-/

namespace PointerTagging.Session

/-- The state of a process: its memory and who manages which part of it, the symbol table, and what
it has written to standard error. -/
structure Image where
  heap : Heap
  arena : Arena
  /-- The chunks that the arena has handed out, the latest first. -/
  chunks : List Arena.Chunk
  memory : Memory
  table : SymbolTable
  /-- True once the configuration was read from the environment. -/
  configured : Bool
  /-- What was written to standard error. -/
  reports : List Diagnostic
  /-- What happened since the last answer. -/
  events : List Event

/-- A request that waits for the symbol it needs. -/
inductive Task where
  | malloc (size : UInt64)
  | calloc (count size : UInt64)
  | realloc (addr : RealAddr) (size : UInt64)
  /-- The reallocation of an arena chunk: a fresh allocation, and a copy of the `kept` bytes that
      the chunk was asked to hold. -/
  | move (chunk : RealAddr) (kept size : UInt64)
  | free (addr : RealAddr)
  | usableSize (addr : RealAddr)
  deriving DecidableEq, Repr

/-- The symbol that a task waits for. -/
def Task.symbol : Task → Symbol
  | .malloc _ => .malloc
  | .calloc _ _ => .calloc
  | .realloc _ _ => .realloc
  | .move _ _ _ => .malloc
  | .free _ => .free
  | .usableSize _ => .mallocUsableSize

/-- The request that a task makes of the heap. -/
def Task.request : Task → Request RealAddr
  | .malloc size => .malloc size
  | .calloc count size => .calloc count size
  | .realloc addr size => .realloc addr size
  | .move _ _ size => .malloc size
  | .free addr => .free addr
  | .usableSize addr => .usableSize addr

/-- What a request needs. -/
inductive Plan where
  /-- Nothing: the answer is known. -/
  | answer (response : Response RealAddr)
  /-- The symbol of a task. -/
  | need (task : Task)
  deriving DecidableEq, Repr

namespace Image

/-- A process in which nothing has happened yet. -/
def fresh (heapCapacity arenaCapacity : Nat) : Image where
  heap := .fresh heapCapacity
  arena := .fresh arenaCapacity
  chunks := []
  memory := .zeroed
  table := .fresh
  configured := false
  reports := []
  events := []

/-- Writes reports to standard error. -/
def report (image : Image) (reports : List Diagnostic) : Image :=
  { image with reports := image.reports ++ reports }

/-- Records an event. -/
def record (image : Image) (event : Event) : Image :=
  { image with events := image.events ++ [event] }

/-- True if `len` bytes from `addr` on are mapped. -/
def maps (image : Image) (addr len : Nat) : Bool :=
  image.heap.region.covers addr len || image.arena.region.covers addr len

/-- True unless the request frees what is no live block. -/
def knows (image : Image) : Request RealAddr → Bool
  | .free addr => (image.heap.find? addr).isSome
  | _ => true

/-- Makes a request of the heap. -/
def real (image : Image) (request : Request RealAddr) : Response RealAddr × Image :=
  let (response, heap, memory) := Heap.allocator.serve request (image.heap, image.memory)
  (response, { image with heap, memory }.record (.real request response (image.knows request)))

/-- Takes a chunk from the arena, null if it is exhausted. -/
def arenaAlloc (image : Image) (size : UInt64) : RealAddr × Image :=
  match image.arena.alloc image.memory size with
  | some (addr, arena, memory) =>
    (addr, { image with arena, memory, chunks := ⟨addr, size⟩ :: image.chunks })
  | none => (.null, image)

/-- What the allocator over the symbol table needs for a request. Arena addresses are recognised
before any symbol is looked up, so that they never reach the heap. -/
def plan (image : Image) : Request RealAddr → Plan
  | .malloc size => .need (.malloc size)
  | .calloc count size => .need (.calloc count size)
  | .realloc addr size =>
    match image.arena.usableSize? image.memory addr with
    | some kept => .need (.move addr kept size)
    | none => .need (.realloc addr size)
  | .free addr =>
    if addr.isNull || image.arena.contains addr then .answer .freed else .need (.free addr)
  | .usableSize addr =>
    match image.arena.usableSize? image.memory addr with
    | some size => .answer (.size size)
    | none => .need (.usableSize addr)

/-- Copies what a moved chunk held, if it was moved. -/
def settle (image : Image) (task : Task) (response : Response RealAddr) : Image :=
  match task, response with
  | .move chunk kept size, .pointer target =>
    if target.isNull then image
    else
      { image with
        memory := image.memory.copy chunk.value.toNat target.value.toNat (min kept size).toNat }
  | _, _ => image

/-- Carries a task out with its symbol bound. -/
def carryOut (image : Image) (task : Task) : Response RealAddr × Image :=
  let (response, image) := image.real task.request
  (response, image.settle task response)

/-- Carries a task out while its symbol is being resolved on this thread: requests for memory are
served from the arena, and what only the heap could do is left undone. -/
def bootstrap (image : Image) (task : Task) : Response RealAddr × Image :=
  match task with
  | .malloc size =>
    let (addr, image) := image.arenaAlloc size
    (.pointer addr, image)
  | .calloc count size =>
    match Word.mul? count size with
    | none => (.pointer .null, image)
    | some total =>
      let (addr, image) := image.arenaAlloc total
      if addr.isNull then (.pointer addr, image)
      else
        (.pointer addr, { image with memory := image.memory.fill addr.value.toNat total.toNat 0 })
  | .realloc addr size =>
    if addr.isNull then
      let (addr, image) := image.arenaAlloc size
      (.pointer addr, image)
    else (.pointer .null, image)
  | .move chunk kept size =>
    let (addr, image) := image.arenaAlloc size
    (.pointer addr, image.settle (.move chunk kept size) (.pointer addr))
  | .free _ => (.freed, image)
  | .usableSize _ => (.size 0, image)

/-- Sets a range to zero through a presented address, if it is mapped. -/
def clear (image : Image) (access : Access) (tag : Tag) (addr : PresentedAddr) (len : UInt64) :
    Image :=
  if len == 0 || image.maps (access.target addr tag).toNat len.toNat then
    { image with memory := access.zero image.memory addr tag len }.record (.cleared addr len false)
  else image.record (.cleared addr len true)

/-- The state of the symbol table and the arena. -/
def stats (image : Image) : Answer :=
  .stats (Symbol.all.map image.table.isBound) (Symbol.all.map fun s => (image.table.slots s).binds)
    image.arena.used

/-! ### No allocator call touches the symbol table -/

theorem table_clear (image : Image) (access : Access) (tag : Tag) (addr : PresentedAddr)
    (len : UInt64) : (image.clear access tag addr len).table = image.table := by
  unfold clear; split <;> rfl

theorem table_arenaAlloc (image : Image) (size : UInt64) :
    (image.arenaAlloc size).2.table = image.table := by
  unfold arenaAlloc; split <;> rfl

theorem table_settle (image : Image) (task : Task) (response : Response RealAddr) :
    (image.settle task response).table = image.table := by
  unfold settle; split
  · split <;> rfl
  · rfl

theorem table_carryOut (image : Image) (task : Task) :
    (image.carryOut task).2.table = image.table := by
  unfold carryOut
  exact (table_settle _ _ _).trans rfl

theorem table_bootstrap (image : Image) (task : Task) :
    (image.bootstrap task).2.table = image.table := by
  unfold bootstrap
  split
  · exact table_arenaAlloc _ _
  · split
    · rfl
    · dsimp only; split <;> exact table_arenaAlloc _ _
  · split
    · exact table_arenaAlloc _ _
    · rfl
  · exact (table_settle _ _ _).trans (table_arenaAlloc _ _)
  · rfl
  · rfl

end Image

/-- What the application's calls go through. -/
inductive Route where
  /-- The interposer straight over the heap. -/
  | direct (config : Config)
  /-- The allocator over the symbol table, with nothing above it. -/
  | bare
  /-- The interposer over the allocator over the symbol table. -/
  | layered (config : Config)
  /-- The same, configured from the environment by the first call that needs it. -/
  | exported (env : Environment)
  deriving DecidableEq, Repr

namespace Route

/-- The configuration of the interposer, if there is one. -/
def config? : Route → Option Config
  | .direct config => some config
  | .bare => none
  | .layered config => some config
  | .exported env => some (Config.ofEnvironment env).1

/-- The process with its configuration in place: the first time that an exported function needs it,
the unusable settings are reported. -/
def configure (route : Route) (image : Image) : Image :=
  match route with
  | .exported env =>
    if image.configured then image
    else
      { image with configured := true }.report ((Config.ofEnvironment env).2.map .rejected)
  | _ => image

/-- A call on its way down: the request that goes on, or the answer to one that does not. -/
def enter (route : Route) (image : Image) (request : Request PresentedAddr) :
    Except (Response PresentedAddr) (Request RealAddr) × Image :=
  match route.config? with
  | none => (.ok (request.map fun addr => ⟨addr.value⟩), image)
  | some config =>
    match Interposer.forward config request with
    | .error response => (.error response, image)
    | .ok real => (.ok real, (route.configure image).report (Interposer.traceBefore config request))

/-- An answer on its way up. -/
def leave (route : Route) (access : Access) (image : Image) (request : Request PresentedAddr)
    (response : Response RealAddr) : Response PresentedAddr × Image :=
  match route.config? with
  | none => (response.map RealAddr.plain, image)
  | some config =>
    let presented := Interposer.present config request response
    let image :=
      match Interposer.cleared? request presented with
      | some (addr, len) => image.clear access config.tag addr len
      | none => image
    (presented, image.report (Interposer.traceAfter config request presented))

/-- What a request that goes on needs. Straight over the heap nothing is looked up. -/
def plan (route : Route) (image : Image) (request : Request RealAddr) : Plan × Image :=
  match route with
  | .direct _ =>
    let (response, image) := image.real request
    (.answer response, image)
  | _ => (image.plan request, image)

/-- The address at which the application's loads and stores through a pointer take place. -/
def resolve (route : Route) (addr : UInt64) : UInt64 :=
  match route.config? with
  | none => addr
  | some config => ((⟨addr⟩ : PresentedAddr).resolve config.tag).value

theorem table_configure (route : Route) (image : Image) :
    (route.configure image).table = image.table := by
  unfold configure; split
  · split <;> rfl
  · rfl

theorem table_enter (route : Route) (image : Image) (request : Request PresentedAddr) :
    (route.enter image request).2.table = image.table := by
  unfold enter; split
  · rfl
  · split
    · rfl
    · exact table_configure _ _

theorem table_leave (route : Route) (access : Access) (image : Image)
    (request : Request PresentedAddr) (response : Response RealAddr) :
    (route.leave access image request response).2.table = image.table := by
  unfold leave; split
  · rfl
  · dsimp only; split
    · exact Image.table_clear _ _ _ _ _
    · rfl

theorem table_plan (route : Route) (image : Image) (request : Request RealAddr) :
    (route.plan image request).2.table = image.table := by
  unfold plan; split <;> rfl

end Route

end PointerTagging.Session
