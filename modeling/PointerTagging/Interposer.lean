import PointerTagging.Config
import PointerTagging.Diagnostic
import PointerTagging.Memory
import PointerTagging.Request
/-!
# The interposer

What happens to a call on its way to the real allocator and to the answer on its way back. Sizes go
through unchanged. Pointers that come in are untagged iff they carry exactly the tag; pointers that
go out are presented by their class; a null pointer is never tagged. `free` and `usableSize` of null
are answered without reaching the allocator.
-/

namespace PointerTagging

/-- How the interposer touches memory through a presented address. -/
inductive Access where
  /-- Through the address as it is, for hardware that ignores tags itself. -/
  | hardware
  /-- Through the address with this tag removed. -/
  | tagIgnoring
  deriving DecidableEq, Repr

/-- The address that memory is really touched at. -/
def Access.target (access : Access) (addr : PresentedAddr) (tag : Tag) : UInt64 :=
  match access with
  | .hardware => addr.value
  | .tagIgnoring => (addr.resolve tag).value

/-- The memory with `len` bytes set to zero through a presented address. -/
def Access.zero (access : Access) (memory : Memory) (addr : PresentedAddr) (tag : Tag)
    (len : UInt64) : Memory :=
  memory.fill (access.target addr tag).toNat len.toNat 0

namespace Interposer

/-- The request as it goes to the real allocator, or the answer to one that does not. -/
def forward (config : Config) :
    Request PresentedAddr → Except (Response PresentedAddr) (Request RealAddr)
  | .malloc size => .ok (.malloc size)
  | .calloc count size => .ok (.calloc count size)
  | .realloc addr size => .ok (.realloc (addr.resolve config.tag) size)
  | .free addr => if addr.isNull then .error .freed else .ok (.free (addr.resolve config.tag))
  | .usableSize addr =>
    if addr.isNull then .error (.size 0) else .ok (.usableSize (addr.resolve config.tag))

/-- The class of the pointer that a request returns. -/
def resultClass (config : Config) : Request PresentedAddr → Protection
  | .malloc size => config.classify size
  | .calloc _ size => config.classify size
  | .realloc addr size => config.classifyRealloc (config.classifyIncoming addr) size
  | .free _ => .plain
  | .usableSize _ => .plain

/-- The answer as it goes to the application. -/
def present (config : Config) (request : Request PresentedAddr) (response : Response RealAddr) :
    Response PresentedAddr :=
  response.map fun addr => (resultClass config request).present addr config.tag

/-- The range to set to zero before the answer is returned: that of a fresh array. The product
wraps around, since an array that exists has a size that fits in a word. -/
def cleared? : Request PresentedAddr → Response PresentedAddr → Option (PresentedAddr × UInt64)
  | .calloc count size, .pointer addr => if addr.isNull then none else some (addr, count * size)
  | _, _ => none

/-- What the trace says before the real allocator is called. -/
def traceBefore (config : Config) : Request PresentedAddr → List Diagnostic
  | .free addr => if config.trace && !addr.isNull then [.free addr] else []
  | _ => []

/-- What the trace says when the answer is known. -/
def traceAfter (config : Config) (request : Request PresentedAddr)
    (response : Response PresentedAddr) : List Diagnostic :=
  if config.trace then
    match request, response with
    | .malloc size, .pointer result => [.malloc size result]
    | .calloc count size, .pointer result => [.calloc count size result]
    | .realloc addr size, .pointer result => [.realloc addr size result]
    | _, _ => []
  else []

/-- The answer to the application straight over a real allocator, and the allocator's state after
it. -/
def serve {σ : Type} (allocator : Allocator σ) (config : Config) (request : Request PresentedAddr)
    (state : σ) : Response PresentedAddr × σ :=
  match forward config request with
  | .error response => (response, state)
  | .ok real =>
    let (response, state) := allocator.serve real state
    (present config request response, state)

end Interposer

end PointerTagging
