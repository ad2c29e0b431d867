import PointerTagging.Proofs.Presentation
import PointerTagging.Request

/-!
# Allocators and their clients

Requests and responses that agree up to their pointers, and what a client without an interposer sees
of an allocator. `Allocator.recorded` keeps the requests that reach an allocator, and changes no
answer.
-/

namespace PointerTagging

/-- The pointer that a request passes, if it passes one. -/
def Request.pointer? {α : Type} : Request α → Option α
  | .malloc _ => none
  | .calloc _ _ => none
  | .realloc addr _ => some addr
  | .free addr => some addr
  | .usableSize addr => some addr

/-- The pointer that a response returns, if it returns one. -/
def Response.pointer? {α : Type} : Response α → Option α
  | .pointer addr => some addr
  | .freed => none
  | .size _ => none

/-- Requests of the same call and the same sizes, whose pointers are related. -/
inductive Request.Mirrors {α β : Type} (R : α → β → Prop) : Request α → Request β → Prop where
  | malloc (size : UInt64) :
    Mirrors R (.malloc size) (.malloc size)
  | calloc (count size : UInt64) :
    Mirrors R (.calloc count size) (.calloc count size)
  | realloc {a : α} {b : β} (size : UInt64) :
    R a b →
    Mirrors R (.realloc a size) (.realloc b size)
  | free {a : α} {b : β} :
    R a b →
    Mirrors R (.free a) (.free b)
  | usableSize {a : α} {b : β} :
    R a b →
    Mirrors R (.usableSize a) (.usableSize b)

/-- A request that names its pointers in two related ways makes requests that mirror each other. -/
lemma Request.mirrors_map {α β γ : Type} {R : α → β → Prop} {f : γ → α} {g : γ → β}
    (h : ∀ c, R (f c) (g c)) (call : Request γ) :
    Request.Mirrors R (call.map f) (call.map g) := by
  cases call with
  | malloc size => exact .malloc size
  | calloc count size => exact .calloc count size
  | realloc c size => exact .realloc size (h c)
  | free c => exact .free (h c)
  | usableSize c => exact .usableSize (h c)

/-- Responses that are equal up to pointers, which are related. -/
inductive Response.Mirrors {α β : Type} (R : α → β → Prop) : Response α → Response β → Prop where
  | pointer {a : α} {b : β} :
    R a b →
    Mirrors R (.pointer a) (.pointer b)
  | freed :
    Mirrors R .freed .freed
  | size (n : UInt64) :
    Mirrors R (.size n) (.size n)

/-- False of the two requests that are answered without an allocator: those that pass null to `free`
or `usableSize`. -/
def Request.reaches : Request RealAddr → Bool
  | .free addr => !addr.isNull
  | .usableSize addr => !addr.isNull
  | _ => true

namespace Allocator

variable {σ : Type} (allocator : Allocator σ)

/-- The states that requests can bring an allocator into. -/
inductive Reachable (start : σ) : σ → Prop where
  | start :
    Reachable start start
  | serve {state : σ} (request : Request RealAddr) :
    Reachable start state →
    Reachable start (allocator.serve request state).2

/-- No pointer that the allocator returns has a tag bit set. Null never has. -/
def Canonical (start : σ) : Prop :=
  ∀ state, allocator.Reachable start state → ∀ request addr,
    (allocator.serve request state).1 = .pointer addr → isEncoded addr.value = false

/-- The allocator with a list of the requests that reached it, in order. -/
def recorded : Allocator (σ × List (Request RealAddr)) where
  malloc size state :=
    let (addr, next) := allocator.malloc size state.1
    (addr, next, state.2 ++ [.malloc size])
  calloc count size state :=
    let (addr, next) := allocator.calloc count size state.1
    (addr, next, state.2 ++ [.calloc count size])
  realloc addr size state :=
    let (result, next) := allocator.realloc addr size state.1
    (result, next, state.2 ++ [.realloc addr size])
  free addr state := (allocator.free addr state.1, state.2 ++ [.free addr])
  usableSize addr state :=
    let (n, next) := allocator.usableSize addr state.1
    (n, next, state.2 ++ [.usableSize addr])

/-- The answer to a client that does not trouble the allocator with null where C defines the
answer. -/
def direct (request : Request RealAddr) (state : σ) : Response RealAddr × σ :=
  match request with
  | .free addr => if addr.isNull then (.freed, state) else allocator.serve (.free addr) state
  | .usableSize addr =>
    if addr.isNull then (.size 0, state) else allocator.serve (.usableSize addr) state
  | request => allocator.serve request state

/-- Recording a request changes neither the answer nor the next state. -/
lemma serve_recorded (request : Request RealAddr) (state : σ) (log : List (Request RealAddr)) :
    allocator.recorded.serve request (state, log) =
      ((allocator.serve request state).1, (allocator.serve request state).2, log ++ [request]) := by
  cases request <;> rfl

/-- A request that reaches the allocator is served by it. -/
lemma direct_of_reaches {request : Request RealAddr} (h : request.reaches = true) (state : σ) :
    allocator.direct request state = allocator.serve request state := by
  cases request <;> simp_all [direct, Request.reaches]

/-- A request that does not reach the allocator leaves its state alone. -/
lemma direct_of_not_reaches {request : Request RealAddr} (h : request.reaches = false) (state : σ) :
    (allocator.direct request state).2 = state := by
  cases request <;> simp_all [direct, Request.reaches]

/-- The record ends with the request exactly if the request reaches the allocator. -/
lemma direct_recorded_log (request : Request RealAddr) (state : σ × List (Request RealAddr)) :
    (allocator.recorded.direct request state).2.2 = state.2 ++ [request].filter Request.reaches := by
  obtain ⟨state, log⟩ := state
  cases h : request.reaches with
  | true => rw [direct_of_reaches _ h, serve_recorded, List.filter_cons_of_pos h]; rfl
  | false =>
    rw [direct_of_not_reaches _ h, List.filter_cons_of_neg (by simp [h])]
    exact (List.append_nil _).symm

variable {allocator}

/-- A recorded allocator reaches the states of the allocator. -/
lemma Reachable.of_recorded {start : σ} {state : σ × List (Request RealAddr)}
    (h : allocator.recorded.Reachable (start, []) state) : allocator.Reachable start state.1 := by
  induction h with
  | start => exact .start
  | @serve state request _ ih =>
    rw [show state = (state.1, state.2) from rfl, serve_recorded]
    exact ih.serve request

/-- A recorded allocator returns what the allocator returns. -/
lemma Canonical.recorded {start : σ} (h : allocator.Canonical start) :
    allocator.recorded.Canonical (start, []) := by
  rintro ⟨state, log⟩ reach request addr e
  rw [serve_recorded] at e
  exact h state reach.of_recorded request addr e

/-- A direct client brings an allocator only into reachable states. -/
lemma Reachable.direct {start state : σ} (h : allocator.Reachable start state)
    (request : Request RealAddr) :
    allocator.Reachable start (allocator.direct request state).2 := by
  cases e : request.reaches with
  | true => rw [direct_of_reaches _ e]; exact h.serve request
  | false => rwa [direct_of_not_reaches _ e]

end Allocator

end PointerTagging
