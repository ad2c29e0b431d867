import Mathlib.Data.List.Forall2
import PointerTagging.Interposer
import PointerTagging.Proofs.Heap

/-!
# Transparency of the interposer

A client that talks to the interposer and the same client that talks to the real allocator itself
proceed in lock step (`Interposer.transparent`). The client is a list of calls that name their
pointers by the calls that returned them, so that both runs play one list: through the interposer a
name stands for the presented pointer, without it for the address that the allocator returned.

The simulation relates a presented pointer to the real address that it stands for (`Stands`). One
call keeps the relation (`Interposer.serve_mirrors`), hence so does a whole run (`play_mirrors`).
-/

namespace PointerTagging

/-! ## One call -/

/-- A presented pointer stands for a real address: it resolves to it, it is null only with it, and no
tag bit of the address is set. -/
structure Stands (tag : Tag) (pointer : PresentedAddr) (addr : RealAddr) : Prop where
  resolves : pointer.resolve tag = addr
  null : pointer.isNull = addr.isNull
  clear : isEncoded addr.value = false

/-- Null stands for null. -/
lemma Stands.null_null (tag : Tag) : Stands tag .null .null where
  resolves := PresentedAddr.resolve_null tag
  null := rfl
  clear := RealAddr.isEncoded_null

/-- Either presentation of an address stands for it. -/
lemma Stands.present {tag : Tag} {addr : RealAddr} (protection : Protection)
    (clear : isEncoded addr.value = false) : Stands tag (protection.present addr tag) addr where
  resolves := Protection.resolve_present tag protection clear
  null := Protection.isNull_present tag protection clear
  clear := clear

namespace Interposer

variable {σ : Type} {allocator : Allocator σ} {config : Config}
  {request : Request PresentedAddr} {real : Request RealAddr}

/-- A response is presented by pointers that stand for the pointers of the response. -/
lemma present_mirrors (request : Request PresentedAddr) {response : Response RealAddr}
    (clear : ∀ addr, response = .pointer addr → isEncoded addr.value = false) :
    Response.Mirrors (Stands config.tag) (present config request response) response := by
  cases response with
  | pointer addr => exact .pointer (.present _ (clear addr rfl))
  | freed => exact .freed
  | size n => exact .size n

/-- A request that mirrors one that reaches the allocator is forwarded as that one. -/
lemma forward_of_reaches (h : Request.Mirrors (Stands config.tag) request real)
    (reaches : real.reaches = true) : forward config request = .ok real := by
  cases h with
  | malloc => rfl
  | calloc => rfl
  | realloc size h => rw [forward, h.resolves]
  | free h =>
    have nonnull := h.null
    simp_all [Request.reaches, forward, h.resolves]
  | usableSize h =>
    have nonnull := h.null
    simp_all [Request.reaches, forward, h.resolves]

/-- A request that mirrors one that does not reach the allocator is answered at once. -/
lemma forward_of_not_reaches (allocator : Allocator σ) (h : Request.Mirrors (Stands config.tag) request real)
    (reaches : real.reaches = false) (state : σ) :
    ∃ response, forward config request = .error response ∧
      Response.Mirrors (Stands config.tag) response (allocator.direct real state).1 := by
  cases h with
  | malloc => cases reaches
  | calloc => cases reaches
  | realloc => cases reaches
  | free h =>
    have null := h.null
    simp only [Request.reaches, Bool.not_eq_false'] at reaches
    refine ⟨.freed, by simp_all [forward], ?_⟩
    rw [Allocator.direct, if_pos reaches]
    exact .freed
  | usableSize h =>
    have null := h.null
    simp only [Request.reaches, Bool.not_eq_false'] at reaches
    refine ⟨.size 0, by simp_all [forward], ?_⟩
    rw [Allocator.direct, if_pos reaches]
    exact .size 0

/-- A call through the interposer changes the allocator as the mirrored call does that is made
directly, and the answers mirror each other. -/
lemma serve_mirrors {state : σ} (h : Request.Mirrors (Stands config.tag) request real)
    (clear : ∀ addr, (allocator.serve real state).1 = .pointer addr →
      isEncoded addr.value = false) :
    (serve allocator config request state).2 = (allocator.direct real state).2 ∧
      Response.Mirrors (Stands config.tag) (serve allocator config request state).1
        (allocator.direct real state).1 := by
  cases reaches : real.reaches with
  | true =>
    rw [serve, forward_of_reaches h reaches, allocator.direct_of_reaches reaches]
    exact ⟨rfl, present_mirrors request clear⟩
  | false =>
    obtain ⟨response, e, mirrors⟩ := forward_of_not_reaches allocator h reaches state
    rw [serve, e]
    exact ⟨(allocator.direct_of_not_reaches reaches state).symm, mirrors⟩

end Interposer

/-! ## Runs -/

namespace Client

/-- How a client names a pointer: null, or what the call of that number returned. -/
abbrev Handle := Option Nat

/-- A call with its answer. -/
structure Exchange (α : Type) where
  request : Request α
  response : Response α

/-- The pointer that a handle names. A call that returned no pointer names null. -/
def Handle.pointer {α : Type} (null : α) (past : List (Exchange α)) (handle : Handle) : α :=
  ((handle.bind (past[·]?)).bind (·.response.pointer?)).getD null

/-- Plays a list of calls against a server, from the calls made so far and the server's state. -/
def play {α σ : Type} (serve : Request α → σ → Response α × σ) (null : α) :
    List (Request Handle) → List (Exchange α) × σ → List (Exchange α) × σ
  | [], state => state
  | call :: calls, (past, state) =>
    let request := call.map (Handle.pointer null past)
    let (response, next) := serve request state
    play serve null calls (past ++ [⟨request, response⟩], next)

/-- Every pointer that the calls pass is null, or was returned to an earlier call. -/
def PassesOwn {α σ : Type} (serve : Request α → σ → Response α × σ) (null : α) :
    List (Request α) → List (Exchange α) × σ → Prop
  | [], _ => True
  | request :: requests, (past, state) =>
    (∀ p ∈ request.pointer?, p = null ∨ ∃ e ∈ past, e.response = .pointer p) ∧
      PassesOwn serve null requests
        (past ++ [⟨request, (serve request state).1⟩], (serve request state).2)

/-- Exchanges whose calls and answers mirror each other. -/
structure Exchange.Mirrors {α β : Type} (R : α → β → Prop) (a : Exchange α) (b : Exchange β) :
    Prop where
  request : Request.Mirrors R a.request b.request
  response : Response.Mirrors R a.response b.response

section

variable {α β σ : Type} {R : α → β → Prop}

/-- A handle names related pointers in two lists of related exchanges. -/
lemma Handle.pointer_mirrors {null : α} {null' : β} (hnull : R null null')
    {past : List (Exchange α)} {past' : List (Exchange β)}
    (h : List.Forall₂ (Exchange.Mirrors R) past past') (handle : Handle) :
    R (handle.pointer null past) (handle.pointer null' past') := by
  cases handle with
  | none => exact hnull
  | some i =>
    induction h generalizing i with
    | nil => exact hnull
    | @cons e e' _ _ he _ ih =>
      cases i with
      | succ i => exact ih i
      | zero =>
        obtain ⟨_, response⟩ := e
        obtain ⟨_, response'⟩ := e'
        cases he.response with
        | pointer h => exact h
        | freed => exact hnull
        | size => exact hnull

/-- A client that plays a call goes on from the answer. -/
lemma play_cons (serve : Request α → σ → Response α × σ) (null : α) (call : Request Handle)
    (calls : List (Request Handle)) (past : List (Exchange α)) (state : σ) :
    play serve null (call :: calls) (past, state) =
      play serve null calls
        (past ++ [⟨call.map (Handle.pointer null past),
          (serve (call.map (Handle.pointer null past)) state).1⟩],
          (serve (call.map (Handle.pointer null past)) state).2) := rfl

/-- Every pointer that a client may pass has a handle. -/
lemma exists_handle {null p : α} {past : List (Exchange α)}
    (own : p = null ∨ ∃ e ∈ past, e.response = .pointer p) :
    ∃ handle, Handle.pointer null past handle = p := by
  rcases own with rfl | ⟨e, mem, response⟩
  · exact ⟨none, rfl⟩
  · obtain ⟨i, h⟩ := List.mem_iff_getElem?.1 mem
    exact ⟨some i, by simp [Handle.pointer, h, response, Response.pointer?]⟩

/-- Every request that a client may make names its pointers by handles. -/
lemma exists_call {null : α} {past : List (Exchange α)} (request : Request α)
    (own : ∀ p ∈ request.pointer?, p = null ∨ ∃ e ∈ past, e.response = .pointer p) :
    ∃ call : Request Handle, call.map (Handle.pointer null past) = request := by
  cases request with
  | malloc size => exact ⟨.malloc size, rfl⟩
  | calloc count size => exact ⟨.calloc count size, rfl⟩
  | realloc p size =>
    obtain ⟨handle, rfl⟩ := exists_handle (own p rfl)
    exact ⟨.realloc handle size, rfl⟩
  | free p =>
    obtain ⟨handle, rfl⟩ := exists_handle (own p rfl)
    exact ⟨.free handle, rfl⟩
  | usableSize p =>
    obtain ⟨handle, rfl⟩ := exists_handle (own p rfl)
    exact ⟨.usableSize handle, rfl⟩

/-- A client whose pointers are null or its own plays some list of calls. -/
lemma exists_play (serve : Request α → σ → Response α × σ) (null : α) (requests : List (Request α))
    (past : List (Exchange α)) (state : σ) (own : PassesOwn serve null requests (past, state)) :
    ∃ calls, (play serve null calls (past, state)).1.map Exchange.request =
      past.map Exchange.request ++ requests := by
  induction requests generalizing past state with
  | nil => exact ⟨[], (List.append_nil _).symm⟩
  | cons request requests ih =>
    obtain ⟨own, rest⟩ := own
    obtain ⟨calls, e⟩ := ih _ _ rest
    obtain ⟨call, rfl⟩ := exists_call request own
    refine ⟨call :: calls, ?_⟩
    rw [play_cons, e, List.map_append, List.append_assoc]
    rfl

end

section

variable {σ : Type} {allocator : Allocator σ} {start : σ}

/-- From exchanges that mirror each other, a client through the interposer and the same client
without it reach the same state of the allocator, and the rest of their exchanges mirror each
other. -/
lemma play_mirrors (config : Config) (canonical : allocator.Canonical start)
    (calls : List (Request Handle))
    {past : List (Exchange PresentedAddr)} {past' : List (Exchange RealAddr)} {state : σ}
    (reach : allocator.Reachable start state)
    (h : List.Forall₂ (Exchange.Mirrors (Stands config.tag)) past past') :
    List.Forall₂ (Exchange.Mirrors (Stands config.tag))
        (play (Interposer.serve allocator config) .null calls (past, state)).1
        (play allocator.direct .null calls (past', state)).1 ∧
      (play (Interposer.serve allocator config) .null calls (past, state)).2 =
        (play allocator.direct .null calls (past', state)).2 := by
  -- the pasts grow together, so that a handle keeps naming related pointers in both runs
  induction calls generalizing past past' state with
  | nil => exact ⟨h, rfl⟩
  | cons call calls ih =>
    have request : Request.Mirrors (Stands config.tag) (call.map (Handle.pointer .null past))
        (call.map (Handle.pointer .null past')) :=
      Request.mirrors_map (Handle.pointer_mirrors (Stands.null_null _) h) call
    obtain ⟨same, response⟩ :=
      Interposer.serve_mirrors request (canonical state reach _ : ∀ addr, _ → _)
    rw [play_cons, play_cons, same]
    exact ih (reach.direct _) (List.rel_append h (.cons ⟨request, response⟩ .nil))

/-- The record of a direct client holds its requests that reach the allocator. -/
lemma log_play (allocator : Allocator σ) (calls : List (Request Handle))
    (past : List (Exchange RealAddr)) (state : σ) {log : List (Request RealAddr)}
    (h : log = (past.map Exchange.request).filter Request.reaches) :
    (play allocator.recorded.direct .null calls (past, state, log)).2.2 =
      ((play allocator.recorded.direct .null calls (past, state, log)).1.map
        Exchange.request).filter Request.reaches := by
  induction calls generalizing past state log with
  | nil => exact h
  | cons call calls ih =>
    rw [play_cons]
    refine ih _ _ ?_
    rw [Allocator.direct_recorded_log, List.map_append, List.filter_append, ← h]
    rfl

/-- No tag bit is set in an address that a direct client passes if its exchanges mirror those of a
client through the interposer. -/
lemma isEncoded_of_mirrors {tag : Tag} {past : List (Exchange PresentedAddr)}
    {past' : List (Exchange RealAddr)} (h : List.Forall₂ (Exchange.Mirrors (Stands tag)) past past') :
    ∀ exchange ∈ past', ∀ addr ∈ exchange.request.pointer?, isEncoded addr.value = false := by
  induction h with
  | nil => exact fun _ mem => nomatch mem
  | @cons exchange exchange' _ _ h _ ih =>
    refine List.forall_mem_cons.2 ⟨?_, ih⟩
    intro addr mem
    have request := h.request
    -- the two requests are fields, which cases on their relation cannot replace
    generalize exchange.request = presented, exchange'.request = real at request mem
    cases request with
    | malloc => cases mem
    | calloc => cases mem
    | realloc size h => cases mem; exact h.clear
    | free h => cases mem; exact h.clear
    | usableSize h => cases mem; exact h.clear

end

end Client

open Client in
/-- The interposer is transparent. Let an allocator return no pointer with a tag bit set, and let a
client play any list of calls once through the interposer and once directly, its free of null and
its question for the size of null left out. Then call for call

* the arguments and the answers are the same, but that a presented pointer in the one run stands in
  the place of the address that it resolves to in the other, null in the place of null,
* the allocator ends up in the same state, having received the same requests in the same order:
  those of the direct client, and none of them with a tag bit set in an address.

The lists of calls cover every client that passes only null and pointers returned to it. -/
theorem Interposer.transparent {σ : Type} (allocator : Allocator σ) (start : σ) (config : Config)
    (canonical : allocator.Canonical start) :
    (∀ calls : List (Request Handle),
      let through := play (serve allocator.recorded config) .null calls ([], start, [])
      let alone := play allocator.recorded.direct .null calls ([], start, [])
      List.Forall₂ (Exchange.Mirrors (Stands config.tag)) through.1 alone.1 ∧
      through.2 = alone.2 ∧
      through.2.2 = (alone.1.map Exchange.request).filter Request.reaches ∧
      ∀ request ∈ through.2.2, ∀ addr ∈ request.pointer?, isEncoded addr.value = false) ∧
    ∀ requests, PassesOwn (serve allocator.recorded config) .null requests ([], start, []) →
      ∃ calls, (play (serve allocator.recorded config) .null calls ([], start, [])).1.map
        Exchange.request = requests := by
  refine ⟨fun calls => ?_, fun requests own => exists_play _ _ requests [] _ own⟩
  obtain ⟨mirrors, same⟩ :=
    play_mirrors config canonical.recorded calls .start .nil
  have log := @log_play _ allocator calls [] start [] rfl
  refine ⟨mirrors, same, same ▸ log, ?_⟩
  intro request mem
  rw [same, log, List.mem_filter, List.mem_map] at mem
  obtain ⟨⟨exchange, mem, rfl⟩, _⟩ := mem
  exact isEncoded_of_mirrors mirrors exchange mem

open Client in
/-- Over a heap of 64 KiB: an object that is small at first is moved to a larger block and freed. -/
theorem Interposer.transparent_over_heap :
    Heap.allocator.Canonical (.fresh 65536, .zeroed) ∧
    let calls : List (Request Handle) := [.malloc 8, .realloc (some 0) 100, .free (some 1)]
    let through :=
      play (serve Heap.allocator.recorded .default) .null calls ([], (.fresh 65536, .zeroed), [])
    through.2.2 = [.malloc 8, .realloc ⟨0x100000000000⟩ 100, .free ⟨0x100000000010⟩] ∧
      ∀ request ∈ through.2.2, ∀ addr ∈ request.pointer?, isEncoded addr.value = false := by
  have canonical := Heap.canonical 65536 (by decide) .zeroed
  refine ⟨canonical, by decide, ?_⟩
  exact ((transparent Heap.allocator _ .default canonical).1 _).2.2.2

end PointerTagging
