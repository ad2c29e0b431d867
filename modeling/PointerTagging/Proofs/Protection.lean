import PointerTagging.Proofs.Transparency

/-!
# The protection class of a pointer

The interposer stores no class: it puts the class into the tag bits of a pointer and reads it back
when the pointer is reallocated. Here the class is said from the history of calls instead. A pointer
is tagged if and only if the object that its address was made for is small (`Interposer.protects`):
by size, the object of the last call that returned the pointer; by inheritance, the object at the
start of its chain of reallocations.
-/

namespace PointerTagging

/-- The size of the object that a call makes: for an array that of one element. -/
def Request.objectSize? {α : Type} : Request α → Option UInt64
  | .malloc size => some size
  | .calloc _ size => some size
  | .realloc _ size => some size
  | .free _ => none
  | .usableSize _ => none

namespace Client

/-- The object size of the last call that returned the pointer, in a history with the latest call
first. -/
def lastSize? : List (Exchange PresentedAddr) → PresentedAddr → Option UInt64
  | [], _ => none
  | exchange :: earlier, p =>
    if exchange.response = .pointer p then exchange.request.objectSize? else lastSize? earlier p

/-- The object size of the call that began the chain of reallocations that the pointer comes from. A
chain that a reallocation of null began has none. -/
def originSize? : List (Exchange PresentedAddr) → PresentedAddr → Option UInt64
  | [], _ => none
  | exchange :: earlier, p =>
    if exchange.response = .pointer p then
      match exchange.request with
      | .malloc size => some size
      | .calloc _ size => some size
      | .realloc q _ => if q.isNull then none else originSize? earlier q
      | .free _ => none
      | .usableSize _ => none
    else originSize? earlier p

/-- The object size that decides on the class of a pointer. -/
def decisiveSize? (policy : ReallocPolicy) (history : List (Exchange PresentedAddr))
    (p : PresentedAddr) : Option UInt64 :=
  match policy with
  | .bySize => lastSize? history p
  | .inherit => originSize? history p

/-- Some call of the history returned the pointer. -/
def Returned {α : Type} (past : List (Exchange α)) (p : α) : Prop :=
  ∃ exchange ∈ past, exchange.response = .pointer p

instance {α : Type} [DecidableEq α] (past : List (Exchange α)) (p : α) :
    Decidable (Returned past p) :=
  inferInstanceAs (Decidable (∃ exchange ∈ past, _))

/-- The pointer is not null, and the object that decides on its class is small. -/
def Deserves (config : Config) (past : List (Exchange PresentedAddr)) (p : PresentedAddr) : Prop :=
  p ≠ .null ∧ ∃ size, decisiveSize? config.policy past.reverse p = some size ∧
    size < config.threshold

/-- Of the pointers that were returned, exactly those carry the tag that deserve it. -/
def Classified (config : Config) (past : List (Exchange PresentedAddr)) : Prop :=
  ∀ p, Returned past p → (p.isTagged config.tag = true ↔ Deserves config past p)

variable {config : Config} {past : List (Exchange PresentedAddr)}
  {exchange : Exchange PresentedAddr} {p : PresentedAddr}

/-- A call that does not return the pointer does not decide on its class. -/
lemma decisiveSize?_append_of_ne (policy : ReallocPolicy) (ne : exchange.response ≠ .pointer p) :
    decisiveSize? policy (past ++ [exchange]).reverse p = decisiveSize? policy past.reverse p := by
  rw [List.reverse_append, List.reverse_singleton, List.singleton_append]
  cases policy with
  | bySize => rw [decisiveSize?, lastSize?, if_neg ne]; rfl
  | inherit => rw [decisiveSize?, originSize?, if_neg ne]; rfl

/-- A handle names null or a pointer that was returned. -/
lemma Handle.pointer_eq_or_returned {α : Type} (null : α) (past : List (Exchange α))
    (handle : Handle) :
    handle.pointer null past = null ∨ Returned past (handle.pointer null past) := by
  cases handle with
  | none => exact .inl rfl
  | some i =>
    cases h : past[i]? with
    | none => simp [Handle.pointer, h]
    | some exchange =>
      have mem : exchange ∈ past := List.mem_iff_getElem?.2 ⟨i, h⟩
      cases e : exchange.response with
      | pointer q => exact .inr ⟨exchange, mem, by simp [Handle.pointer, h, e, Response.pointer?]⟩
      | freed => simp [Handle.pointer, h, e, Response.pointer?]
      | size n => simp [Handle.pointer, h, e, Response.pointer?]

/-- A client's request passes null or a pointer that was returned. -/
lemma passes_own {α : Type} (null : α) (past : List (Exchange α)) (call : Request Handle) :
    ∀ q ∈ (call.map (Handle.pointer null past)).pointer?, q = null ∨ Returned past q := by
  intro q mem
  cases call with
  | malloc size => cases mem
  | calloc count size => cases mem
  | realloc handle size => cases mem; exact handle.pointer_eq_or_returned null past
  | free handle => cases mem; exact handle.pointer_eq_or_returned null past
  | usableSize handle => cases mem; exact handle.pointer_eq_or_returned null past

end Client

namespace Interposer

open Client

variable {σ : Type} {allocator : Allocator σ} {config : Config} {request : Request PresentedAddr}
  {state : σ} {p : PresentedAddr} {past : List (Exchange PresentedAddr)}

/-- A pointer that is returned presents one of the allocator, in the class of the request. -/
lemma exists_of_serve_eq_pointer (h : (serve allocator config request state).1 = .pointer p) :
    ∃ real addr, forward config request = .ok real ∧
      (allocator.serve real state).1 = .pointer addr ∧
      p = (resultClass config request).present addr config.tag := by
  rw [serve] at h
  cases forwarded : forward config request with
  | error response =>
    simp only [forwarded] at h
    cases request with
    | malloc | calloc | realloc => cases forwarded
    | free q | usableSize q =>
      simp only [forward] at forwarded
      split at forwarded
      case isTrue => cases forwarded; cases h
      case isFalse => cases forwarded
  | ok real =>
    simp only [forwarded, present] at h
    cases answer : (allocator.serve real state).1 with
    | pointer addr =>
      rw [answer] at h
      cases h
      exact ⟨real, addr, rfl, answer, rfl⟩
    | freed => rw [answer] at h; cases h
    | size n => rw [answer] at h; cases h

/-- The class of a new pointer is the one that it deserves, if the class of a pointer that comes in
is. -/
lemma resultClass_eq_tagged (classified : Classified config past)
    (own : ∀ q ∈ request.pointer?, q = .null ∨ Returned past q) {response : Response PresentedAddr}
    (h : response = .pointer p) (makes : request.objectSize?.isSome = true) :
    resultClass config request = .tagged ↔
      ∃ size, decisiveSize? config.policy
        (past ++ [(⟨request, response⟩ : Exchange PresentedAddr)]).reverse p = some size ∧
          size < config.threshold := by
  have small (size : UInt64) : config.classify size = .tagged ↔ size < config.threshold := by
    simp [Config.classify, Config.isSmall]
  rw [List.reverse_append, List.reverse_singleton, List.singleton_append]
  subst h
  cases request with
  | malloc size =>
    cases policy : config.policy <;>
      simp [decisiveSize?, lastSize?, originSize?, Request.objectSize?, resultClass, small]
  | calloc count size =>
    cases policy : config.policy <;>
      simp [decisiveSize?, lastSize?, originSize?, Request.objectSize?, resultClass, small]
  | realloc q size =>
    cases policy : config.policy with
    | bySize =>
      simp [decisiveSize?, lastSize?, Request.objectSize?, resultClass, Config.classifyRealloc,
        policy, small]
    | inherit =>
      have incoming : resultClass config (.realloc q size) = .tagged ↔
          q.isTagged config.tag = true := by
        simp [resultClass, Config.classifyRealloc, policy, Config.classifyIncoming]
      have origin : originSize? (⟨.realloc q size, .pointer p⟩ :: past.reverse) p =
          if q.isNull then none else originSize? past.reverse q := by
        rw [originSize?, if_pos rfl]
      rw [incoming, decisiveSize?, origin]
      -- what comes in is null, which begins a chain without an object, or was classified before
      cases null : q.isNull with
      | true => simp [PresentedAddr.isNull_iff.1 null]
      | false =>
        have ne : q ≠ .null := by
          rintro rfl
          cases null
        have returned : Returned past q := (own q rfl).resolve_left ne
        rw [classified q returned, Deserves, policy, decisiveSize?, and_iff_right ne,
          if_neg Bool.false_ne_true]
  | free q => cases makes
  | usableSize q => cases makes

/-- A call keeps the pointers classified. -/
lemma classified_serve (classified : Classified config past)
    (own : ∀ q ∈ request.pointer?, q = .null ∨ Returned past q)
    (clear : ∀ real addr, (allocator.serve real state).1 = .pointer addr →
      isEncoded addr.value = false) :
    Classified config (past ++ [⟨request, (serve allocator config request state).1⟩]) := by
  intro p returned
  by_cases latest : (serve allocator config request state).1 = .pointer p
  case neg =>
    have before : Returned past p := by
      obtain ⟨exchange, mem, e⟩ := returned
      rcases List.mem_append.1 mem with mem | mem
      · exact ⟨exchange, mem, e⟩
      · rw [List.mem_singleton.1 mem] at e
        exact absurd e latest
    rw [classified p before, Deserves, Deserves, decisiveSize?_append_of_ne _ latest]
  case pos =>
    obtain ⟨real, addr, forwarded, answer, e⟩ := exists_of_serve_eq_pointer latest
    have clear := clear real addr answer
    cases null : addr.isNull with
    | true =>
      have e : p = .null := by rw [e, RealAddr.isNull_iff.1 null, Protection.present_null]
      simp [Deserves, e]
    | false =>
      have makes : request.objectSize?.isSome = true := by
        cases request with
        | malloc | calloc | realloc => rfl
        | free q | usableSize q =>
          simp only [forward] at forwarded
          split at forwarded
          case isTrue => cases forwarded
          case isFalse => cases forwarded; cases answer
      have nonnull : p ≠ .null := by
        rw [Ne, ← PresentedAddr.isNull_iff, e, Protection.isNull_present _ _ clear, null]
        exact Bool.false_ne_true
      have tagged : p.isTagged config.tag = true ↔ resultClass config request = .tagged := by
        rw [e, Protection.isTagged_present _ _ clear null, beq_iff_eq]
      rw [tagged, resultClass_eq_tagged classified own latest makes, Deserves,
        and_iff_right nonnull]

end Interposer

namespace Client

/-- A run keeps the pointers classified. -/
lemma classified_play {σ : Type} {allocator : Allocator σ} {start : σ} (config : Config)
    (canonical : allocator.Canonical start) (calls : List (Request Handle))
    {past : List (Exchange PresentedAddr)} {state : σ} (reach : allocator.Reachable start state)
    (classified : Classified config past) :
    Classified config (play (Interposer.serve allocator config) .null calls (past, state)).1 := by
  -- on the calls that are left, from any state that the calls made so far can lead to
  induction calls generalizing past state with
  | nil => exact classified
  | cons call calls ih =>
    rw [play_cons]
    refine ih ?_ ?_
    · rw [Interposer.serve]
      split
      case h_1 => exact reach
      case h_2 real _ => exact reach.serve real
    · exact Interposer.classified_serve classified (passes_own .null past call)
        (canonical state reach)

end Client

open Client in
/-- The tag bits of a pointer tell its history. Let an allocator return no pointer with a tag bit
set, and let a client play any list of calls through the interposer. Then a pointer that any of the
calls has returned, whether it is still live or not, is tagged if and only if it is not null and

* by size, the object of the last call that returned it is small,
* by inheritance, the chain of reallocations that it comes from was begun by the allocation of a
  small object. A chain that a reallocation of null began is never tagged.

Null from the allocator is handed on as null. The lists of calls cover every client that passes only
null and pointers returned to it. -/
theorem Interposer.protects {σ : Type} (allocator : Allocator σ) (start : σ) (config : Config)
    (canonical : allocator.Canonical start) :
    (∀ calls : List (Request Handle),
      let past := (play (serve allocator config) .null calls ([], start)).1
      ∀ p, Returned past p →
        (p.isTagged config.tag = true ↔ p ≠ .null ∧
          ∃ size, decisiveSize? config.policy past.reverse p = some size ∧
            size < config.threshold)) ∧
    (∀ request, present config request (.pointer .null) = .pointer .null) ∧
    ∀ requests, PassesOwn (serve allocator config) .null requests ([], start) →
      ∃ calls, (play (serve allocator config) .null calls ([], start)).1.map Exchange.request =
        requests := by
  refine ⟨fun calls => ?_, fun request => ?_, fun requests own => exists_play _ _ requests [] _ own⟩
  · exact classified_play config canonical calls .start fun p ⟨_, mem, _⟩ => nomatch mem
  · rw [present, Response.map, Protection.present_null]

open Client in
/-- Over a heap of 64 KiB: a small object keeps its tag when it grows, and a chain that begins with
the reallocation of null has none. -/
theorem Interposer.protects_over_heap :
    Heap.allocator.Canonical (.fresh 65536, .zeroed) ∧
    let calls : List (Request Handle) := [.malloc 8, .realloc (some 0) 100, .realloc none 4]
    let past := (play (serve Heap.allocator .default) .null calls ([], .fresh 65536, .zeroed)).1
    decisiveSize? .inherit past.reverse ⟨0x1100000000010⟩ = some 8 ∧
      (⟨0x1100000000010⟩ : PresentedAddr).isTagged Config.default.tag = true ∧
      decisiveSize? .inherit past.reverse ⟨0x100000000080⟩ = none ∧
      (⟨0x100000000080⟩ : PresentedAddr).isTagged Config.default.tag ≠ true := by
  have canonical := Heap.canonical 65536 (by decide) .zeroed
  refine ⟨canonical, ?_⟩
  intro calls past
  have classes := (protects Heap.allocator _ .default canonical).1 calls
  have grown : decisiveSize? .inherit past.reverse ⟨0x1100000000010⟩ = some 8 := by decide
  have fresh : decisiveSize? .inherit past.reverse ⟨0x100000000080⟩ = none := by decide
  refine ⟨grown, ?_, fresh, ?_⟩
  · rw [classes ⟨0x1100000000010⟩ (by decide)]
    exact ⟨by decide, 8, grown, by decide⟩
  · rw [Ne, classes ⟨0x100000000080⟩ (by decide)]
    rintro ⟨_, size, e, _⟩
    cases fresh.symm.trans e

end PointerTagging
