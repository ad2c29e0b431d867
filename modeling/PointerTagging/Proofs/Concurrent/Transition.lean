import Mathlib.Tactic.Lemma
import PointerTagging.Concurrent.SymbolTable

/-!
# Steps of a lookup

What one step of a thread can do to a symbol table, one constructor for each access to a cell
(`Transition`). Every step is one of them (`State.transition`), so that no other proof opens the
definition of a step.
-/

namespace PointerTagging.Concurrent

/-- Replacing the value of a thread twice is replacing it once. -/
@[simp] lemma update_update {α : Type} (values : ThreadId → α) (t : ThreadId) (first second : α) :
    update (update values t first) t second = update values t second := by
  funext u
  unfold update
  split <;> rfl

namespace Symbols

variable {κ : Type}

/-- If there is one table, its symbols tell its slots apart. -/
lemma Site.symbol_inj [Subsingleton κ] {x y : Site κ} : x.symbol = y.symbol ↔ x = y := by
  constructor
  · intro symbol
    obtain ⟨table, symbol'⟩ := x
    obtain ⟨table', symbol''⟩ := y
    obtain rfl : symbol' = symbol'' := symbol
    rw [Subsingleton.elim table table']
  · exact congrArg Site.symbol

namespace State

/-- The state with another stack for a thread. -/
def withStack (s : State κ) (t : ThreadId) (stack : List (Frame κ)) : State κ :=
  s.setThread t { s.threads t with stack }

/-- The state after a lookup has returned to the stack below it. -/
def answer (s : State κ) (t : ThreadId) (site : Site κ) (answer : Lookup)
    (below : List (Frame κ)) : State κ :=
  { s.withStack t (tell answer below) with returned := ⟨t, site, answer⟩ :: s.returned }

end State

open State

/-- What a step of a thread does. -/
inductive Transition [DecidableEq κ] (resolver : ThreadId → Site κ → Resolver κ) (s : State κ)
    (t : ThreadId) : State κ → Prop where
  | rest :
    (s.threads t).stack = [] →
    (s.threads t).todo = [] →
    Transition resolver s t s
  | begin {site : Site κ} {todo : List (Site κ)} :
    (s.threads t).stack = [] →
    (s.threads t).todo = site :: todo →
    Transition resolver s t
      (s.setThread t { s.threads t with stack := [⟨site, .readState⟩], todo })
  | spin {site : Site κ} {below : List (Frame κ)} :
    (s.threads t).stack = ⟨site, .readState⟩ :: below →
    (s.slots site).state = .resolving →
    (s.threads t).resolving.contains site.symbol = false →
    Transition resolver s t s
  | bootstrap {site : Site κ} {below : List (Frame κ)} :
    (s.threads t).stack = ⟨site, .readState⟩ :: below →
    (s.slots site).state = .resolving →
    (s.threads t).resolving.contains site.symbol = true →
    Transition resolver s t (s.answer t site .bootstrapping below)
  | sawReady {site : Site κ} {below : List (Frame κ)} :
    (s.threads t).stack = ⟨site, .readState⟩ :: below →
    (s.slots site).state = .ready →
    Transition resolver s t (s.withStack t (⟨site, .readAddr⟩ :: below))
  | sawFailed {site : Site κ} {below : List (Frame κ)} :
    (s.threads t).stack = ⟨site, .readState⟩ :: below →
    (s.slots site).state = .failed →
    Transition resolver s t (s.answer t site .failed below)
  | sawUnresolved {site : Site κ} {below : List (Frame κ)} :
    (s.threads t).stack = ⟨site, .readState⟩ :: below →
    (s.slots site).state = .unresolved →
    Transition resolver s t (s.withStack t (⟨site, .exchange⟩ :: below))
  | readAddr {site : Site κ} {below : List (Frame κ)} :
    (s.threads t).stack = ⟨site, .readAddr⟩ :: below →
    Transition resolver s t (s.answer t site (.ready (s.slots site).addr) below)
  | lose {site : Site κ} {below : List (Frame κ)} :
    (s.threads t).stack = ⟨site, .exchange⟩ :: below →
    (s.slots site).state ≠ .unresolved →
    Transition resolver s t (s.withStack t (⟨site, .readState⟩ :: below))
  | claim {site : Site κ} {below : List (Frame κ)} :
    (s.threads t).stack = ⟨site, .exchange⟩ :: below →
    (s.slots site).state = .unresolved →
    Transition resolver s t
      ((s.modifySlot site fun slot => { slot with state := .resolving }).withStack t
        (⟨site, .enter⟩ :: below))
  | enter {site : Site κ} {below : List (Frame κ)} :
    (s.threads t).stack = ⟨site, .enter⟩ :: below →
    Transition resolver s t
      { s.setThread t { s.threads t with
          stack := ⟨site, .running (resolver t site)⟩ :: below
          resolving := (s.threads t).resolving.insert site.symbol } with
        started := (t, site) :: s.started }
  | ask {site inner : Site κ} {next : Lookup → Resolver κ} {below : List (Frame κ)} :
    (s.threads t).stack = ⟨site, .running (.lookup inner next)⟩ :: below →
    Transition resolver s t
      (s.withStack t (⟨inner, .readState⟩ :: ⟨site, .running (.lookup inner next)⟩ :: below))
  | bind {site : Site κ} {resolution : Resolution} {addr : UInt64} {below : List (Frame κ)} :
    (s.threads t).stack = ⟨site, .running (.answer resolution)⟩ :: below →
    resolution.bound? = some addr →
    Transition resolver s t
      { s.setThread t { s.threads t with
          stack := ⟨site, .storeAddr addr⟩ :: below
          resolving := (s.threads t).resolving.erase site.symbol } with
        resolutions := (site, resolution) :: s.resolutions }
  | refuse {site : Site κ} {resolution : Resolution} {below : List (Frame κ)} :
    (s.threads t).stack = ⟨site, .running (.answer resolution)⟩ :: below →
    resolution.bound? = none →
    Transition resolver s t
      { s.setThread t { s.threads t with
          stack := ⟨site, .complain (resolution.complaint site.symbol)⟩ :: below
          resolving := (s.threads t).resolving.erase site.symbol } with
        resolutions := (site, resolution) :: s.resolutions }
  | storeAddr {site : Site κ} {addr : UInt64} {below : List (Frame κ)} :
    (s.threads t).stack = ⟨site, .storeAddr addr⟩ :: below →
    Transition resolver s t
      ((s.modifySlot site fun slot => { slot with addr }).withStack t
        (⟨site, .countBind addr⟩ :: below))
  | countBind {site : Site κ} {addr : UInt64} {below : List (Frame κ)} :
    (s.threads t).stack = ⟨site, .countBind addr⟩ :: below →
    Transition resolver s t
      ((s.modifySlot site fun slot => { slot with binds := slot.binds + 1 }).withStack t
        (⟨site, .publishReady addr⟩ :: below))
  | publishReady {site : Site κ} {addr : UInt64} {below : List (Frame κ)} :
    (s.threads t).stack = ⟨site, .publishReady addr⟩ :: below →
    Transition resolver s t
      ((s.modifySlot site fun slot => { slot with state := .ready }).answer t site (.ready addr)
        below)
  | complain {site : Site κ} {error : SymbolError} {below : List (Frame κ)} :
    (s.threads t).stack = ⟨site, .complain error⟩ :: below →
    Transition resolver s t
      { s.withStack t (⟨site, .publishFailed⟩ :: below) with reports := s.reports ++ [error] }
  | publishFailed {site : Site κ} {below : List (Frame κ)} :
    (s.threads t).stack = ⟨site, .publishFailed⟩ :: below →
    Transition resolver s t
      ((s.modifySlot site fun slot => { slot with state := .failed }).answer t site .failed below)

/-- A step leaves every other thread as it is. -/
lemma Transition.others [DecidableEq κ] {resolver : ThreadId → Site κ → Resolver κ}
    {s s' : State κ} {t u : ThreadId} (transition : Transition resolver s t s') (h : u ≠ t) :
    s'.threads u = s.threads u := by
  cases transition with
  | rest | spin => rfl
  | _ => exact update_of_ne _ _ h

namespace State

variable {s : State κ} {t : ThreadId} {frame : Frame κ} {below : List (Frame κ)}

/-- Moving the innermost lookup to another point. -/
lemma goto_eq (h : (s.threads t).stack = frame :: below) (point : Point κ) :
    s.goto t point = s.withStack t ({ frame with point } :: below) := by
  rw [goto]
  simp only [h]
  rfl

/-- Returning from the innermost lookup. -/
lemma finish_eq (h : (s.threads t).stack = frame :: below) (answer : Lookup) :
    s.finish t answer = s.answer t frame.site answer below := by
  rw [finish]
  simp only [h]
  rfl

/-- Telling a resolver an answer only changes what the resolver still does. -/
lemma mem_tell {answer : Lookup} {stack : List (Frame κ)} (mem : frame ∈ tell answer stack) :
    frame ∈ stack ∨ ∃ rest, frame.point = .running rest := by
  unfold tell at mem
  split at mem
  case h_1 site inner next below =>
    obtain rfl | mem := List.mem_cons.mp mem
    · exact .inr ⟨_, rfl⟩
    · exact .inl (List.mem_cons_of_mem _ mem)
  case h_2 => exact .inl mem

/-- Moving the innermost lookup of a thread that was just replaced. -/
@[simp] lemma setThread_goto (s : State κ) (t : ThreadId) (frame : Frame κ)
    (below : List (Frame κ)) (resolving : SymbolSet) (todo : List (Site κ)) (point : Point κ) :
    (s.setThread t ⟨frame :: below, resolving, todo⟩).goto t point =
      s.setThread t ⟨{ frame with point } :: below, resolving, todo⟩ := by
  rw [goto_eq (show ((s.setThread t ⟨frame :: below, resolving, todo⟩).threads t).stack =
    frame :: below by simp only [setThread, update_same])]
  simp only [withStack, setThread, update_same, update_update]

/-- A resolver that binds an address goes on to store it. -/
lemma leave_bind (h : (s.threads t).stack = frame :: below) {site : Site κ}
    {resolution : Resolution} {addr : UInt64} (bound : resolution.bound? = some addr) :
    s.leave t site resolution =
      { s.setThread t { s.threads t with
          stack := { frame with point := .storeAddr addr } :: below
          resolving := (s.threads t).resolving.erase site.symbol } with
        resolutions := (site, resolution) :: s.resolutions } := by
  simp only [leave, bound]
  rw [goto_eq (by simpa only [setThread, update_same] using h)]
  simp only [withStack, setThread, update_same, update_update]

/-- A resolver that binds nothing goes on to report why. -/
lemma leave_refuse (h : (s.threads t).stack = frame :: below) {site : Site κ}
    {resolution : Resolution} (bound : resolution.bound? = none) :
    s.leave t site resolution =
      { s.setThread t { s.threads t with
          stack := { frame with point := .complain (resolution.complaint site.symbol) } :: below
          resolving := (s.threads t).resolving.erase site.symbol } with
        resolutions := (site, resolution) :: s.resolutions } := by
  simp only [leave, bound]
  rw [goto_eq (by simpa only [setThread, update_same] using h)]
  simp only [withStack, setThread, update_same, update_update]

variable [DecidableEq κ]

/-- Moving the innermost lookup after a change to a slot. -/
lemma modifySlot_goto (h : (s.threads t).stack = frame :: below) (site : Site κ)
    (f : Slot → Slot) (point : Point κ) :
    (s.modifySlot site f).goto t point =
      (s.modifySlot site f).withStack t ({ frame with point } :: below) :=
  goto_eq (s := s.modifySlot site f) h point

/-- Returning from the innermost lookup after a change to a slot. -/
lemma modifySlot_finish (h : (s.threads t).stack = frame :: below) (site : Site κ)
    (f : Slot → Slot) (answer : Lookup) :
    (s.modifySlot site f).finish t answer =
      (s.modifySlot site f).answer t frame.site answer below :=
  finish_eq (s := s.modifySlot site f) h answer

/-- Every step is one of the transitions. -/
theorem transition (resolver : ThreadId → Site κ → Resolver κ) (s : State κ) (t : ThreadId) :
    Transition resolver s t (s.step resolver t) := by
  cases stack : (s.threads t).stack with
  | nil =>
    cases todo : (s.threads t).todo with
    | nil =>
      simp only [step, stack, todo]
      exact .rest stack todo
    | cons site todo' =>
      simp only [step, stack, todo, State.begin, setThread, update_same, update_update]
      exact .begin stack todo
  | cons frame below =>
    obtain ⟨site, point⟩ := frame
    cases point with
    | readState =>
      cases state : (s.slots site).state with
      | ready =>
        simp only [step, stack, state, goto_eq stack]
        exact .sawReady stack state
      | failed =>
        simp only [step, stack, state, finish_eq stack]
        exact .sawFailed stack state
      | resolving =>
        cases mine : (s.threads t).resolving.contains site.symbol with
        | true =>
          simp only [step, stack, state, mine, finish_eq stack]
          exact .bootstrap stack state mine
        | false =>
          simp only [step, stack, state, mine]
          exact .spin stack state mine
      | unresolved =>
        simp only [step, stack, state, goto_eq stack]
        exact .sawUnresolved stack state
    | readAddr =>
      simp only [step, stack, finish_eq stack]
      exact .readAddr stack
    | exchange =>
      by_cases state : (s.slots site).state = .unresolved
      · simp only [step, stack, state]
        rw [if_pos trivial, modifySlot_goto stack]
        exact .claim stack state
      · simp only [step, stack, state, goto_eq stack]
        exact .lose stack state
    | enter =>
      simp only [step, stack, setThread_goto]
      exact .enter stack
    | running resolver =>
      cases resolver with
      | lookup inner next =>
        simp only [step, stack, State.begin]
        exact .ask stack
      | answer resolution =>
        simp only [step, stack]
        cases bound : resolution.bound? with
        | some addr =>
          rw [leave_bind stack bound]
          exact .bind stack bound
        | none =>
          rw [leave_refuse stack bound]
          exact .refuse stack bound
    | storeAddr addr =>
      simp only [step, stack]
      rw [modifySlot_goto stack]
      exact .storeAddr stack
    | countBind addr =>
      simp only [step, stack]
      rw [modifySlot_goto stack]
      exact .countBind stack
    | publishReady addr =>
      simp only [step, stack]
      rw [modifySlot_finish stack]
      exact .publishReady stack
    | complain error =>
      simp only [step, stack, goto_eq stack]
      exact .complain stack
    | publishFailed =>
      simp only [step, stack]
      rw [modifySlot_finish stack]
      exact .publishFailed stack

end State

end Symbols

end PointerTagging.Concurrent
