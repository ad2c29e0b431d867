import Mathlib.Data.Fintype.EquivFin
import Mathlib.Order.WellFounded
import PointerTagging.Proofs.Concurrent.Lookup

/-!
# Threads that wait for each other

A lookup of a slot that another thread has claimed waits until that thread publishes it. The lookups
on a stack are nested, so a thread that waits for one symbol has claimed only symbols whose resolvers
ask for it (`Nested.asks`). If no two symbols ask for each other, no threads wait for each other
(`Reachable.progress`); if two do, then there are threads that wait forever (`crossing_deadlock`).
-/

namespace PointerTagging.Concurrent.Symbols

open Relation (TransGen)
open State

variable {κ : Type}

/-- What a resolver may still do after it was told the answers of some lookups. -/
inductive Resolver.Rest : Resolver κ → Resolver κ → Prop where
  | all {resolver : Resolver κ} : Rest resolver resolver
  | told {resolver : Resolver κ} {site : Site κ} {next : Lookup → Resolver κ} (answer : Lookup) :
    Rest resolver (.lookup site next) → Rest resolver (next answer)

/-- The resolver of the first symbol may look the second one up. -/
def Asks (resolver : ThreadId → Site κ → Resolver κ) (x y : Site κ) : Prop :=
  ∃ t next, (resolver t x).Rest (.lookup y next)

/-- The lookup of the site was made by the resolver that runs at the top of the stack. -/
def Inner (site : Site κ) : List (Frame κ) → Prop
  | [] => True
  | frame :: _ => ∃ next, frame.point = .running (.lookup site next)

/-- The lookups of a stack are nested: each runs a rest of its resolver, and is made by the resolver
of the next. -/
inductive Nested (resolver : Site κ → Resolver κ) : List (Frame κ) → Prop where
  | nil : Nested resolver []
  | cons {frame : Frame κ} {below : List (Frame κ)} :
    (∀ rest, frame.point = .running rest → (resolver frame.site).Rest rest) →
    Inner frame.site below →
    Nested resolver below →
    Nested resolver (frame :: below)

namespace Nested

variable {resolver : Site κ → Resolver κ} {site : Site κ} {point : Point κ}
variable {below : List (Frame κ)}

/-- The innermost lookup may move to any point that runs a rest of its resolver. -/
lemma move (h : Nested resolver (⟨site, point⟩ :: below)) {point' : Point κ}
    (residual : ∀ rest, point' = .running rest → (resolver site).Rest rest) :
    Nested resolver (⟨site, point'⟩ :: below) := by
  cases h with
  | cons _ inner nested => exact .cons residual inner nested

/-- What lies below a nested lookup is nested, and goes on with its answer. -/
lemma tell (h : Nested resolver (⟨site, point⟩ :: below)) (answer : Lookup) :
    Nested resolver (tell answer below) := by
  cases h with
  | cons _ inner nested =>
    cases nested with
    | nil => exact .nil
    | @cons frame below residual outer nested =>
      obtain ⟨site', point'⟩ := frame
      obtain ⟨next, rfl⟩ := inner
      refine .cons (fun rest e => ?_) outer nested
      cases e
      exact .told answer (residual _ rfl)

/-- A lookup that is not the innermost is in its resolver, which asks for what is above. -/
lemma asks {resolver : ThreadId → Site κ → Resolver κ} {t : ThreadId} {frame : Frame κ}
    (h : Nested (resolver t) (⟨site, point⟩ :: below)) (mem : frame ∈ below) :
    TransGen (Asks resolver) frame.site site ∧ frame.point.phase? = some .running := by
  -- downwards from the innermost lookup, each asks for the one above it
  induction below generalizing site point with
  | nil => cases mem
  | cons top below ih =>
    cases h with
    | cons _ inner nested =>
      obtain ⟨next, running⟩ := inner
      have asks : Asks resolver top.site site := by
        cases nested with
        | cons residual _ _ => exact ⟨t, next, residual _ running⟩
      obtain rfl | mem := List.mem_cons.mp mem
      · exact ⟨.single asks, by rw [running]; rfl⟩
      · obtain ⟨chain, phase⟩ := ih nested mem
        exact ⟨.tail chain asks, phase⟩

end Nested

/-- A thread that spins reads the state of a slot that is being resolved, and not by itself. -/
lemma of_spins {s : State κ} {t : ThreadId} (spins : s.spins t = true) :
    ∃ y below, (s.threads t).stack = ⟨y, .readState⟩ :: below ∧
      (s.slots y).state = .resolving ∧ (s.threads t).resolving.contains y.symbol = false := by
  unfold State.spins at spins
  split at spins
  case h_1 y below stack =>
    simp only [Bool.and_eq_true, beq_iff_eq, Bool.not_eq_true'] at spins
    exact ⟨y, below, stack, spins⟩
  case h_2 => cases spins

/-- No two symbols ask for each other, directly or through the resolvers of others. -/
def Acyclic (resolver : ThreadId → Site κ → Resolver κ) : Prop :=
  ∀ x y, TransGen (Asks resolver) x y → TransGen (Asks resolver) y x → x = y

/-- If every resolver asks only for its own symbol and for symbols of a lower rank, then no two
symbols ask for each other. -/
lemma Acyclic.of_rank {resolver : ThreadId → Site κ → Resolver κ} (rank : Site κ → Nat)
    (asks : ∀ x y, Asks resolver x y → x = y ∨ rank y < rank x) : Acyclic resolver := by
  have chain {x y : Site κ} (h : TransGen (Asks resolver) x y) : x = y ∨ rank y < rank x := by
    induction h with
    | single h => exact asks _ _ h
    | tail _ h ih =>
      obtain rfl | lower := ih
      · exact asks _ _ h
      · obtain rfl | lower' := asks _ _ h
        · exact .inr lower
        · exact .inr (lower'.trans lower)
  intro x y there back
  obtain same | lower := chain there
  · exact same
  · obtain same | lower' := chain back
    · exact same.symm
    · exact absurd lower' (lower.not_gt)

variable [DecidableEq κ] {resolver : ThreadId → Site κ → Resolver κ}
variable {todo : ThreadId → List (Site κ)} {s s' : State κ} {t u : ThreadId}

/-- A step keeps the lookups of its thread nested. -/
lemma Transition.nested (transition : Transition resolver s t s')
    (h : Nested (resolver t) (s.threads t).stack) : Nested (resolver t) (s'.threads t).stack := by
  cases transition with
  | rest | spin => exact h
  | begin stack =>
    simp only [setThread, update_same]
    exact .cons (fun _ running => by cases running) trivial .nil
  | ask stack =>
    rw [stack] at h
    simp only [withStack, setThread, update_same]
    exact .cons (fun _ running => by cases running) ⟨_, rfl⟩ h
  | bootstrap stack | sawFailed stack | readAddr stack | publishReady stack | publishFailed stack =>
    rw [stack] at h
    simp only [answer, withStack, setThread, update_same]
    exact h.tell _
  | enter stack =>
    rw [stack] at h
    simp only [setThread, update_same]
    refine h.move fun rest running => ?_
    cases running
    exact .all
  | sawReady stack | sawUnresolved stack | lose stack | claim stack | bind stack | refuse stack
  | storeAddr stack | countBind stack | complain stack =>
    rw [stack] at h
    simp only [withStack, setThread, update_same]
    exact h.move fun _ running => by cases running

/-- The lookups of each thread are nested in every reachable state. -/
theorem Reachable.nested (h : Reachable resolver todo s) (t : ThreadId) :
    Nested (resolver t) (s.threads t).stack := by
  induction h with
  | initial => exact .nil
  | @step s u _ ih =>
    by_cases e : t = u
    · subst e
      exact (s.transition resolver t).nested ih
    · rw [(s.transition resolver u).others e]
      exact ih

/-- The thread spins on a slot that the other thread has claimed. -/
def WaitsFor (s : State κ) (t u : ThreadId) : Prop :=
  ∃ y below, (s.threads t).stack = ⟨y, .readState⟩ :: below ∧ s.spins t = true ∧
    held y (s.threads u).stack ≠ []

/-- A set of threads of which each waits for another. -/
structure Deadlocked (s : State κ) (threads : Set ThreadId) : Prop where
  nonempty : threads.Nonempty
  waits : ∀ t ∈ threads, ∃ u ∈ threads, u ≠ t ∧ WaitsFor s t u

/-- A thread that waits has claimed only slots whose resolvers ask for the one that it waits for,
and that are not this one. -/
lemma Reachable.claimed_asks [Subsingleton κ] (h : Reachable resolver todo s) {x y : Site κ}
    {below : List (Frame κ)} (stack : (s.threads t).stack = ⟨y, .readState⟩ :: below)
    (spins : s.spins t = true) (claimed : held x (s.threads t).stack ≠ []) :
    TransGen (Asks resolver) x y ∧ x ≠ y := by
  obtain ⟨phase, mem⟩ := List.exists_mem_of_ne_nil _ claimed
  obtain ⟨point, frame_mem, phase_eq⟩ := exists_frame_of_held mem
  -- the innermost lookup has claimed nothing, so the claim is that of a lookup below it
  have below_mem : ⟨x, point⟩ ∈ below := by
    rw [stack] at frame_mem
    obtain e | below_mem := List.mem_cons.mp frame_mem
    · cases e
      cases phase_eq
    · exact below_mem
  obtain ⟨asks, running⟩ := (stack ▸ h.nested t).asks below_mem
  refine ⟨asks, ?_⟩
  rintro rfl
  obtain ⟨y', below', stack', -, unmarked⟩ := of_spins spins
  cases stack.symm.trans stack'
  obtain rfl : phase = .running := Option.some.inj (phase_eq.symm.trans running)
  rw [(h.marked t x).mpr mem] at unmarked
  cases unmarked

/-- A slot that is being resolved is claimed by some thread. -/
lemma Reachable.exists_claimed (h : Reachable resolver todo s) {y : Site κ}
    (resolving : (s.slots y).state = .resolving) : ∃ u, held y (s.threads u).stack ≠ [] := by
  obtain ⟨owner, stage⟩ := h.staged y
  obtain ⟨u, phase, rfl⟩ := stage.stage.owned resolving
  refine ⟨u, ?_⟩
  rw [stage.holds u, phases, if_pos rfl]
  exact List.cons_ne_nil _ _

/-- A thread that spins waits for another. -/
lemma Reachable.exists_waitsFor [Subsingleton κ] (h : Reachable resolver todo s)
    (spins : s.spins t = true) : ∃ u, u ≠ t ∧ WaitsFor s t u := by
  obtain ⟨y, below, stack, resolving, -⟩ := of_spins spins
  obtain ⟨u, claimed⟩ := h.exists_claimed resolving
  refine ⟨u, ?_, y, below, stack, spins, claimed⟩
  rintro rfl
  exact (h.claimed_asks stack spins claimed).2 rfl

/-- The one table has finitely many slots. -/
instance : Finite (Site Unit) :=
  Finite.of_injective (fun x => (⟨x.symbol.index, SymbolSet.index_lt x.symbol⟩ : Fin 8))
    fun _ _ e => Site.symbol_inj.mp (Symbol.index_injective (congrArg Fin.val e))

/-- If no two symbols ask for each other, then there are symbols that none waits for in turn. -/
lemma Acyclic.wellFounded {resolver : ThreadId → Site Unit → Resolver Unit}
    (acyclic : Acyclic resolver) :
    WellFounded fun y x => TransGen (Asks resolver) x y ∧ x ≠ y := by
  have : IsTrans (Site Unit) fun y x => TransGen (Asks resolver) x y ∧ x ≠ y := by
    refine ⟨fun z y x hyz hxy => ⟨hxy.1.trans hyz.1, ?_⟩⟩
    rintro rfl
    exact hxy.2 (acyclic x y hxy.1 hyz.1)
  have : Std.Irrefl fun y x : Site Unit => TransGen (Asks resolver) x y ∧ x ≠ y :=
    ⟨fun _ h => h.2 rfl⟩
  exact Finite.wellFounded_of_trans_of_irrefl _

section Progress

variable {resolver : ThreadId → Site Unit → Resolver Unit} {todo : ThreadId → List (Site Unit)}
variable {s : State Unit}

/-- If no two symbols ask for each other, then no threads wait for each other. -/
lemma Reachable.not_deadlocked (acyclic : Acyclic resolver) (h : Reachable resolver todo s)
    (threads : Set ThreadId) : ¬ Deadlocked s threads := by
  intro deadlock
  -- of the slots that the threads wait for take one that asks for no other of them
  let awaited : Set (Site Unit) :=
    { y | ∃ t ∈ threads, ∃ below, (s.threads t).stack = ⟨y, .readState⟩ :: below }
  have nonempty : awaited.Nonempty := by
    obtain ⟨t, mem⟩ := deadlock.nonempty
    obtain ⟨u, -, -, y, below, stack, -⟩ := deadlock.waits t mem
    exact ⟨y, t, mem, below, stack⟩
  obtain ⟨x, ⟨t, mem, below, stack⟩, least⟩ := acyclic.wellFounded.has_min awaited nonempty
  obtain ⟨u, mem', -, x', below', stack', -, claimed⟩ := deadlock.waits t mem
  cases stack.symm.trans stack'
  obtain ⟨-, -, -, y, below'', stack'', spins, -⟩ := deadlock.waits u mem'
  exact least y ⟨u, mem', below'', stack''⟩ (h.claimed_asks stack'' spins claimed)

/-- If no two symbols ask for each other, then while some lookup has not returned there is a thread
whose next step does not just read a slot again, and no threads wait for each other. -/
theorem Reachable.progress (acyclic : Acyclic resolver) (h : Reachable resolver todo s) :
    ((∃ t, (s.threads t).stack ≠ []) → ∃ t, s.isDone t = false ∧ s.spins t = false) ∧
      ∀ threads, ¬ Deadlocked s threads := by
  refine ⟨fun ⟨t, unreturned⟩ => ?_, h.not_deadlocked acyclic⟩
  by_contra stuck
  have spins (u : ThreadId) (stack : (s.threads u).stack ≠ []) : s.spins u = true := by
    by_contra moves
    refine stuck ⟨u, ?_, by simpa using moves⟩
    simp [isDone, stack]
  -- otherwise the threads that spin wait for each other, since every slot in between has an owner
  refine h.not_deadlocked acyclic { u | s.spins u = true } ⟨⟨t, spins t unreturned⟩, ?_⟩
  intro u mem
  obtain ⟨v, other, waits⟩ := h.exists_waitsFor mem
  refine ⟨v, spins v ?_, other, waits⟩
  obtain ⟨y, -, -, -, claimed⟩ := waits
  intro empty
  rw [empty] at claimed
  exact claimed rfl

/-- A resolver that has answered does nothing more. -/
lemma Resolver.Rest.of_answer {resolution : Resolution} {rest : Resolver Unit}
    (h : Resolver.Rest (.answer resolution) rest) : rest = .answer resolution := by
  induction h with
  | all => rfl
  | told _ _ ih => cases ih

/-- No symbol asks for `malloc` but itself. -/
lemma nesting_acyclic : Acyclic nesting := by
  refine .of_rank (fun x => if x.symbol = .malloc then 1 else 0) fun x y ⟨t, next, rest⟩ => ?_
  cases hx : x.symbol with
  | malloc =>
    cases hy : y.symbol with
    | malloc => exact .inl (Site.symbol_inj.mp (hx.trans hy.symm))
    | _ => exact .inr (by simp)
  | _ =>
    simp only [nesting, hx] at rest
    cases rest.of_answer

/-- The thread that resolves `malloc` waits, and the one that resolves `free` does not. -/
theorem Reachable.progress_nested :
    Acyclic nesting ∧ nestedWait.spins 0 = true ∧
      ∃ t, nestedWait.isDone t = false ∧ nestedWait.spins t = false :=
  ⟨nesting_acyclic, rfl,
    (Reachable.progress nesting_acyclic (Reachable.initial.run _)).1 ⟨0, List.cons_ne_nil _ _⟩⟩

end Progress

/-- The resolvers of `malloc` and `free` look each other up. -/
def crossing (_ : ThreadId) (site : Site Unit) : Resolver Unit :=
  match site.symbol with
  | .malloc => .lookup ⟨(), .free⟩ fun _ => .answer (.ok 0x1000)
  | .free => .lookup ⟨(), .malloc⟩ fun _ => .answer (.ok 0x2000)
  | _ => .answer (.ok 0x3000)

/-- A thread has claimed `malloc` and another one `free`, and the resolver of each looks up the
symbol of the other. -/
def crossed : State Unit :=
  (State.initial fun t => [[⟨(), .malloc⟩], [⟨(), .free⟩]].getD t []).run crossing
    [0, 0, 0, 0, 1, 1, 1, 1, 0, 1]

/-- Two threads whose resolvers look each other's symbols up wait forever. -/
theorem crossing_deadlock :
    Reachable crossing (fun t => [[⟨(), .malloc⟩], [⟨(), .free⟩]].getD t []) crossed ∧
      (crossed.threads 0).stack ≠ [] ∧
      (∀ t, crossed.isDone t = true ∨ crossed.spins t = true) ∧
      ∀ t, crossed.step crossing t = crossed := by
  refine ⟨Reachable.initial.run _, List.cons_ne_nil _ _, fun t => ?_, fun t => ?_⟩
  · match t with
    | 0 => exact .inr rfl
    | 1 => exact .inr rfl
    | t + 2 => exact .inl rfl
  · match t with
    | 0 => rfl
    | 1 => rfl
    | t + 2 => rfl

end PointerTagging.Concurrent.Symbols
