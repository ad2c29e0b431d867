import PointerTagging.Proofs.Concurrent.Claim
import PointerTagging.Proofs.Symbol

/-!
# The marks of a thread

A thread marks the symbols whose resolvers it runs. The tables share the marks, so they tell for
which table a resolver runs only as long as no resolver of a symbol, nor any that runs within it,
looks the symbol up in another table (`Marks.step`). If there is one table only, the marks are
exactly the symbols whose resolvers the thread runs in every reachable state (`Reachable.marked`),
so that only a thread that runs the resolver of a symbol is told that the symbol is bootstrapping.
-/

namespace PointerTagging.Concurrent.Symbols

open State

variable {κ : Type}

/-- No lookup of a stack is made within a lookup of its symbol for another table. -/
def Unmixed (stack : List (Frame κ)) : Prop :=
  stack.Pairwise fun inner outer => inner.site.symbol = outer.site.symbol → inner.site = outer.site

/-- The innermost lookup is of the slot of every lookup below it of its symbol. -/
lemma Unmixed.site_eq {frame inner : Frame κ} {below : List (Frame κ)}
    (h : Unmixed (inner :: below)) (mem : frame ∈ below)
    (same : inner.site.symbol = frame.site.symbol) : inner.site = frame.site :=
  List.rel_of_pairwise_cons h mem same

/-- With one table there are no others to look a symbol up in. -/
lemma Unmixed.of_subsingleton [Subsingleton κ] (stack : List (Frame κ)) : Unmixed stack :=
  List.pairwise_of_forall fun _ _ => Site.symbol_inj.mp

variable [DecidableEq κ] {resolver : ThreadId → Site κ → Resolver κ}
variable {todo : ThreadId → List (Site κ)} {s s' : State κ} {t u : ThreadId}

instance (stack : List (Frame κ)) : Decidable (Unmixed stack) :=
  inferInstanceAs (Decidable (List.Pairwise _ stack))

/-- The marks of the thread are the symbols whose resolvers it runs for some table. -/
def Marks (s : State κ) (t : ThreadId) : Prop :=
  ∀ symbol, (s.threads t).resolving.contains symbol = true ↔
    ∃ x : Site κ, x.symbol = symbol ∧ Phase.running ∈ held x (s.threads t).stack

/-- The marks of a thread after the resolver of a slot has left. -/
lemma Marks.leave (h : Marks s t) (unmixed : Unmixed (s.threads t).stack) {site : Site κ}
    {rest : Resolver κ} {below : List (Frame κ)} (staged : ∀ x, ∃ owner, At s x owner)
    (stack : (s.threads t).stack = ⟨site, .running rest⟩ :: below) (symbol : Symbol) :
    ((s.threads t).resolving.erase site.symbol).contains symbol = true ↔
      ∃ x : Site κ, x.symbol = symbol ∧ Phase.running ∈ held x below := by
  rw [SymbolSet.contains_erase, Bool.and_eq_true, h symbol, Bool.not_eq_true',
    decide_eq_false_iff_not, stack]
  constructor
  · rintro ⟨other, x, rfl, running⟩
    obtain ⟨rfl, -⟩ | running := mem_held_cons.mp running
    · exact absurd rfl other
    · exact ⟨x, rfl, running⟩
  · rintro ⟨x, rfl, running⟩
    refine ⟨fun same => ?_, x, rfl, mem_held_cons.mpr (.inr running)⟩
    -- a resolver of the same symbol would be that of the slot itself, which is claimed only once
    obtain ⟨point, mem, -⟩ := exists_frame_of_held running
    obtain rfl : site = x := (stack ▸ unmixed).site_eq mem same
    obtain ⟨owner, stage⟩ := staged site
    rw [stage.held_below stack rfl] at running
    cases running

/-- A step keeps the marks of a thread that does not mix the tables. -/
theorem Marks.step (h : Marks s t) (unmixed : Unmixed (s.threads t).stack)
    (staged : ∀ x, ∃ owner, At s x owner) (transition : Transition resolver s u s') :
    Marks s' t := by
  intro symbol
  -- only the resolvers that the thread of the step enters and leaves change its marks
  by_cases e : t = u
  case neg => rw [transition.others e, h symbol]
  subst e
  have marked := h symbol
  cases transition with
  | rest | spin => exact marked
  | begin stack | ask stack =>
    rw [stack] at marked
    simp only [withStack, setThread, update_same, mem_held_cons, Point.phase?] at marked ⊢
    exact marked.trans (by simp)
  | bootstrap stack | sawFailed stack | readAddr stack | publishReady stack | publishFailed stack =>
    rw [stack] at marked
    simp only [answer, withStack, setThread, modifySlot, update_same, held_tell, mem_held_cons,
      Point.phase?] at marked ⊢
    exact marked.trans (by simp)
  | sawReady stack | sawUnresolved stack | lose stack | claim stack | storeAddr stack
  | countBind stack | complain stack =>
    rw [stack] at marked
    simp only [withStack, setThread, modifySlot, update_same, mem_held_cons, Point.phase?]
      at marked ⊢
    exact marked.trans (by simp)
  | enter stack =>
    rw [stack] at marked
    simp only [setThread, update_same, mem_held_cons, Point.phase?] at marked ⊢
    rw [SymbolSet.contains_insert, Bool.or_eq_true, marked, decide_eq_true_iff]
    constructor
    · rintro (rfl | ⟨x, same, ⟨-, ⟨⟩⟩ | running⟩)
      · exact ⟨_, rfl, .inl ⟨rfl, trivial⟩⟩
      · exact ⟨x, same, .inr running⟩
    · rintro ⟨x, same, ⟨rfl, -⟩ | running⟩
      · exact .inl same
      · exact .inr ⟨x, same, .inr running⟩
  | bind stack | refuse stack =>
    have left := h.leave unmixed staged stack symbol
    simp only [setThread, update_same, mem_held_cons, Point.phase?]
    exact left.trans (by simp)

/-- Threads that have not begun have marked nothing. -/
lemma Marks.initial (todo : ThreadId → List (Site κ)) (t : ThreadId) : Marks (.initial todo) t := by
  intro symbol
  simp [State.initial, held, SymbolSet.contains_empty]

/-- The marks of each thread are the symbols whose resolvers it runs. -/
def Marked (s : State κ) : Prop :=
  ∀ t x, (s.threads t).resolving.contains x.symbol = true ↔
    Phase.running ∈ held x (s.threads t).stack

/-- In every reachable state the marks of each thread are the symbols whose resolvers it runs. -/
theorem Reachable.marked [Subsingleton κ] (h : Reachable resolver todo s) : Marked s := by
  have marks (t : ThreadId) : Marks s t := by
    induction h with
    | initial => exact .initial todo t
    | @step s u reachable ih =>
      exact ih.step (.of_subsingleton _) reachable.staged (s.transition resolver u)
  intro t x
  rw [marks t x.symbol]
  constructor
  · rintro ⟨y, same, running⟩
    exact Site.symbol_inj.mp same ▸ running
  · exact fun running => ⟨x, rfl, running⟩

/-- Only a lookup of a symbol that is marked is told to bootstrap. -/
lemma Transition.bootstrapping (transition : Transition resolver s t s') {u : ThreadId} {x : Site κ}
    (returned : s'.returned = ⟨u, x, .bootstrapping⟩ :: s.returned) :
    u = t ∧ (s.threads t).resolving.contains x.symbol = true := by
  cases transition with
  | bootstrap _ _ mine =>
    obtain ⟨same, -⟩ := List.cons.inj returned
    cases same
    exact ⟨rfl, mine⟩
  | sawFailed | readAddr | publishReady | publishFailed =>
    obtain ⟨same, -⟩ := List.cons.inj returned
    cases same
  | _ => exact absurd returned.symm (List.cons_ne_self _ _)

end PointerTagging.Concurrent.Symbols
