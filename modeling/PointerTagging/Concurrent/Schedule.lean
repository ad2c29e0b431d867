/-!
# Threads and schedules

Threads are numbered, and take their steps one at a time in an order that a schedule gives.
-/

namespace PointerTagging.Concurrent

/-- The number of a thread. -/
abbrev ThreadId := Nat

/-- The schedule in which the first `threads` threads take steps in turn, `rounds` times each. -/
def roundRobin (threads rounds : Nat) : List ThreadId :=
  (List.replicate rounds (List.range threads)).flatten

/-- A value for each thread, with that of one thread replaced. -/
def update {α : Type} (values : ThreadId → α) (t : ThreadId) (value : α) : ThreadId → α :=
  fun u => if u = t then value else values u

@[simp] theorem update_same {α : Type} (values : ThreadId → α) (t : ThreadId) (value : α) :
    update values t value t = value := if_pos rfl

theorem update_of_ne {α : Type} (values : ThreadId → α) {t u : ThreadId} (value : α) (h : u ≠ t) :
    update values t value u = values u := if_neg h

/-- True if all elements are equal, as where threads that meet have seen the same. -/
def allEqual {α : Type} [BEq α] : List α → Bool
  | [] => true
  | a :: as => as.all (· == a)

theorem allEqual_of_forall {α : Type} [BEq α] [ReflBEq α] {as : List α} {b : α}
    (h : ∀ a ∈ as, a = b) : allEqual as = true := by
  cases as with
  | nil => rfl
  | cons a as =>
    refine List.all_eq_true.mpr fun c mem => ?_
    rw [h a List.mem_cons_self, h c (List.mem_cons_of_mem a mem)]
    exact BEq.rfl

end PointerTagging.Concurrent
