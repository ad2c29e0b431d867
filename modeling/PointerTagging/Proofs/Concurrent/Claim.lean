import PointerTagging.Proofs.Concurrent.Stage
import PointerTagging.Proofs.Concurrent.Transition

/-!
# Who has claimed a slot

A step changes the stage of at most one slot, and only the lookup that has claimed the slot does
(`Transition.effect`). So every reachable slot is at some stage, and of all lookups on all stacks only
that of its owner has claimed it (`Reachable.staged`).
-/

namespace PointerTagging.Concurrent.Symbols

variable {κ : Type}

/-- The phase of a lookup that has claimed its slot. -/
def Point.phase? : Point κ → Option Phase
  | .readState => none
  | .readAddr => none
  | .exchange => none
  | .enter => some .entering
  | .running _ => some .running
  | .storeAddr addr => some (.storing addr)
  | .countBind addr => some (.counting addr)
  | .publishReady addr => some (.publishing addr)
  | .complain _ => some .complaining
  | .publishFailed => some .failing

variable [DecidableEq κ]

/-- The phases of the lookups of a stack that have claimed the slot. -/
def held (x : Site κ) (stack : List (Frame κ)) : List Phase :=
  stack.filterMap fun frame => if frame.site = x then frame.point.phase? else none

/-- What there is to know of the slot. -/
def State.record (s : State κ) (x : Site κ) : Record where
  slot := s.slots x
  starts := s.started.filterMap fun start => if start.2 = x then some start.1 else none
  gave := s.resolutions.filterMap fun given => if given.1 = x then some given.2 else none

/-- What a step of a thread does to a slot: nothing that concerns it, or one change by a lookup of
the thread. -/
inductive Effect (s s' : State κ) (t : ThreadId) (x : Site κ) : Prop where
  | quiet :
    s'.record x = s.record x →
    (∀ u, held x (s'.threads u).stack = held x (s.threads u).stack) →
    Effect s s' t x
  | change {before after : Option Phase} {rest : List Phase} :
    Change t before (s.record x) after (s'.record x) →
    held x (s.threads t).stack = before.toList ++ rest →
    held x (s'.threads t).stack = after.toList ++ rest →
    (∀ u, u ≠ t → held x (s'.threads u).stack = held x (s.threads u).stack) →
    Effect s s' t x

/-- The innermost lookup of a stack counts if it has claimed the slot. -/
lemma held_cons (x site : Site κ) (point : Point κ) (below : List (Frame κ)) :
    held x (⟨site, point⟩ :: below) =
      (if site = x then point.phase? else none).toList ++ held x below := by
  unfold held
  rw [List.filterMap_cons]
  split <;> simp_all

/-- The phases on a stack are those of its lookups. -/
lemma mem_held_cons {x site : Site κ} {point : Point κ} {below : List (Frame κ)} {phase : Phase} :
    phase ∈ held x (⟨site, point⟩ :: below) ↔
      site = x ∧ point.phase? = some phase ∨ phase ∈ held x below := by
  rw [held_cons, List.mem_append]
  split <;> simp_all

/-- A phase on a stack is that of a lookup of the slot. -/
lemma exists_frame_of_held {x : Site κ} {stack : List (Frame κ)} {phase : Phase}
    (mem : phase ∈ held x stack) : ∃ point, ⟨x, point⟩ ∈ stack ∧ point.phase? = some phase := by
  obtain ⟨⟨site, point⟩, frame_mem, claimed⟩ := List.mem_filterMap.mp mem
  split at claimed
  case isTrue same =>
    obtain rfl : site = x := same
    exact ⟨point, frame_mem, claimed⟩
  case isFalse => cases claimed

/-- A resolver that is told an answer keeps running. -/
@[simp] lemma held_tell (x : Site κ) (answer : Lookup) (stack : List (Frame κ)) :
    held x (State.tell answer stack) = held x stack := by
  unfold State.tell
  split
  · simp only [held_cons, Point.phase?]
  · rfl

namespace State

/-- A change to one slot changes its own record. -/
lemma record_modifySlot (s : State κ) (site : Site κ) (f : Slot → Slot) :
    (s.modifySlot site f).record site = { s.record site with slot := f (s.record site).slot } := by
  simp only [record, modifySlot, if_pos]

/-- A change to one slot changes no other record. -/
lemma record_modifySlot_of_ne (s : State κ) {site x : Site κ} (h : x ≠ site) (f : Slot → Slot) :
    (s.modifySlot site f).record x = s.record x := by
  simp only [record, modifySlot, if_neg h]

end State

namespace Effect

variable {s s' : State κ} {t : ThreadId} {site : Site κ} {point : Point κ} {below : List (Frame κ)}

/-- A step that changes no record, and no phase of a lookup that has claimed its slot. -/
lemma of_quiet (others : ∀ u, u ≠ t → s'.threads u = s.threads u)
    (record : ∀ x, s'.record x = s.record x)
    (kept : ∀ x, held x (s'.threads t).stack = held x (s.threads t).stack) {x : Site κ} :
    Effect s s' t x := by
  refine .quiet (record x) fun u => ?_
  by_cases h : u = t
  · rw [h, kept]
  · rw [others u h]

/-- A step that takes the innermost lookup and its slot to the next phase. -/
lemma of_change (after : Option Phase)
    (stack : (s.threads t).stack = ⟨site, point⟩ :: below)
    (others : ∀ u, u ≠ t → s'.threads u = s.threads u)
    (change : Change t point.phase? (s.record site) after (s'.record site))
    (elsewhere : ∀ x, x ≠ site → s'.record x = s.record x)
    (kept : ∀ x, held x (s'.threads t).stack =
      (if site = x then after else none).toList ++ held x below)
    {x : Site κ} : Effect s s' t x := by
  have top := kept x
  have top' : held x (s.threads t).stack =
      (if site = x then point.phase? else none).toList ++ held x below := by
    rw [stack, held_cons]
  by_cases h : site = x
  · subst h
    rw [if_pos rfl] at top top'
    exact .change change top' top fun u h => by rw [others u h]
  · rw [if_neg h] at top top'
    refine .quiet (elsewhere x (Ne.symm h)) fun u => ?_
    by_cases e : u = t
    · rw [e, top, top']
    · rw [others u e]

/-- A step that takes the innermost lookup to the next phase by a change to a cell of its slot. -/
lemma of_slot {after : Option Phase} (f : Slot → Slot)
    (stack : (s.threads t).stack = ⟨site, point⟩ :: below)
    (others : ∀ u, u ≠ t → s'.threads u = s.threads u)
    (change : Change t point.phase? (s.record site) after
      { s.record site with slot := f (s.record site).slot })
    (record : ∀ x, s'.record x = (s.modifySlot site f).record x)
    (kept : ∀ x, held x (s'.threads t).stack =
      (if site = x then after else none).toList ++ held x below)
    {x : Site κ} : Effect s s' t x := by
  refine .of_change after stack others ?_ (fun x h => ?_) kept
  · rw [record, State.record_modifySlot]
    exact change
  · rw [record, State.record_modifySlot_of_ne s h]

end Effect

namespace State

/-- A start of a resolver is added to the record of its symbol. -/
lemma record_start (s : State κ) (t : ThreadId) (site : Site κ) :
    record { s with started := (t, site) :: s.started } site =
      { s.record site with starts := t :: (s.record site).starts } := by
  simp only [record, List.filterMap_cons, if_pos]

/-- A start of a resolver leaves every other record as it was. -/
lemma record_start_of_ne (s : State κ) (t : ThreadId) {site x : Site κ} (h : x ≠ site) :
    record { s with started := (t, site) :: s.started } x = s.record x := by
  simp only [record, List.filterMap_cons, if_neg (Ne.symm h)]

/-- What a resolver answered is added to the record of its symbol. -/
lemma record_resolution (s : State κ) (site : Site κ) (resolution : Resolution) :
    record { s with resolutions := (site, resolution) :: s.resolutions } site =
      { s.record site with gave := resolution :: (s.record site).gave } := by
  simp only [record, List.filterMap_cons, if_pos]

/-- What a resolver answered leaves every other record as it was. -/
lemma record_resolution_of_ne (s : State κ) {site x : Site κ} (resolution : Resolution)
    (h : x ≠ site) :
    record { s with resolutions := (site, resolution) :: s.resolutions } x = s.record x := by
  simp only [record, List.filterMap_cons, if_neg (Ne.symm h)]

end State

open State

/-- What a step does to each slot. -/
theorem Transition.effect {resolver : ThreadId → Site κ → Resolver κ} {s s' : State κ}
    {t : ThreadId} (transition : Transition resolver s t s') (x : Site κ) : Effect s s' t x := by
  have others (u : ThreadId) (h : u ≠ t) : s'.threads u = s.threads u := transition.others h
  cases transition with
  | rest | spin => exact .quiet rfl fun _ => rfl
  | begin stack =>
    refine .of_quiet others (fun _ => rfl) fun x => ?_
    simp only [setThread, update_same, stack, held_cons, Point.phase?, ite_self]
    rfl
  | bootstrap stack | sawFailed stack | readAddr stack =>
    refine .of_quiet others (fun _ => rfl) fun x => ?_
    simp only [answer, withStack, setThread, update_same, stack, held_tell, held_cons, Point.phase?,
      ite_self]
    rfl
  | sawReady stack | sawUnresolved stack | lose stack =>
    refine .of_quiet others (fun _ => rfl) fun x => ?_
    simp only [withStack, setThread, update_same, stack, held_cons, Point.phase?, ite_self]
  | ask stack =>
    refine .of_quiet others (fun _ => rfl) fun x => ?_
    simp only [withStack, setThread, update_same, stack, held_cons, Point.phase?, ite_self]
    rfl
  | claim stack state =>
    refine .of_slot (fun slot => { slot with state := .resolving }) stack others (.claim state)
      (fun _ => rfl) fun x => ?_
    simp only [withStack, setThread, update_same, held_cons, Point.phase?]
  | @enter site below stack =>
    refine .of_change (some .running) stack others ?_ ?_ fun x => ?_
    · exact (record_start s t site).symm ▸ .start
    · exact fun x h => record_start_of_ne s t h
    · simp only [setThread, update_same, held_cons, Point.phase?]
  | @bind site resolution addr below stack bound =>
    refine .of_change (some (.storing addr)) stack others ?_ ?_ fun x => ?_
    · exact (record_resolution s site resolution).symm ▸ .bind bound
    · exact fun x h => record_resolution_of_ne s resolution h
    · simp only [setThread, update_same, held_cons, Point.phase?]
  | @refuse site resolution below stack bound =>
    refine .of_change (some .complaining) stack others ?_ ?_ fun x => ?_
    · exact (record_resolution s site resolution).symm ▸ .refuse bound
    · exact fun x h => record_resolution_of_ne s resolution h
    · simp only [setThread, update_same, held_cons, Point.phase?]
  | storeAddr stack =>
    refine .of_slot (fun slot => { slot with addr := _ }) stack others .store (fun _ => rfl)
      fun x => ?_
    simp only [withStack, setThread, update_same, held_cons, Point.phase?]
  | countBind stack =>
    refine .of_slot (fun slot => { slot with binds := slot.binds + 1 }) stack others .count
      (fun _ => rfl) fun x => ?_
    simp only [withStack, setThread, update_same, held_cons, Point.phase?]
  | publishReady stack =>
    refine .of_slot (fun slot => { slot with state := .ready }) stack others .publish
      (fun _ => rfl) fun x => ?_
    simp only [answer, withStack, setThread, update_same, held_tell, ite_self]
    rfl
  | complain stack =>
    refine .of_change (some .failing) stack others ?_ (fun _ _ => rfl) fun x => ?_
    · exact .complain
    · simp only [withStack, setThread, update_same, held_cons, Point.phase?]
  | publishFailed stack =>
    refine .of_slot (fun slot => { slot with state := .failed }) stack others .fail (fun _ => rfl)
      fun x => ?_
    simp only [answer, withStack, setThread, update_same, held_tell, ite_self]
    rfl

/-- The phases of the claimed slot's lookup that are on the stack of a thread. -/
def phases (owner : Option (ThreadId × Phase)) (t : ThreadId) : List Phase :=
  match owner with
  | some (u, phase) => if t = u then [phase] else []
  | none => []

/-- A thread that holds a slot is its owner, and holds it once. -/
lemma phases_eq_cons {owner : Option (ThreadId × Phase)} {t : ThreadId} {phase : Phase}
    {rest : List Phase} (h : phase :: rest = phases owner t) :
    owner = some (t, phase) ∧ rest = [] := by
  obtain _ | ⟨u, phase'⟩ := owner
  · cases h
  · simp only [phases] at h
    split at h
    case isTrue e =>
      obtain ⟨rfl, rfl⟩ := List.cons.inj h
      exact ⟨by rw [e], rfl⟩
    case isFalse => cases h

/-- The slot is at a stage, and of all lookups only that of its owner has claimed it. -/
structure At (s : State κ) (x : Site κ) (owner : Option (ThreadId × Phase)) : Prop where
  stage : Stage owner (s.record x)
  holds : ∀ t, held x (s.threads t).stack = phases owner t

namespace At

variable {s s' : State κ} {x : Site κ} {owner : Option (ThreadId × Phase)} {t : ThreadId}

/-- At the start no slot is claimed. -/
lemma initial (todo : ThreadId → List (Site κ)) (x : Site κ) : At (.initial todo) x none :=
  ⟨.unclaimed, fun _ => rfl⟩

/-- Only the owner of a slot changes it, and no thread does if there is none, but by a claim. -/
lemma owner_eq (h : At s x owner) {before after : Option Phase} {rest : List Phase}
    {record' : Record} (change : Change t before (s.record x) after record')
    (top : held x (s.threads t).stack = before.toList ++ rest) :
    owner = before.map (t, ·) ∧ rest = [] := by
  have holds : before.toList ++ rest = phases owner t := by rw [← top, h.holds]
  cases before with
  | none =>
    -- a claim finds the slot unresolved, and then it has no owner
    have unclaimed : owner = none :=
      h.stage.unowned (by rw [change.unresolved]; exact fun h => nomatch h)
    subst unclaimed
    exact ⟨rfl, holds⟩
  | some phase => exact phases_eq_cons holds

/-- A step keeps every slot at a stage. -/
theorem step (h : At s x owner) (effect : Effect s s' t x) : ∃ owner', At s' x owner' := by
  cases effect with
  | quiet record kept =>
    exact ⟨owner, record ▸ h.stage, fun u => (kept u).trans (h.holds u)⟩
  | @change before after rest change top top' others =>
    obtain ⟨rfl, rfl⟩ := h.owner_eq change top
    refine ⟨after.map (t, ·), h.stage.change change, fun u => ?_⟩
    by_cases e : u = t
    · rw [e, top']
      cases after <;> simp [phases]
    · rw [others u e, h.holds u]
      cases before <;> cases after <;> simp [phases, e]

/-- A slot that is ready or failed never changes again. -/
theorem settled (h : At s x owner)
    (settled : (s.slots x).state = .ready ∨ (s.slots x).state = .failed)
    (effect : Effect s s' t x) : s'.record x = s.record x := by
  have claimed : (s.record x).slot.state ≠ .resolving := by
    obtain ready | failed := settled
    · exact ready ▸ fun h => nomatch h
    · exact failed ▸ fun h => nomatch h
  cases effect with
  | quiet record => exact record
  | @change before after rest change top top' others =>
    obtain ⟨owned, -⟩ := h.owner_eq change top
    rw [h.stage.unowned claimed] at owned
    cases before with
    | none =>
      have unresolved : (s.slots x).state = .unresolved := change.unresolved
      simp [unresolved] at settled
    | some => cases owned

/-- The owner of a slot is known from the stack of the thread that has claimed it. -/
lemma owned (h : At s x owner) {phase : Phase} (mem : phase ∈ held x (s.threads t).stack) :
    owner = some (t, phase) := by
  rw [h.holds t] at mem
  cases e : phases owner t with
  | nil => simp [e] at mem
  | cons phase' rest =>
    obtain ⟨rfl, rfl⟩ := phases_eq_cons e.symm
    rw [e, List.mem_singleton] at mem
    rw [mem]

/-- A claimed slot is held once, so not by the lookups below the one that claimed it. -/
lemma held_below (h : At s x owner) {point : Point κ} {phase : Phase} {below : List (Frame κ)}
    (stack : (s.threads t).stack = ⟨x, point⟩ :: below) (claimed : point.phase? = some phase) :
    held x below = [] := by
  have holds : phase :: held x below = phases owner t := by
    rw [← h.holds t, stack, held_cons, if_pos rfl, claimed]
    rfl
  exact (phases_eq_cons holds).2

/-- A step moves the state of a slot. -/
lemma moves (h : At s x owner) (effect : Effect s s' t x) :
    Moves (s.slots x).state (s'.slots x).state := by
  cases effect with
  | quiet record =>
    have slot : s'.slots x = s.slots x := congrArg Record.slot record
    exact slot ▸ .stay
  | change change top top' others =>
    obtain ⟨rfl, -⟩ := h.owner_eq change top
    exact h.stage.moves change

end At

variable {resolver : ThreadId → Site κ → Resolver κ} {todo : ThreadId → List (Site κ)} {s : State κ}

/-- Every slot of a reachable state is at some stage. -/
theorem Reachable.staged (h : Reachable resolver todo s) (x : Site κ) : ∃ owner, At s x owner := by
  induction h with
  | initial => exact ⟨none, .initial todo x⟩
  | @step s t _ ih =>
    obtain ⟨owner, stage⟩ := ih
    exact stage.step ((s.transition resolver t).effect x)

/-- A slot that is ready or failed is the same after any further steps. -/
theorem Reachable.settled_run (h : Reachable resolver todo s) {x : Site κ}
    (settled : (s.slots x).state = .ready ∨ (s.slots x).state = .failed)
    (schedule : List ThreadId) : (s.run resolver schedule).record x = s.record x := by
  induction schedule generalizing s with
  | nil => rfl
  | cons t schedule ih =>
    obtain ⟨owner, stage⟩ := h.staged x
    have kept : (s.step resolver t).record x = s.record x :=
      stage.settled settled ((s.transition resolver t).effect x)
    have slot : (s.step resolver t).slots x = s.slots x := congrArg Record.slot kept
    exact (ih (h.step t) (slot ▸ settled)).trans kept

end PointerTagging.Concurrent.Symbols
