import PointerTagging.Proofs.Diagnostic
import PointerTagging.Proofs.Session.Course

/-!
# What a session writes

An interposer that does not trace its calls writes nothing. What such a session writes on standard
error is about symbols, and is put behind what was written before, which does not matter to it
(`Machine.step_rewrite`, `Machine.exists_reported`).
-/

namespace PointerTagging.Session

/-- The interposer with this configuration, straight over the heap or over the symbol table. -/
def Route.Interposes (route : Route) (config : Config) : Prop :=
  route = .direct config ∨ route = .layered config

/-- A function of what was reported so far, which lets later reports about symbols through. -/
def Rewrites (f : List Diagnostic → List Diagnostic) : Prop :=
  ∀ reports error, f (reports ++ [.symbol error]) = f reports ++ [.symbol error]

namespace Rewrites

/-- What is put in front lets later reports through. -/
lemma append_left (reports : List Diagnostic) : Rewrites (reports ++ ·) :=
  fun later error => (List.append_assoc reports later [.symbol error]).symm

/-- What removes no reports about symbols lets them through. -/
lemma filter {p : Diagnostic → Bool} (symbols : ∀ error, p (.symbol error) = true) :
    Rewrites (List.filter p) := fun reports error => by
  rw [List.filter_append, List.filter_cons_of_pos (symbols error), List.filter_nil]

end Rewrites

namespace Image

variable (f : List Diagnostic → List Diagnostic) (image : Image)

/-- The process with other reports. -/
def rewrite : Image := { image with reports := f image.reports }

/-- A chunk of the arena is taken without a report. -/
lemma arenaAlloc_rewrite (size : UInt64) :
    (image.rewrite f).arenaAlloc size =
      ((image.arenaAlloc size).1, (image.arenaAlloc size).2.rewrite f) := by
  simp only [arenaAlloc, rewrite]
  cases image.arena.alloc image.memory size <;> rfl

/-- A moved chunk is copied without a report. -/
lemma settle_rewrite (task : Task) (response : Response RealAddr) :
    (image.rewrite f).settle task response = (image.settle task response).rewrite f := by
  unfold settle
  split
  · split <;> rfl
  · rfl

/-- The heap carries a task out without a report. -/
lemma carryOut_rewrite (task : Task) :
    (image.rewrite f).carryOut task =
      ((image.carryOut task).1, (image.carryOut task).2.rewrite f) :=
  congrArg (Prod.mk _) (settle_rewrite f (image.real task.request).2 _ _)

/-- The arena carries a task out without a report. -/
lemma bootstrap_rewrite (task : Task) :
    (image.rewrite f).bootstrap task =
      ((image.bootstrap task).1, (image.bootstrap task).2.rewrite f) := by
  cases task with
  | malloc size => simp only [bootstrap, arenaAlloc_rewrite]
  | calloc count size =>
    simp only [bootstrap]
    cases Word.mul? count size with
    | none => rfl
    | some total =>
      simp only [arenaAlloc_rewrite]
      split <;> rfl
  | realloc addr size =>
    simp only [bootstrap, arenaAlloc_rewrite]
    split <;> rfl
  | move chunk kept size => simp only [bootstrap, arenaAlloc_rewrite, settle_rewrite]
  | free addr => rfl
  | usableSize addr => rfl

/-- A range is set to zero without a report. -/
lemma clear_rewrite (access : Access) (tag : Tag) (addr : PresentedAddr) (len : UInt64) :
    (image.rewrite f).clear access tag addr len = (image.clear access tag addr len).rewrite f := by
  have maps (addr len : Nat) : (image.rewrite f).maps addr len = image.maps addr len := rfl
  unfold clear
  rw [maps]
  split <;> rfl

/-- Nothing is reported. -/
lemma report_nil : image.report [] = image := by
  rw [report, List.append_nil]

end Image

namespace Route

variable {route : Route} {config : Config} (interposes : route.Interposes config)
include interposes

/-- The configuration of the interposer. -/
lemma Interposes.config?_eq : route.config? = some config := by
  obtain rfl | rfl := interposes <;> rfl

/-- A configuration that is given is not read from the settings. -/
lemma Interposes.configure_eq (image : Image) : route.configure image = image := by
  obtain rfl | rfl := interposes <;> rfl

variable (silent : config.trace = false) (f : List Diagnostic → List Diagnostic) (image : Image)
include silent

/-- A request that is not traced goes down without a report. -/
lemma enter_rewrite (request : Request PresentedAddr) :
    route.enter (image.rewrite f) request =
      ((route.enter image request).1, (route.enter image request).2.rewrite f) := by
  have unannounced : Interposer.traceBefore config request = [] := by
    cases request <;> simp [Interposer.traceBefore, silent]
  simp only [enter, interposes.config?_eq, interposes.configure_eq, unannounced, Image.report_nil]
  split <;> rfl

/-- An answer that is not traced goes up without a report. -/
lemma leave_rewrite (access : Access) (request : Request PresentedAddr)
    (response : Response RealAddr) :
    route.leave access (image.rewrite f) request response =
      ((route.leave access image request response).1,
        (route.leave access image request response).2.rewrite f) := by
  simp only [leave, interposes.config?_eq, Interposer.traceAfter, silent, Bool.false_eq_true,
    if_false, Image.report_nil]
  split
  · simp only [Image.clear_rewrite]
  · rfl

omit interposes silent in
/-- What a request needs is seen without a report. -/
lemma plan_rewrite (route : Route) (request : Request RealAddr) :
    route.plan (image.rewrite f) request =
      ((route.plan image request).1, (route.plan image request).2.rewrite f) := by
  cases route <;> rfl

end Route

namespace Machine

variable {setup : Setup} {config : Config} {f : List Diagnostic → List Diagnostic}
  {m next : Machine}

/-- The session with other reports. -/
def rewrite (f : List Diagnostic → List Diagnostic) (m : Machine) : Machine :=
  { m with image := m.image.rewrite f }

/-- An answer is delivered without a report. -/
lemma deliver_rewrite (f : List Diagnostic → List Diagnostic) (m : Machine) (step : Step)
    (answer : Answer) : (m.rewrite f).deliver step answer = (m.deliver step answer).rewrite f := by
  have label : (m.rewrite f).label step answer = (m.label step answer).rewrite f := by
    unfold label
    split <;> rfl
  unfold deliver
  rw [label]
  dsimp only
  rw [show ((m.label step answer).rewrite f).stack = (m.label step answer).stack from rfl]
  split <;> rfl

section Functions

variable (interposes : setup.route.Interposes config) (silent : config.trace = false)
include interposes silent

/-- A response is delivered without a report. -/
lemma respond_rewrite (m : Machine) (step : Step) (request : Request PresentedAddr)
    (response : Response RealAddr) :
    (m.rewrite f).respond setup step request response =
      (m.respond setup step request response).rewrite f := by
  rw [respond_eq, respond_eq, show (m.rewrite f).image = m.image.rewrite f from rfl,
    Route.leave_rewrite interposes silent]
  exact deliver_rewrite f { m with
    image := (setup.route.leave setup.access m.image request response).2 } step _

variable (rewrites : Rewrites f)
include rewrites

/-- A call whose symbol is known reports that symbol at most. -/
lemma resume_rewrite (m : Machine) (s : Symbol) (step : Step) (job : Job) (found : Lookup) :
    (m.rewrite f).resume setup s step job found = (m.resume setup s step job found).rewrite f := by
  have same : (m.rewrite f).image = m.image.rewrite f := rfl
  cases job with
  | lookup => cases found <;> exact deliver_rewrite f _ _ _
  | request request task =>
    cases found with
    | ready addr =>
      simp only [resume, same, Image.carryOut_rewrite]
      exact respond_rewrite interposes silent { m with image := (m.image.carryOut task).2 } step
        request _
    | bootstrapping =>
      simp only [resume, same, Image.bootstrap_rewrite]
      exact respond_rewrite interposes silent { m with image := (m.image.bootstrap task).2 } step
        request _
    | failed =>
      simp only [resume, rewrite, Image.rewrite, Image.report, rewrites m.image.reports]

/-- A lookup reports its symbol at most. -/
lemma lookup_rewrite (m : Machine) (s : Symbol) (step : Step) (job : Job) :
    (m.rewrite f).lookup setup s step job = (m.lookup setup s step job).rewrite f := by
  unfold lookup
  rw [show (m.rewrite f).image.table = m.image.table from rfl]
  dsimp only
  split
  · exact resume_rewrite interposes silent rewrites m s step job _
  · exact resume_rewrite interposes silent rewrites m s step job _
  · split
    · exact resume_rewrite interposes silent rewrites m s step job _
    · rfl
  · rfl

/-- A request that is not traced reports a symbol at most. -/
lemma request_rewrite (m : Machine) (step : Step) (request : Request PresentedAddr) :
    (m.rewrite f).request setup step request = (m.request setup step request).rewrite f := by
  unfold Machine.request
  rw [show (m.rewrite f).image = m.image.rewrite f from rfl,
    Route.enter_rewrite interposes silent]
  generalize setup.route.enter m.image request = entered
  obtain ⟨result, image⟩ := entered
  cases result with
  | error response => cases response <;> exact deliver_rewrite f { m with image } step _
  | ok real =>
    dsimp only
    rw [Route.plan_rewrite]
    generalize setup.route.plan image real = planned
    obtain ⟨plan, image⟩ := planned
    cases plan with
    | answer response =>
      exact respond_rewrite interposes silent { m with image } step request response
    | need task =>
      exact lookup_rewrite interposes silent rewrites { m with image } _ step _

/-- A call that is not traced reports a symbol at most. -/
lemma call_rewrite (m : Machine) (step : Step) :
    (m.rewrite f).call setup step = (m.call setup step).rewrite f := by
  have primed : (m.rewrite f).primed step = (m.primed step).rewrite f := by
    unfold Machine.primed
    split <;> rfl
  unfold Machine.call
  rw [show (if step.forced.isSome then _ else m.rewrite f) = (m.rewrite f).primed step from rfl,
    show (if step.forced.isSome then _ else m) = m.primed step from rfl, primed]
  generalize m.primed step = m
  have same : (m.rewrite f).image = m.image.rewrite f := rfl
  have value : (m.rewrite f).value = m.value := rfl
  have maps (addr len : Nat) : (m.rewrite f).image.maps addr len = m.image.maps addr len := rfl
  cases step.call with
  | request operands => exact request_rewrite interposes silent rewrites m step _
  | write target bytes =>
    dsimp only
    rw [value, maps]
    split
    · exact deliver_rewrite f { m with image := { m.image with
        memory := m.image.memory.write (setup.route.resolve (m.value target)).toNat bytes } } step _
    · exact deliver_rewrite f m step _
  | read source len =>
    dsimp only
    rw [value, maps]
    split <;> exact deliver_rewrite f m step _
  | lookup s => exact lookup_rewrite interposes silent rewrites m s step .lookup
  | arenaAlloc size =>
    simp only [same, Image.arenaAlloc_rewrite]
    exact deliver_rewrite f { m with image := (m.image.arenaAlloc size).2 } step _
  | arenaContains addr => exact deliver_rewrite f m step _
  | arenaUsable addr => exact deliver_rewrite f m step _
  | stats => exact deliver_rewrite f m step _
  | config =>
    simp only [interposes.configure_eq]
    exact deliver_rewrite f m step _

/-- A resolver that returns reports its symbol at most. -/
lemma settle_rewrite (m : Machine) (frame : Frame) :
    (m.rewrite f).settle setup frame = (m.settle setup frame).rewrite f := by
  unfold Machine.settle
  dsimp only
  rw [← resume_rewrite interposes silent rewrites]
  split
  · simp only [rewrite, Image.rewrite, Image.report, Image.record, List.append_nil]
  · simp only [rewrite, Image.rewrite, Image.report, Image.record, rewrites m.image.reports]

/-- What was reported before does not matter to a session that is not traced. -/
theorem step_rewrite (m : Machine) : (m.rewrite f).step setup = (m.step setup).map (rewrite f) := by
  obtain ⟨image, labels, stack, todo, answered, halted⟩ := m
  cases halted with
  | some halt => rfl
  | none =>
    cases stack with
    | nil =>
      cases todo with
      | nil => rfl
      | cons next todo =>
        exact congrArg some (call_rewrite interposes silent rewrites
          ⟨image, labels, [], todo, answered, none⟩ next)
    | cons frame stack =>
      obtain ⟨s, script, step, job⟩ := frame
      cases script with
      | nil =>
        exact congrArg some (settle_rewrite interposes silent rewrites
          ⟨image, labels, stack, todo, answered, none⟩ ⟨s, [], step, job⟩)
      | cons next script =>
        exact congrArg some (call_rewrite interposes silent rewrites
          ⟨image, labels, ⟨s, script, step, job⟩ :: stack, todo, answered, none⟩ next)

omit rewrites in
/-- A session that is not traced puts reports about symbols behind what was reported before. -/
theorem exists_reported (h : m.step setup = some next) :
    ∃ new, (∀ d ∈ new, ∃ error, d = .symbol error) ∧
      next.image.reports = m.image.reports ++ new := by
  -- the reports of the step are those that it makes where nothing was reported before
  let unwritten := m.rewrite fun _ => []
  have restored : unwritten.rewrite (m.image.reports ++ ·) = m := by
    simp [unwritten, rewrite, Image.rewrite]
  have step := step_rewrite interposes silent (.append_left m.image.reports) unwritten
  rw [restored, h] at step
  obtain ⟨last, first, rfl⟩ := Option.map_eq_some_iff.1 step.symm
  refine ⟨last.image.reports, ?_, rfl⟩
  let symbols : Diagnostic → Bool
    | .symbol _ => true
    | _ => false
  have kept := step_rewrite interposes silent (.filter (p := symbols) fun _ => rfl) unwritten
  rw [show unwritten.rewrite (List.filter symbols) = unwritten from rfl, first] at kept
  have filtered : last.image.reports = last.image.reports.filter symbols :=
    congrArg (fun m => m.image.reports) (Option.some.inj kept)
  intro d mem
  rw [filtered] at mem
  cases d with
  | symbol error => exact ⟨error, rfl⟩
  | _ => exact absurd (List.of_mem_filter mem) Bool.false_ne_true

end Functions

end Machine

end PointerTagging.Session
