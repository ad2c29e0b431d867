import PointerTagging.Proofs.Session.Reports

/-!
# The trace of a session

A session whose interposer traces its calls differs from one that does not trace them in the lines
that it writes, and in nothing else. A step announces the pointer that is about to be freed, does
what it would do without a trace, and tells what was answered to the call that it ends, if that call
asks for memory (`Machine.step_traced`). So the session without a trace is the one with the trace
less its lines, and these lines are the calls of the session (`Machine.traced`).
-/

namespace PointerTagging

namespace Request

/-- The request asks for memory. -/
def asks {α : Type} : Request α → Bool
  | .malloc _ | .calloc _ _ | .realloc _ _ => true
  | .free _ | .usableSize _ => false

/-- What is asked for does not depend on how pointers are written. -/
lemma asks_map {α β : Type} (f : α → β) (request : Request α) :
    (request.map f).asks = request.asks := by
  cases request <;> rfl

/-- What the trace says when a request is made. -/
def announced : Request PresentedAddr → List Diagnostic
  | .free addr => if addr.isNull then [] else [.free addr]
  | .malloc _ | .calloc _ _ | .realloc _ _ | .usableSize _ => []

end Request

namespace Session

/-- What the trace says when a request is answered. -/
def told (request : Request PresentedAddr) (answer : Answer) : List Diagnostic :=
  match request, answer with
  | .malloc size, .pointer result => [.malloc size ⟨result⟩]
  | .calloc count size, .pointer result => [.calloc count size ⟨result⟩]
  | .realloc addr size, .pointer result => [.realloc addr size ⟨result⟩]
  | _, _ => []

/-- The trace says nothing of the answer to a request that does not ask for memory. -/
lemma told_of_not_asks {request : Request PresentedAddr} (answer : Answer)
    (unasked : request.asks = false) : told request answer = [] := by
  cases request with
  | malloc size | calloc count size | realloc addr size => cases unasked
  | free addr | usableSize addr => rfl

/-- The task of a waiting call asks for memory if the request does. -/
inductive Job.Alike : Job → Prop where
  | lookup : Alike .lookup
  | request {request : Request PresentedAddr} {task : Task} :
    task.request.asks = request.asks → Alike (.request request task)

namespace Image

/-- Who asks the heap for memory is answered with a pointer. -/
lemma exists_real (image : Image) {request : Request RealAddr} (asks : request.asks = true) :
    ∃ addr, (image.real request).1 = .pointer addr := by
  cases request with
  | malloc size => exact ⟨_, rfl⟩
  | calloc count size => exact ⟨_, rfl⟩
  | realloc addr size => exact ⟨_, rfl⟩
  | free addr => cases asks
  | usableSize addr => cases asks

/-- Who asks for memory while the symbol is resolved is answered with a pointer. -/
lemma exists_bootstrap (image : Image) {task : Task} (asks : task.request.asks = true) :
    ∃ addr, (image.bootstrap task).1 = .pointer addr := by
  cases task with
  | malloc size => exact ⟨_, rfl⟩
  | calloc count size =>
    simp only [bootstrap]
    split
    · exact ⟨_, rfl⟩
    · split <;> exact ⟨_, rfl⟩
  | realloc addr size =>
    simp only [bootstrap]
    split <;> exact ⟨_, rfl⟩
  | move chunk kept size => exact ⟨_, rfl⟩
  | free addr => cases asks
  | usableSize addr => cases asks

end Image

namespace Route

/-- The route with the trace switched on or off. -/
def tracing (trace : Bool) : Route → Route
  | .direct config => .direct { config with trace }
  | .layered config => .layered { config with trace }
  | .bare => .bare
  | .exported env => .exported env

variable {route : Route} {config : Config} (interposes : route.Interposes config)

include interposes in
/-- The trace is switched, and nothing else. -/
lemma Interposes.tracing (trace : Bool) :
    (route.tracing trace).Interposes { config with trace } := by
  obtain rfl | rfl := interposes
  · exact .inl rfl
  · exact .inr rfl

/-- The trace does not matter to what a request needs. -/
lemma plan_tracing (route : Route) (trace : Bool) : (route.tracing trace).plan = route.plan := by
  cases route <;> rfl

/-- The trace does not matter to what a pointer means. -/
lemma resolve_tracing (route : Route) (trace : Bool) :
    (route.tracing trace).resolve = (route.tracing false).resolve := by
  cases route <;> rfl

/-- A request that needs no symbol is answered with a pointer if it asks for memory. Else its task
asks for memory if the request does. -/
lemma plan_asks (route : Route) (image : Image) (real : Request RealAddr) :
    match (route.plan image real).1 with
    | .answer response => real.asks = true → ∃ addr, response = .pointer addr
    | .need task => task.request.asks = real.asks := by
  have layered : match image.plan real with
      | .answer response => real.asks = true → ∃ addr, response = .pointer addr
      | .need task => task.request.asks = real.asks := by
    cases real with
    | malloc size | calloc count size => rfl
    | realloc addr size =>
      simp only [Image.plan]
      cases image.arena.usableSize? image.memory addr <;> rfl
    | free addr =>
      simp only [Image.plan]
      cases addr.isNull || image.arena.contains addr
      · rfl
      · rintro ⟨⟩
    | usableSize addr =>
      simp only [Image.plan]
      cases image.arena.usableSize? image.memory addr
      · rfl
      · rintro ⟨⟩
  cases route with
  | direct config => exact image.exists_real
  | bare | layered | exported => exact layered

/-- A request that does not go on does not ask for memory. Else what goes on does if the request
does. -/
lemma enter_asks (route : Route) (image : Image) (request : Request PresentedAddr) :
    match (route.enter image request).1 with
    | .error _ => request.asks = false
    | .ok real => real.asks = request.asks := by
  unfold enter
  cases route.config? with
  | none => exact request.asks_map _
  | some config =>
    cases request with
    | malloc size | calloc count size | realloc addr size => rfl
    | free addr =>
      simp only [Interposer.forward]
      cases addr.isNull <;> rfl
    | usableSize addr =>
      simp only [Interposer.forward]
      cases addr.isNull <;> rfl

include interposes

/-- A request that is traced goes down as one that is not, once it is announced. -/
lemma enter_traced (image : Image) (request : Request PresentedAddr) :
    (route.tracing true).enter image request =
      (route.tracing false).enter (image.report request.announced) request := by
  have traced (trace : Bool) (image : Image) : (route.tracing trace).enter image request =
      match Interposer.forward config request with
      | .error response => (.error response, image)
      | .ok real => (.ok real, image.report (if trace then request.announced else [])) := by
    have before : Interposer.traceBefore { config with trace } request =
        if trace then request.announced else [] := by
      cases request with
      | free addr => cases trace <;> cases h : addr.isNull <;>
          simp [Interposer.traceBefore, Request.announced, h]
      | _ => cases trace <;> rfl
    simp only [enter, (interposes.tracing trace).config?_eq,
      (interposes.tracing trace).configure_eq, before]
    rfl
  rw [traced, traced]
  split
  case h_1 response answered =>
    have unannounced : request.announced = [] := by
      cases request with
      | free addr =>
        simp only [Interposer.forward] at answered
        split at answered
        case isTrue null => simp [Request.announced, null]
        case isFalse => cases answered
      | _ => rfl
    rw [unannounced, Image.report_nil]
  case h_2 => simp only [if_true, Bool.false_eq_true, if_false, Image.report_nil]

/-- An answer that is traced goes up as one that is not, and is told. -/
lemma leave_traced (access : Access) (image : Image) (request : Request PresentedAddr)
    (response : Response RealAddr) :
    let left := (route.tracing false).leave access image request response
    (route.tracing true).leave access image request response =
      (left.1, left.2.report (told request (.ofResponse left.1))) := by
  have after (presented : Response PresentedAddr) :
      Interposer.traceAfter { config with trace := true } request presented =
        told request (.ofResponse presented) := by
    cases request <;> cases presented <;> rfl
  have same (trace : Bool) : Interposer.present { config with trace } = Interposer.present config :=
    rfl
  intro left
  simp only [left, leave, (interposes.tracing _).config?_eq, after, same]
  simp only [Interposer.traceAfter, Bool.false_eq_true, if_false, Image.report_nil]

end Route

/-- The session with the trace switched on or off. -/
def Setup.tracing (trace : Bool) (setup : Setup) : Setup :=
  { setup with route := setup.route.tracing trace }

namespace Machine

variable {setup : Setup} {config : Config} {m plain next : Machine} {height : Nat}

/-- The session with more reports. -/
def report (m : Machine) (reports : List Diagnostic) : Machine := m.rewrite (· ++ reports)

/-- The answer of a session that goes on with no more than `height` running resolvers. -/
def answerWithin (height : Nat) (m : Machine) : Option Answer :=
  if m.halted = none ∧ m.stack.length ≤ height then m.lastAnswer? else none

/-- The call of the allocator that the next step works on: the next call, or if the innermost
resolver is about to return, the one that waits for it. -/
def requested? (m : Machine) : Option (Request PresentedAddr) :=
  match m.next? with
  | some _ => m.asked?
  | none => m.stack.head?.bind (·.job.request?)

/-- What the trace says before a step. -/
def announced (m : Machine) : List Diagnostic := m.asked?.elim [] Request.announced

/-- What the trace says after work on a request. -/
def toldWithin (height : Nat) (request? : Option (Request PresentedAddr)) (next : Machine) :
    List Diagnostic :=
  match request?, next.answerWithin height with
  | some request, some answer => told request answer
  | _, _ => []

/-- The answer to a request is told. -/
lemma toldWithin_eq {answer : Answer} (request : Request PresentedAddr)
    (answered : m.answerWithin height = some answer) :
    m.toldWithin height (some request) = told request answer := by
  simp only [toldWithin, answered]

/-- What the trace says after a step. -/
def completed (m next : Machine) : List Diagnostic :=
  next.toldWithin m.stack.length m.requested?

/-- Nothing is reported. -/
lemma report_nil (m : Machine) : m.report [] = m := by
  rw [report, rewrite, Image.rewrite, List.append_nil]

/-- The machine `next` comes by work on a request that is traced, and `plain` by the same work
without a trace. They differ in what is told, and who asks for memory is answered with a pointer. -/
structure Traced (height : Nat) (request? : Option (Request PresentedAddr)) (plain next : Machine) :
    Prop where
  eq : next = plain.report (plain.toldWithin height request?)
  pointer : ∀ request ∈ request?, request.asks = true →
    ∀ answer ∈ plain.answerWithin height, ∃ result, answer = .pointer result
  alike : ∀ frame ∈ plain.stack, frame.job.Alike

namespace Traced

/-- Work on no request is not told. -/
lemma of_none (alike : ∀ frame ∈ m.stack, frame.job.Alike) : Traced height none m m where
  eq := m.report_nil.symm
  pointer := nofun
  alike := alike

/-- Work that ends in no answer is not told. -/
lemma of_unanswered {request? : Option (Request PresentedAddr)}
    (unanswered : m.answerWithin height = none) (alike : ∀ frame ∈ m.stack, frame.job.Alike) :
    Traced height request? m m where
  eq := by
    have untold : m.toldWithin height request? = [] := by
      unfold toldWithin
      rw [unanswered]
      cases request? <;> rfl
    rw [untold, report_nil]
  pointer := by rw [unanswered]; exact nofun
  alike := alike

/-- Work on a request that ends in an answer is told. -/
lemma of_answer {request : Request PresentedAddr} {answer : Answer}
    (answered : plain.answerWithin height = some answer)
    (pointer : request.asks = true → ∃ result, answer = .pointer result)
    (alike : ∀ frame ∈ plain.stack, frame.job.Alike) :
    Traced height (some request) plain (plain.report (told request answer)) where
  eq := by rw [toldWithin_eq request answered]
  pointer := by
    rintro _ ⟨⟩ asks answer' mem
    rw [answered] at mem
    cases mem
    exact pointer asks
  alike := alike

end Traced

section Functions

variable (interposes : setup.route.Interposes config)
include interposes

/-- A response is delivered, and told. -/
lemma traced_respond (running : m.halted = none) (low : m.stack.length ≤ height)
    (alike : ∀ frame ∈ m.stack, frame.job.Alike) (step : Step) (request : Request PresentedAddr)
    {response : Response RealAddr}
    (pointer : request.asks = true → ∃ addr, response = .pointer addr) :
    Traced height (some request) (m.respond (setup.tracing false) step request response)
      (m.respond (setup.tracing true) step request response) := by
  have answers := answers_respond (setup.tracing false) m step request response
  have answered : (m.respond (setup.tracing false) step request response).answerWithin height =
      some (.ofResponse ((setup.route.tracing false).leave setup.access m.image request
        response).1) := by
    rw [answerWithin, if_pos ⟨answers.halted.trans running, answers.stack ▸ low⟩]
    exact answers.last
  have told : m.respond (setup.tracing true) step request response =
      (m.respond (setup.tracing false) step request response).report (told request
        (.ofResponse ((setup.route.tracing false).leave setup.access m.image request
          response).1)) := by
    rw [respond_eq, respond_eq]
    simp only [Setup.tracing, Route.leave_traced interposes]
    exact deliver_rewrite (· ++ told request _) { m with
      image := ((setup.route.tracing false).leave setup.access m.image request response).2 } step _
  rw [told]
  refine .of_answer answered (fun asks => ?_) (answers.stack ▸ alike)
  obtain ⟨addr, rfl⟩ := pointer asks
  exact exists_leave _ setup.access m.image request addr

/-- A call whose symbol is known goes on. -/
lemma traced_resume (running : m.halted = none) (low : m.stack.length ≤ height)
    (alike : ∀ frame ∈ m.stack, frame.job.Alike) (s : Symbol) (step : Step) {job : Job}
    (same : job.Alike) (found : Lookup) :
    Traced height job.request? (m.resume (setup.tracing false) s step job found)
      (m.resume (setup.tracing true) s step job found) := by
  cases same with
  | lookup =>
    have stack := (sameCourse_resume (setup.tracing false) m s step .lookup found).2.1
    have quiet : m.resume (setup.tracing true) s step .lookup found =
        m.resume (setup.tracing false) s step .lookup found := by cases found <;> rfl
    rw [quiet]
    exact .of_none (stack ▸ alike)
  | @request request task same =>
    cases found with
    | ready addr =>
      refine traced_respond interposes (m := { m with image := (m.image.carryOut task).2 }) running
        low alike step request fun asks => ?_
      exact m.image.exists_real (same.trans asks)
    | bootstrapping =>
      refine traced_respond interposes (m := { m with image := (m.image.bootstrap task).2 }) running
        low alike step request fun asks => ?_
      exact m.image.exists_bootstrap (same.trans asks)
    | failed => exact .of_unanswered (if_neg nofun) alike

/-- A call waits for its symbol, or goes on at once. -/
lemma traced_lookup (running : m.halted = none) (alike : ∀ frame ∈ m.stack, frame.job.Alike)
    (s : Symbol) (step : Step) {job : Job} (same : job.Alike) :
    Traced m.stack.length job.request? (m.lookup (setup.tracing false) s step job)
      (m.lookup (setup.tracing true) s step job) := by
  have resumes (found : Lookup) := traced_resume interposes running (Nat.le_refl m.stack.length)
    alike s step same found
  unfold lookup
  dsimp only
  split
  · exact resumes _
  · exact resumes _
  · split
    · exact resumes _
    · exact .of_unanswered (if_neg nofun) alike
  · refine .of_unanswered (if_neg ?_) (List.forall_mem_cons.2 ⟨same, alike⟩)
    -- the resolver that starts is one more than there were
    rintro ⟨-, le⟩
    exact absurd le (Nat.not_succ_le_self _)

omit interposes in
/-- The answer to a request that does not ask for memory is not told. -/
lemma traced_deliver (running : m.halted = none) (alike : ∀ frame ∈ m.stack, frame.job.Alike)
    (step : Step) {request : Request PresentedAddr} (unasked : request.asks = false)
    (answer : Answer) :
    Traced m.stack.length (some request) (m.deliver step answer) (m.deliver step answer) := by
  have answers := answers_deliver m step answer
  have answered : (m.deliver step answer).answerWithin m.stack.length = some answer := by
    rw [answerWithin, answers.stack, if_pos ⟨answers.halted.trans running, Nat.le_refl _⟩]
    exact answers.last
  have quiet : (m.deliver step answer).report (told request answer) = m.deliver step answer := by
    rw [told_of_not_asks answer unasked, report_nil]
  have pointer (asks : request.asks = true) : ∃ result, answer = .pointer result := by
    rw [unasked] at asks
    cases asks
  have traced : Traced m.stack.length (some request) (m.deliver step answer)
      ((m.deliver step answer).report (told request answer)) :=
    .of_answer answered pointer (answers.stack ▸ alike)
  rwa [quiet] at traced

/-- A request is announced, and told if it is answered. -/
lemma traced_request (running : m.halted = none) (alike : ∀ frame ∈ m.stack, frame.job.Alike)
    (step : Step) (request : Request PresentedAddr) :
    Traced m.stack.length (some request)
      ((m.report request.announced).request (setup.tracing false) step request)
      (m.request (setup.tracing true) step request) := by
  have entered := (setup.route.tracing false).enter_asks (m.image.report request.announced) request
  unfold Machine.request
  simp only [Setup.tracing, Route.enter_traced interposes]
  rw [show (m.report request.announced).image = m.image.report request.announced from rfl]
  generalize (setup.route.tracing false).enter (m.image.report request.announced) request = reached
    at entered ⊢
  obtain ⟨result, image⟩ := reached
  cases result with
  | error response =>
    cases response <;> exact traced_deliver (m := { m with image }) running alike step entered _
  | ok real =>
    have planned := setup.route.plan_asks image real
    simp only [Route.plan_tracing]
    generalize setup.route.plan image real = needed at planned ⊢
    obtain ⟨plan, image⟩ := needed
    cases plan with
    | answer response =>
      exact traced_respond interposes (m := { m with image }) running (Nat.le_refl _) alike step
        request fun asks => planned (entered.trans asks)
    | need task =>
      exact traced_lookup interposes (m := { m with image }) running alike _ step
        (.request (planned.trans entered))

/-- A request that is made is announced, and told if it is answered. -/
lemma traced_call_request (running : m.halted = none) (alike : ∀ frame ∈ m.stack, frame.job.Alike)
    {step : Step} {operands : Request Operand} (kind : step.call = .request operands) :
    let request := operands.map fun operand => (⟨m.value operand⟩ : PresentedAddr)
    Traced m.stack.length (some request)
      ((m.report request.announced).call (setup.tracing false) step)
      (m.call (setup.tracing true) step) := by
  intro request
  have call (setup : Setup) (m : Machine) : m.call setup step = (m.primed step).request setup step
      (operands.map fun operand => ⟨(m.primed step).value operand⟩) := by
    unfold Machine.call
    rw [kind]
    rfl
  have primed : (m.report request.announced).primed step =
      (m.primed step).report request.announced := by
    unfold Machine.primed
    split <;> rfl
  have same : (m.primed step).halted = m.halted ∧ (m.primed step).stack = m.stack ∧
      (m.primed step).value = m.value := by
    unfold Machine.primed
    split <;> exact ⟨rfl, rfl, rfl⟩
  obtain ⟨halted, stack, value⟩ := same
  rw [call, call, primed,
    show ((m.primed step).report request.announced).value = m.value from value, value, ← stack]
  exact traced_request interposes (halted.trans running) (stack ▸ alike) step request

/-- Any other call is neither announced nor told. -/
lemma traced_call (running : m.halted = none) (alike : ∀ frame ∈ m.stack, frame.job.Alike)
    {step : Step} (other : ∀ operands, step.call ≠ .request operands)
    (discreet : step.call ≠ .config) :
    Traced m.stack.length none (m.call (setup.tracing false) step)
      (m.call (setup.tracing true) step) := by
  have same : (m.primed step).halted = m.halted ∧ (m.primed step).stack = m.stack := by
    unfold Machine.primed
    split <;> exact ⟨rfl, rfl⟩
  obtain ⟨halted, stack⟩ := same
  have resolve : (setup.tracing true).route.resolve = (setup.tracing false).route.resolve :=
    setup.route.resolve_tracing true
  unfold Machine.call
  rw [show (if step.forced.isSome then _ else m) = m.primed step from rfl, resolve]
  rw [← stack] at alike ⊢
  rw [← halted] at running
  generalize m.primed step = m at running alike ⊢
  have answers (image : Image) (answer : Answer) :
      Traced m.stack.length none ({ m with image }.deliver step answer)
        ({ m with image }.deliver step answer) :=
    .of_none (by rwa [(answers_deliver { m with image } step answer).stack])
  cases kind : step.call with
  | request operands => exact absurd kind (other operands)
  | write target bytes =>
    dsimp only
    split <;> exact answers _ _
  | read source len =>
    dsimp only
    split <;> exact answers _ _
  | lookup s => exact traced_lookup interposes running alike s step .lookup
  | arenaAlloc size => exact answers _ _
  | arenaContains addr => exact answers _ _
  | arenaUsable addr => exact answers _ _
  | stats => exact answers _ _
  | config => exact absurd kind discreet

end Functions

/-! ## The steps of a session -/

/-- The innermost resolver returns. -/
lemma step_eq_settle (setup : Setup) {frame : Frame} {stack : List Frame}
    (running : m.halted = none) (eq : m.stack = frame :: stack) (idle : m.next? = none) :
    m.step setup = some ({ m with stack }.settle setup frame) := by
  have idle : frame.script = [] := by simpa [next?, eq] using idle
  unfold step
  rw [running]
  simp only [eq, idle]

/-- The calls that wait ask for what their tasks ask for once the next call is begun. -/
lemma alike_begun (alike : ∀ frame ∈ m.stack, frame.job.Alike) :
    ∀ frame ∈ m.begun.stack, frame.job.Alike :=
  m.forall_mem_begun (fun _ _ alike => alike) alike

section Steps

variable (interposes : setup.route.Interposes config)
  (alike : ∀ frame ∈ m.stack, frame.job.Alike) (discreet : ∀ step ∈ m.next?, step.call ≠ .config)
include interposes alike discreet

/-- A step is what it is without a trace, but for what it announces and tells. -/
theorem step_traced (h : m.step (setup.tracing true) = some next) :
    ∃ plain, (m.report m.announced).step (setup.tracing false) = some plain ∧
      Traced m.stack.length m.requested? plain next := by
  obtain ⟨running, ⟨step, call, rfl⟩ | ⟨frame, stack, eq, idle, rfl⟩⟩ := step_cases h
  · obtain ⟨-, labels, length⟩ := m.begun_eq
    have begun : (m.report m.announced).begun = m.begun.report m.announced := by
      unfold Machine.begun
      rw [show (m.report m.announced).stack = m.stack from rfl]
      split <;> rfl
    have halted : m.begun.halted = none := m.halted_begun.trans running
    have requested : m.requested? = m.asked? := by simp only [requested?, call]
    -- the announcement comes first, so the plain step is made from behind it
    refine ⟨_, step_eq_call _ (m := m.report m.announced) running call, ?_⟩
    rw [begun, requested, ← length]
    by_cases asks : ∃ operands, step.call = .request operands
    · obtain ⟨operands, kind⟩ := asks
      have value : m.begun.value = m.value := by
        funext operand
        unfold value
        rw [labels]
      rw [announced, asked?_of_request call kind, ← value]
      exact traced_call_request interposes halted (alike_begun alike) kind
    · have unasked : m.asked? = none := by
        rw [Option.eq_none_iff_forall_ne_some]
        intro request asked
        obtain ⟨operands, kind, -⟩ := exists_operands call asked
        exact asks ⟨operands, kind⟩
      rw [announced, unasked, Option.elim_none, report_nil]
      exact traced_call interposes halted (alike_begun alike)
        (fun operands kind => asks ⟨operands, kind⟩) (discreet step call)
  · have unasked : m.announced = [] := by rw [announced, asked?_of_returns idle, Option.elim_none]
    have requested : m.requested? = frame.job.request? := by
      simp only [requested?, idle, eq, List.head?_cons, Option.bind_some]
    rw [unasked, report_nil]
    refine ⟨_, step_eq_settle _ running eq idle, ?_⟩
    rw [settle_eq _ eq, settle_eq _ eq, requested]
    have below : (m.published setup frame).stack.length ≤ m.stack.length := by
      rw [published, List.length_tail]
      exact Nat.sub_le _ _
    have rest : ∀ other ∈ (m.published setup frame).stack, other.job.Alike :=
      fun other mem => alike other (List.mem_of_mem_tail mem)
    exact traced_resume interposes (m := m.published setup frame) running below rest _ _
      (alike frame (eq ▸ List.mem_cons_self)) _

end Steps

/-! ## The lines of a trace -/

/-- What is announced is a line of the trace. -/
lemma isTrace_of_mem_announced {m : Machine} : ∀ d ∈ m.announced, d.isTrace = true := by
  unfold announced Request.announced
  cases m.asked? with
  | none => exact nofun
  | some request =>
    rw [Option.elim_some]
    split
    · split
      · exact nofun
      · exact List.forall_mem_singleton.2 rfl
    all_goals exact nofun

/-- What is told is a line of the trace. -/
lemma isTrace_of_mem_told {request : Request PresentedAddr} {answer : Answer} :
    ∀ d ∈ told request answer, d.isTrace = true := by
  unfold told
  split
  · exact List.forall_mem_singleton.2 rfl
  · exact List.forall_mem_singleton.2 rfl
  · exact List.forall_mem_singleton.2 rfl
  · exact nofun

/-- What is told after work on a request is a line of the trace. -/
lemma isTrace_of_mem_toldWithin {request? : Option (Request PresentedAddr)} :
    ∀ d ∈ next.toldWithin height request?, d.isTrace = true := by
  unfold toldWithin
  split
  · exact isTrace_of_mem_told
  · exact nofun

/-- Who asks for memory is answered with a pointer, and one line is told. -/
lemma exists_told {request : Request PresentedAddr} (asks : request.asks = true) (result : UInt64) :
    ∃ d, told request (.pointer result) = [d] := by
  cases request with
  | malloc size | calloc count size | realloc addr size => exact ⟨_, rfl⟩
  | free addr | usableSize addr => cases asks

/-- The session without the lines of its trace. -/
def untraced (m : Machine) : Machine := m.rewrite (List.filter fun d => !d.isTrace)

/-- Lines of the trace are not among the other lines. -/
lemma untraced_report {reports : List Diagnostic} (trace : ∀ d ∈ reports, d.isTrace = true) :
    (m.report reports).untraced = m.untraced := by
  have none : reports.filter (fun d => !d.isTrace) = [] :=
    List.filter_eq_nil_iff.2 fun d mem => by simp [trace d mem]
  simp only [untraced, report, rewrite, Image.rewrite, List.filter_append, none, List.append_nil]

/-- A session that is over is over without its trace. -/
lemma step_untraced_eq_none {setup' : Setup} (h : m.step setup = none) :
    m.untraced.step setup' = none := by
  unfold step at h ⊢
  rw [show m.untraced.halted = m.halted from rfl, show m.untraced.stack = m.stack from rfl,
    show m.untraced.todo = m.todo from rfl]
  split at h
  case h_1 => rfl
  case h_2 =>
    split at h
    · split at h
      · rfl
      · cases h
    · split at h <;> cases h

/-- The calls of a session, as they are announced and told. -/
def transcript (setup : Setup) (m : Machine) : Nat → List Diagnostic
  | 0 => []
  | n + 1 =>
    match (after setup n m).step setup with
    | none => transcript setup m n
    | some next => transcript setup m n ++ (after setup n m).announced ++
        (after setup n m).completed next

/-- A traced session and the calls in its trace. -/
structure Transcribes (transcript : List Diagnostic) (plain traced : Machine) : Prop where
  eq : plain = traced.untraced
  trace : traced.image.reports.filter Diagnostic.isTrace = transcript
  session : ∀ d ∈ traced.image.reports, d.isSession = true
  alike : ∀ frame ∈ traced.stack, frame.job.Alike

/-- A step adds to the trace what it announces and tells, and nothing else. -/
lemma Transcribes.step {transcript : List Diagnostic} (interposes : setup.route.Interposes config)
    (transcribes : Transcribes transcript plain m)
    (discreet : ∀ step ∈ m.next?, step.call ≠ .config)
    (h : m.step (setup.tracing true) = some next) :
    ∃ plain', plain.step (setup.tracing false) = some plain' ∧
      Transcribes (transcript ++ m.announced ++ m.completed next) plain' next := by
  have silent : (setup.tracing false).route.Interposes { config with trace := false } :=
    interposes.tracing false
  obtain ⟨last, first, traced⟩ := step_traced interposes transcribes.alike discreet h
  obtain ⟨new, symbols, reports⟩ := exists_reported silent rfl first
  obtain ⟨rfl, -, alike⟩ := traced
  have told : (last.report (last.toldWithin m.stack.length m.requested?)).toldWithin m.stack.length
      m.requested? = last.toldWithin m.stack.length m.requested? := rfl
  -- between what is announced and what is told the step reports about symbols only
  have written : (last.report (last.toldWithin m.stack.length m.requested?)).image.reports =
      m.image.reports ++ m.announced ++ new ++ last.toldWithin m.stack.length m.requested? :=
    congrArg (· ++ _) reports
  refine ⟨last.untraced, ?step, ⟨?eq, ?trace, ?session, alike⟩⟩
  case step =>
    have step := step_rewrite silent rfl
      (.filter (p := fun d => !d.isTrace) fun _ => rfl) (m.report m.announced)
    rw [first] at step
    rw [transcribes.eq, ← untraced_report isTrace_of_mem_announced]
    exact step
  case eq => exact (untraced_report isTrace_of_mem_toldWithin).symm
  case trace =>
    have quiet : new.filter Diagnostic.isTrace = [] := by
      refine List.filter_eq_nil_iff.2 fun d mem => ?_
      obtain ⟨error, rfl⟩ := symbols d mem
      exact Bool.false_ne_true
    have announced := List.filter_eq_self.2 (isTrace_of_mem_announced (m := m))
    have completed : (last.toldWithin m.stack.length m.requested?).filter Diagnostic.isTrace =
        last.toldWithin m.stack.length m.requested? :=
      List.filter_eq_self.2 isTrace_of_mem_toldWithin
    rw [written, Machine.completed, told]
    simp only [List.filter_append, transcribes.trace, announced, quiet, completed, List.append_nil]
  case session =>
    have of_trace {d : Diagnostic} (trace : d.isTrace = true) : d.isSession = true := by
      cases d <;> first | rfl | cases trace
    intro d mem
    rw [written] at mem
    simp only [List.mem_append] at mem
    obtain ((old | announced) | symbol) | told := mem
    · exact transcribes.session d old
    · exact of_trace (isTrace_of_mem_announced d announced)
    · obtain ⟨error, rfl⟩ := symbols d symbol
      rfl
    · exact of_trace (isTrace_of_mem_toldWithin d told)

/-- A session that is traced is the one that is not, with the calls that it makes. -/
theorem transcribes_after (interposes : setup.route.Interposes config)
    (m : Machine) (unwritten : m.image.reports = []) (idle : m.stack = []) (n : Nat)
    (discreet : ∀ i < n, ∀ step ∈ (after (setup.tracing true) i m).next?, step.call ≠ .config) :
    Transcribes (transcript (setup.tracing true) m n) (after (setup.tracing false) n m)
      (after (setup.tracing true) n m) := by
  induction n with
  | zero =>
    refine ⟨?_, ?_, ?_, ?_⟩
    · have none : m.image.reports.filter (fun d => !d.isTrace) = m.image.reports := by
        rw [unwritten, List.filter_nil]
      simp only [after, untraced, rewrite, Image.rewrite, none]
    · simp [after, transcript, unwritten]
    · simp [after, unwritten]
    · simp [after, idle]
  | succ n ih =>
    have before := ih fun i lt => discreet i (Nat.lt_succ_of_lt lt)
    rw [after_succ, after_succ, transcript]
    cases h : (after (setup.tracing true) n m).step (setup.tracing true) with
    | none =>
      have stopped : (after (setup.tracing false) n m).step (setup.tracing false) = none := by
        rw [before.eq]
        exact step_untraced_eq_none h
      rw [stopped]
      exact before
    | some next =>
      obtain ⟨plain, first, after⟩ := before.step interposes (discreet n (Nat.lt_succ_self n)) h
      rw [first]
      exact after

/-- Tracing is invisible and faithful. Take any session through an interposer, straight over the
heap or over the symbol table, with any resolvers, whatever they call; in which no call asks for the
configuration. Play it with the trace switched on, and with the trace switched off. Then after any
number of steps

* the two sessions are the same but for the lines of the trace: their answers, what was asked of the
  heap, their memory, the slots and the arena;
* with the trace off, nothing is written but what is reported about symbols;
* with the trace on, the lines of the trace are those that the steps announce and tell;
* a step announces the pointer that it is about to free, if it is not null, before it does anything
  else, and tells what was answered to the call that it ends after everything else: one line if the
  call asks for memory;
* every line is written whole and fits its buffer, no two calls have the same line, and what a
  session writes on standard error tells what was reported, and in which order. -/
theorem traced {setup : Setup} {config : Config} (interposes : setup.route.Interposes config)
    (heapCapacity capacity : Nat) (script : List Step) (n : Nat) :
    let first := start (.fresh heapCapacity capacity) script
    let on := fun i => after (setup.tracing true) i first
    let off := fun i => after (setup.tracing false) i first
    (∀ i < n, ∀ step ∈ (on i).next?, step.call ≠ .config) →
      off n = (on n).untraced ∧
      (∀ d ∈ (off n).image.reports, ∃ error, d = .symbol error) ∧
      (on n).image.reports.filter Diagnostic.isTrace = transcript (setup.tracing true) first n ∧
      (∀ i < n, ∀ next, (on i).step (setup.tracing true) = some next →
        (∃ plain, ((on i).report (on i).announced).step (setup.tracing false) = some plain ∧
          next = plain.report ((on i).completed next)) ∧
        ∀ request ∈ (on i).requested?, request.asks = true → ∀ answer ∈ (on i).answer? next,
          ∃ result d, answer = .pointer result ∧ told request answer = [d] ∧
            (on i).completed next = [d]) ∧
      (∀ d : Diagnostic, d.isSession = true →
        d.line = Text.Utf8.ofString lineHead ++ Text.Utf8.ofString d.text ++ [0x0A] ∧
          d.line.length ≤ LineBuffer.capacity) ∧
      (∀ d e : Diagnostic, d.isSession = true → e.isSession = true → d.line = e.line → d = e) ∧
      ∀ reports : List Diagnostic, (∀ d ∈ reports, d.isSession = true) →
        Diagnostic.lines reports = Diagnostic.lines (on n).image.reports →
          reports = (on n).image.reports := by
  intro first on off discreet
  have transcribes (i : Nat) (le : i ≤ n) :
      Transcribes (transcript (setup.tracing true) first i) (off i) (on i) :=
    transcribes_after interposes first rfl rfl i fun j lt => discreet j (Nat.lt_of_lt_of_le lt le)
  have last := transcribes n (Nat.le_refl n)
  refine ⟨last.eq, fun d mem => ?silent, last.trace, fun i lt next h => ?step,
    fun d session => ?line,
    fun d e session session' => Diagnostic.line_injective session session',
    fun reports session => ?read⟩
  case silent =>
    rw [last.eq] at mem
    obtain ⟨mem, quiet⟩ := List.mem_filter.1 mem
    have session := last.session d mem
    cases d with
    | symbol error => exact ⟨error, rfl⟩
    | rejected error => cases session
    | _ => cases quiet
  case step =>
    obtain ⟨plain, step, traced⟩ :=
      step_traced interposes (transcribes i (Nat.le_of_lt lt)).alike (discreet i lt) h
    obtain ⟨rfl, pointer, -⟩ := traced
    refine ⟨⟨plain, step, rfl⟩, fun request asked asks answer answered => ?_⟩
    obtain ⟨result, rfl⟩ := pointer request asked asks answer answered
    obtain ⟨d, line⟩ := exists_told asks result
    refine ⟨result, d, rfl, line, ?_⟩
    generalize plain.report (plain.toldWithin (on i).stack.length (on i).requested?) = next
      at answered ⊢
    rw [completed, Option.mem_def.1 asked, toldWithin_eq request answered, line]
  case line => exact ⟨Diagnostic.line_eq session, Diagnostic.length_line_le session⟩
  case read => exact Diagnostic.lines_injective session last.session

/-- The busy loader: the calls that it makes are told before the one that it resolves a symbol for,
and a pointer is announced before it is freed. -/
theorem traced_nested :
    let first := start (.fresh 65536 1024)
      [⟨.request (.malloc 24), some "a", none⟩, ⟨.request (.free (.label "a")), none, none⟩,
        ⟨.request (.free (.address 0)), none, none⟩]
    let on := fun i => after (busyLoader.tracing true) i first
    let off := fun i => after (busyLoader.tracing false) i first
    off 8 = (on 8).untraced ∧
      (on 8).image.reports.filter Diagnostic.isTrace =
        [.malloc 8 ⟨0x1110000000010⟩, .realloc ⟨0x1110000000010⟩ 40 ⟨0x1110000000030⟩,
          .malloc 24 ⟨0x100000000000⟩, .free ⟨0x100000000000⟩] := by
  intro first on off
  have discreet : ∀ i < 8, ∀ step ∈ (on i).next?, step.call ≠ .config := by decide
  obtain ⟨same, -, trace, -⟩ := @traced busyLoader .default (.inr rfl) 65536 1024 _ 8
    discreet
  have calls : transcript (busyLoader.tracing true) first 8 =
      [.malloc 8 ⟨0x1110000000010⟩, .realloc ⟨0x1110000000010⟩ 40 ⟨0x1110000000030⟩,
        .malloc 24 ⟨0x100000000000⟩, .free ⟨0x100000000000⟩] := by decide
  exact ⟨same, by simpa only using trace.trans calls⟩

end Machine

end Session

end PointerTagging
