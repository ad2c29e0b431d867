import PointerTagging.Proofs.Session.Growth
import PointerTagging.Proofs.Session.Machine

/-!
# Live blocks

The callers of a session, the application and the resolvers, hold pointers. The ledger of a session
lists them with the sizes that were asked for (`Machine.ledger`). Whatever a call does, nested ones
included, the bytes behind these pointers are separate from each other and from the headers of the
arena, and no call but a store of a caller changes them (`Machine.separated`).
-/

namespace PointerTagging

/-- The pointer that a request gives up if it succeeds. -/
def Request.retired? {α : Type} : Request α → Option α
  | .realloc addr _ => some addr
  | .free addr => some addr
  | .malloc _ | .calloc _ _ | .usableSize _ => none

namespace Session

/-- A pointer that a caller holds, and the size that was asked for. -/
structure Holding where
  pointer : PresentedAddr
  size : Nat
  deriving DecidableEq, Repr

/-- The byte is one of those that were asked for. -/
def Holding.Covers (route : Route) (holding : Holding) (a : Nat) : Prop :=
  (route.resolve holding.pointer.value).toNat ≤ a ∧
    a < (route.resolve holding.pointer.value).toNat + holding.size

/-- What the callers hold once a request is answered. A request that asks for memory and is refused
changes nothing. -/
def heldAfter (held : List Holding) (request : Request PresentedAddr) (answer : Answer) :
    List Holding :=
  let kept := held.filter fun holding => request.retired? ≠ some holding.pointer
  match answer.address? with
  | none => kept
  | some addr => if addr = 0 then held else ⟨⟨addr⟩, request.wanted⟩ :: kept

/-- The request that a call makes of the allocator. -/
def Job.request? : Job → Option (Request PresentedAddr)
  | .lookup => none
  | .request r _ => some r

/-- A pointer in the answer is null, or the `wanted` bytes that it stands for are handed out between
`image` and `next`. -/
def Route.Supplies (route : Route) (image next : Image) (wanted : Nat) (answer : Answer) : Prop :=
  ∀ addr ∈ answer.address?, addr = 0 ∨ image.Fresh next (route.resolve addr).toNat wanted

namespace Machine

/-- The request that a call makes. A chunk that is taken straight from the arena is asked for as
well. -/
def request? (m : Machine) : Call → Option (Request PresentedAddr)
  | .request r => some (r.map fun operand => ⟨m.value operand⟩)
  | .arenaAlloc size => some (.malloc size)
  | .write _ _ | .read _ _ | .lookup _ | .arenaContains _ | .arenaUsable _ | .stats
  | .config => none

/-- The request that the next step works on: that of the next call, or if the innermost resolver is
about to return, that of the call that waits for it. -/
def served? (m : Machine) : Option (Request PresentedAddr) :=
  match m.next? with
  | some step => m.request? step.call
  | none => m.stack.head?.bind (·.job.request?)

/-- The latest answer. -/
def lastAnswer? (m : Machine) : Option Answer :=
  match m.stack with
  | [] => m.answered.getLast?.map (·.answer)
  | _ :: _ =>
    match m.image.events.getLast? with
    | some (.inside _ _ answer) => some answer
    | _ => none

/-- The answer that a step gives. One that starts a resolver, or stops the session, gives none. -/
def answer? (m next : Machine) : Option Answer :=
  if next.halted = none ∧ next.stack.length ≤ m.stack.length then next.lastAnswer? else none

/-- What the callers hold after a step. -/
def tally (m next : Machine) (held : List Holding) : List Holding :=
  match m.served?, m.answer? next with
  | some request, some answer => heldAfter held request answer
  | _, _ => held

/-- What the callers hold after some steps of a session. -/
def ledger (setup : Setup) (m : Machine) : Nat → List Holding
  | 0 => []
  | n + 1 =>
    match (after setup n m).step setup with
    | none => ledger setup m n
    | some next => (after setup n m).tally next (ledger setup m n)

/-- The call stores the byte. -/
def StoredBy (setup : Setup) (m : Machine) (call : Call) (a : Nat) : Prop :=
  match call with
  | .write target bytes =>
    (setup.route.resolve (m.value target)).toNat ≤ a ∧
      a < (setup.route.resolve (m.value target)).toNat + bytes.length
  | _ => False

/-- The next call stores the byte. -/
def Stores (setup : Setup) (m : Machine) (a : Nat) : Prop :=
  ∃ step ∈ m.next?, m.StoredBy setup step.call a

/-- A call that stores does so inside the bytes that were asked for with one pointer. -/
def Owns (setup : Setup) (held : List Holding) (m : Machine) (call : Call) : Prop :=
  match call with
  | .write target bytes =>
    ∃ holding ∈ held,
      (setup.route.resolve holding.pointer.value).toNat ≤
          (setup.route.resolve (m.value target)).toNat ∧
        (setup.route.resolve (m.value target)).toNat + bytes.length ≤
          (setup.route.resolve holding.pointer.value).toNat + holding.size
  | _ => True

instance (setup : Setup) (held : List Holding) (m : Machine) :
    (call : Call) → Decidable (m.Owns setup held call)
  | .write _ _ => inferInstanceAs (Decidable (∃ holding ∈ held, _ ∧ _))
  | .request _ | .read _ _ | .lookup _ | .arenaAlloc _ | .arenaContains _ | .arenaUsable _ | .stats
  | .config => isTrue trivial

/-- The next call is a fair one: it stores inside what the callers hold, and no answer of the heap
is forced. -/
def Fair (setup : Setup) (held : List Holding) (m : Machine) : Prop :=
  ∀ step ∈ m.next?, step.forced = none ∧ m.Owns setup held step.call

instance (setup : Setup) (held : List Holding) (m : Machine) : Decidable (m.Fair setup held) :=
  inferInstanceAs (Decidable (∀ step ∈ m.next?, step.forced = none ∧ m.Owns setup held step.call))

end Machine

/-! ## What an answer stands for -/

namespace Route

variable {route : Route} {image next last : Image} {wanted : Nat} {answer : Answer}
  {stored : Nat → Prop}

/-- What an answer stands for stays so. -/
lemma Supplies.before (supplies : route.Supplies image next wanted answer)
    (second : Image.Extends stored next last) : route.Supplies image last wanted answer := by
  intro addr mem
  exact (supplies addr mem).imp_right fun fresh => fresh.before second

/-- What an answer stands for was not handed out before earlier operations either. -/
lemma Supplies.after (first : Image.Extends stored image next)
    (supplies : route.Supplies next last wanted answer) :
    route.Supplies image last wanted answer := by
  intro addr mem
  exact (supplies addr mem).imp_right fun fresh => fresh.after first

/-- An address whose tag bits are clear stands for itself. -/
lemma resolve_of_clear {addr : RealAddr} (clear : isEncoded addr.value = false) :
    route.resolve addr.value = addr.value := by
  unfold resolve
  cases route.config? with
  | none => rfl
  | some config =>
    exact congrArg RealAddr.value (Protection.resolve_present config.tag .plain clear)

/-- The pointer that an interposer presents stands for the bytes of the one that it was given. -/
lemma supplies_leave {response : Response RealAddr} (access : Access) (image' : Image)
    (request : Request PresentedAddr) (provides : image.Provides next wanted response) :
    route.Supplies image next wanted
      (.ofResponse (route.leave access image' request response).1) := by
  cases response with
  | freed =>
    unfold leave
    split <;> exact nofun
  | size n =>
    unfold leave
    split <;> exact nofun
  | pointer addr =>
    unfold leave Supplies resolve
    cases route.config? with
    | none =>
      rintro _ ⟨⟩
      refine provides.imp (fun null => ?_) fun ⟨_, block⟩ => block
      rw [RealAddr.isNull_iff.1 null]
      rfl
    | some config =>
      rintro _ ⟨⟩
      dsimp only
      refine provides.imp (fun null => ?_) fun ⟨clear, block⟩ => ?_
      · rw [RealAddr.isNull_iff.1 null, Protection.present_null]
        rfl
      · rw [Protection.resolve_present config.tag _ clear]
        exact block

/-- A request that does not go on is answered without a pointer. -/
lemma pointer?_enter {request : Request PresentedAddr} {response : Response PresentedAddr}
    (h : route.enter image request = (.error response, next)) : response.pointer? = none := by
  unfold enter at h
  split at h
  case h_1 => cases h
  case h_2 config _ =>
    split at h
    case h_1 e =>
      cases h
      cases request with
      | malloc | calloc | realloc => cases e
      | free addr | usableSize addr =>
        simp only [Interposer.forward] at e
        split at e <;> cases e
        rfl
    case h_2 => cases h

/-- Reading the configuration hands out nothing. -/
lemma extends_configure (orderly : image.Orderly) :
    Image.Extends stored image (route.configure image) := by
  unfold configure
  split
  · split <;> exact .of_same orderly rfl rfl rfl rfl
  · exact .of_same orderly rfl rfl rfl rfl

/-- A request on its way down hands out nothing. -/
lemma extends_enter (orderly : image.Orderly) (request : Request PresentedAddr) :
    Image.Extends stored image (route.enter image request).2 := by
  unfold enter
  split
  · exact .of_same orderly rfl rfl rfl rfl
  · split
    · exact .of_same orderly rfl rfl rfl rfl
    · have configured : Image.Extends stored image (route.configure image) :=
        extends_configure orderly
      exact configured.trans (.of_same configured.orderly rfl rfl rfl rfl)

end Route

/-- An answer that needs no symbol holds no pointer. -/
lemma Image.pointer?_plan {image : Image} {real : Request RealAddr} {response : Response RealAddr}
    (h : image.plan real = .answer response) : response.pointer? = none := by
  cases real with
  | malloc size | calloc count size => cases h
  | realloc addr size =>
    simp only [plan] at h
    split at h <;> cases h
  | free addr | usableSize addr =>
    simp only [plan] at h
    split at h <;> cases h
    rfl

/-! ## The functions of the machine -/

namespace Machine

variable {setup : Setup} {m next : Machine} {stored : Nat → Prop} {image : Image} {height : Nat}
  {request? : Option (Request PresentedAddr)}

/-- The machine `next` comes from `m` by work on a request. It keeps what was handed out before, and
an answer, if one was given by a session with no more than `height` running resolvers, stands for
bytes that were not. -/
structure Served (setup : Setup) (stored : Nat → Prop) (height : Nat)
    (request? : Option (Request PresentedAddr)) (m next : Machine) : Prop where
  growth : Image.Extends stored m.image next.image
  supplies : next.halted = none → next.stack.length ≤ height → ∀ answer ∈ next.lastAnswer?,
    ∀ request ∈ request?, setup.route.Supplies m.image next.image request.wanted answer

/-- Delivering an answer hands out nothing. -/
lemma extends_deliver (orderly : m.image.Orderly) (step : Step) (answer : Answer) :
    Image.Extends stored m.image (m.deliver step answer).image := by
  have label : (m.label step answer).image = m.image := by
    unfold label
    split <;> rfl
  unfold deliver
  dsimp only
  rw [label]
  split
  case h_1 => exact .of_memory orderly rfl rfl rfl rfl rfl fun _ _ _ => rfl
  case h_2 =>
    refine .of_memory orderly rfl rfl ?_ rfl rfl fun _ _ _ => rfl
    change (if step.forced.isSome then none else m.image.heap.forced) = none
    rw [orderly.unforced, ite_self]

/-- The latest answer is the one that was delivered. -/
lemma lastAnswer?_deliver (m : Machine) (step : Step) (answer : Answer) :
    (m.deliver step answer).lastAnswer? = some answer := by
  unfold deliver
  dsimp only
  split
  case h_1 stack => simp [lastAnswer?, stack]
  case h_2 stack => simp [lastAnswer?, stack, Image.record]

namespace Served

/-- An answer is delivered. -/
lemma deliver (growth : Image.Extends stored m.image image) (step : Step) (answer : Answer)
    (supplies : ∀ request ∈ request?, setup.route.Supplies m.image image request.wanted answer) :
    Served setup stored height request? m ({ m with image }.deliver step answer) := by
  have delivered : Image.Extends stored image ({ m with image }.deliver step answer).image :=
    extends_deliver (m := { m with image }) growth.orderly step answer
  refine ⟨growth.trans delivered, fun _ _ answer' last request mem => ?_⟩
  rw [lastAnswer?_deliver] at last
  cases last
  exact (supplies request mem).before delivered

/-- A response is delivered. -/
lemma respond (orderly : m.image.Orderly) (growth : Image.Extends stored m.image image)
    (step : Step) {request : Request PresentedAddr} {response : Response RealAddr}
    (provides : m.image.Provides image request.wanted response) :
    Served setup stored height (some request) m
      ({ m with image }.respond setup step request response) := by
  obtain ⟨left, provides⟩ := growth.leave orderly setup.route setup.access request provides
  rw [respond_eq]
  refine deliver left step _ ?_
  rintro _ ⟨⟩
  exact Route.supplies_leave setup.access image request provides

/-- A call whose symbol's slot is known goes on. -/
lemma resume (orderly : m.image.Orderly) (s : Symbol) (step : Step) {job : Job} {arena : Arena}
    (waits : job.Sound arena) (found : Lookup) :
    Served setup stored height job.request? m (m.resume setup s step job found) := by
  have unchanged : Image.Extends stored m.image m.image := .of_same orderly rfl rfl rfl rfl
  unfold Machine.resume
  cases waits with
  | lookup => cases found <;> exact deliver unchanged step _ nofun
  | @request request task waits =>
    cases found with
    | ready addr =>
      obtain ⟨growth, provides⟩ := Image.extends_carryOut stored orderly task
      exact respond orderly growth step (waits.wanted ▸ provides)
    | bootstrapping =>
      obtain ⟨growth, provides⟩ := Image.extends_bootstrap stored orderly task
      exact respond orderly growth step (waits.wanted ▸ provides)
    | failed => exact ⟨.of_same orderly rfl rfl rfl rfl, nofun⟩

/-- A call waits for its symbol, or goes on at once. -/
lemma lookup (orderly : m.image.Orderly) (s : Symbol) (step : Step) {job : Job} {arena : Arena}
    (waits : job.Sound arena) (low : height ≤ m.stack.length) :
    Served setup stored height job.request? m (m.lookup setup s step job) := by
  have unchanged : Image.Extends stored m.image m.image := .of_same orderly rfl rfl rfl rfl
  unfold Machine.lookup
  dsimp only
  split
  · exact resume orderly s step waits _
  · exact resume orderly s step waits _
  · split
    · exact resume orderly s step waits _
    · exact ⟨unchanged, nofun⟩
  · refine ⟨.of_same orderly rfl rfl rfl rfl, fun _ high => ?_⟩
    -- the resolver that starts is one more than there were
    rw [List.length_cons] at high
    omega

/-- Work on a machine that differs in what was done to its image before. -/
lemma of_growth (growth : Image.Extends stored m.image image)
    (served : Served setup stored height request? { m with image } next) :
    Served setup stored height request? m next where
  growth := growth.trans served.growth
  supplies := fun running high answer last request mem =>
    (served.supplies running high answer last request mem).after growth

/-- A request is answered, or waits for its symbol. -/
lemma request (layered : ∀ config, setup.route ≠ .direct config) (orderly : m.image.Orderly)
    (step : Step) (request : Request PresentedAddr) (low : height ≤ m.stack.length) :
    Served setup stored height (some request) m (m.request setup step request) := by
  have growth : Image.Extends stored m.image (setup.route.enter m.image request).2 :=
    Route.extends_enter orderly request
  unfold Machine.request
  split <;> rename_i h <;> rw [h] at growth
  · exact absurd (Route.pointer?_enter h) nofun
  · exact deliver growth step _ nofun
  · exact deliver growth step _ nofun
  · rename_i real image
    rw [Route.plan_eq layered]
    split <;> rename_i h' <;> obtain ⟨plan, rfl⟩ := Prod.mk.inj h'
    · have none := Image.pointer?_plan plan
      refine respond orderly growth step ?_
      rename_i response
      cases response with
      | pointer addr => cases none
      | _ => trivial
    · have waits : Job.Sound image.arena (.request request _) :=
        .request (Image.sound_plan (Route.wanted_enter h) plan)
      exact of_growth growth (lookup (m := { m with image }) growth.orderly _ step waits low)

/-- A call is answered, or waits for its symbol. -/
lemma call (layered : ∀ config, setup.route ≠ .direct config) (orderly : m.image.Orderly)
    (step : Step) (unforced : step.forced = none) (low : height ≤ m.stack.length)
    (stores : ∀ a, m.StoredBy setup step.call a → stored a) :
    Served setup stored height (m.request? step.call) m (m.call setup step) := by
  have unchanged : Image.Extends stored m.image m.image := .of_same orderly rfl rfl rfl rfl
  unfold Machine.call
  simp only [unforced, Option.isSome_none, Bool.false_eq_true, if_false]
  cases call : step.call with
  | request r => exact request layered orderly step _ low
  | write target bytes =>
    rw [call] at stores
    dsimp only
    split
    · refine deliver ?_ step _ nofun
      refine .of_memory orderly rfl rfl orderly.unforced rfl rfl fun a _ unstored => ?_
      exact Memory.byteAt_write_of_not_mem _ bytes fun inside => unstored (stores a inside)
    · exact deliver unchanged step _ nofun
  | read source len =>
    dsimp only
    split <;> exact deliver unchanged step _ nofun
  | lookup s =>
    have waits : Job.Sound m.image.arena .lookup := .lookup
    exact lookup orderly s step waits low
  | arenaAlloc size =>
    obtain ⟨growth, provides⟩ := Image.extends_arenaAlloc stored orderly size
    refine deliver growth step _ ?_
    rintro _ ⟨⟩ addr mem
    cases null : (m.image.arenaAlloc size).1.isNull with
    | true => simp [null, Answer.address?] at mem
    | false =>
      obtain ⟨clear, block⟩ := provides.resolve_left (by simp [null])
      obtain rfl : (m.image.arenaAlloc size).1.value = addr := by
        simpa [null, Answer.address?] using mem
      rw [Route.resolve_of_clear clear]
      exact .inr block
  | arenaContains addr => exact deliver unchanged step _ nofun
  | arenaUsable addr => exact deliver unchanged step _ nofun
  | stats => exact deliver unchanged step _ nofun
  | config => exact deliver (Route.extends_configure orderly) step _ nofun

/-- A resolver returns. -/
lemma settle (orderly : m.image.Orderly) (frame : Frame) {arena : Arena}
    (waits : frame.job.Sound arena) :
    Served setup stored height frame.job.request? m (m.settle setup frame) := by
  have resumes : ∃ image : Image, Image.Extends stored m.image image ∧
      m.settle setup frame = ({ m with image } : Machine).resume setup frame.symbol frame.step
        frame.job ((setup.resolver frame.symbol).resolution frame.symbol).lookup := by
    refine ⟨_, ?_, rfl⟩
    exact .of_same orderly rfl rfl rfl rfl
  obtain ⟨image, growth, eq⟩ := resumes
  rw [eq]
  exact of_growth growth (resume (m := { m with image }) growth.orderly _ _ waits _)

end Served

/-- Making the next call changes neither the image nor what operands name. -/
lemma begun_eq (m : Machine) :
    m.begun.image = m.image ∧ m.begun.labels = m.labels ∧
      m.begun.stack.length = m.stack.length := by
  unfold begun
  split <;> rename_i stack
  · exact ⟨rfl, rfl, by rw [stack]⟩
  · exact ⟨rfl, rfl, by rw [stack]; rfl⟩

/-- A step works on the request that it is said to work on. -/
theorem served_step (layered : ∀ config, setup.route ≠ .direct config) (orderly : m.image.Orderly)
    {arena : Arena} (jobs : ∀ frame ∈ m.stack, frame.job.Sound arena)
    (unforced : ∀ step ∈ m.next?, step.forced = none) (h : m.step setup = some next) :
    Served setup (m.Stores setup) m.stack.length m.served? m next := by
  obtain ⟨-, ⟨step, call, rfl⟩ | ⟨frame, stack, eq, call, rfl⟩⟩ := step_cases h
  · obtain ⟨image, labels, length⟩ := m.begun_eq
    have value : m.begun.value = m.value := by
      funext operand
      unfold value
      rw [labels]
    have request : m.begun.request? = m.request? := by
      funext call
      unfold request?
      rw [value]
    have stores (a : Nat) (h : m.begun.StoredBy setup step.call a) : m.Stores setup a := by
      refine ⟨step, call, ?_⟩
      unfold StoredBy at h ⊢
      rwa [value] at h
    have served := Served.call layered (m := m.begun) (image ▸ orderly) step (unforced step call)
      (Nat.le_of_eq length.symm) stores
    rw [request] at served
    simp only [served?, call]
    exact ⟨image ▸ served.growth, image ▸ served.supplies⟩
  · have waits := jobs frame (by rw [eq]; exact List.mem_cons_self)
    have served : Served setup (m.Stores setup) m.stack.length frame.job.request? { m with stack }
        (({ m with stack } : Machine).settle setup frame) :=
      Served.settle (m := { m with stack }) orderly frame waits
    simp only [served?, call, eq, List.head?_cons, Option.bind_some]
    rw [eq] at served
    exact ⟨served.growth, served.supplies⟩

/-! ## The ledger -/

/-- What the callers hold was handed out, none of it belongs to a header, and no byte is held with
two pointers. -/
structure Separate (route : Route) (image : Image) (held : List Holding) : Prop where
  taken : ∀ holding ∈ held, ∀ a, holding.Covers route a → image.Taken a
  apart : ∀ holding ∈ held, ∀ a, holding.Covers route a → ¬image.InHeader a
  disjoint : held.Pairwise fun holding other =>
    ∀ a, holding.Covers route a → ¬other.Covers route a

namespace Separate

variable {route : Route} {held held' : List Holding}

/-- Callers who hold less. -/
lemma sublist (separate : Separate route image held) (sub : held'.Sublist held) :
    Separate route image held' where
  taken := fun holding mem => separate.taken holding (sub.subset mem)
  apart := fun holding mem => separate.apart holding (sub.subset mem)
  disjoint := separate.disjoint.sublist sub

/-- An operation keeps apart what was apart: new headers lie in fresh bytes. -/
lemma growth {next : Image} (separate : Separate route image held)
    (growth : Image.Extends stored image next) : Separate route next held where
  taken := fun holding mem a covers => growth.taken a (separate.taken holding mem a covers)
  apart := fun holding mem a covers inHeader => by
    obtain old | new := growth.fresh a inHeader
    · exact separate.apart holding mem a covers old
    · exact new (separate.taken holding mem a covers)
  disjoint := separate.disjoint

/-- The answer to a request leaves what is held separate: what it adds lies in fresh bytes. -/
lemma heldAfter {next : Image} (separate : Separate route image held)
    (growth : Image.Extends stored image next) (request : Request PresentedAddr) (answer : Answer)
    (supplies : route.Supplies image next request.wanted answer) :
    Separate route next (heldAfter held request answer) := by
  have kept : Separate route image
      (held.filter fun holding => request.retired? ≠ some holding.pointer) :=
    separate.sublist List.filter_sublist
  unfold Session.heldAfter
  dsimp only
  split
  case h_1 => exact kept.growth growth
  case h_2 addr mem =>
    split
    case isTrue => exact separate.growth growth
    case isFalse nonnull =>
      have block := (supplies addr mem).resolve_left nonnull
      have old := kept.growth growth
      refine ⟨List.forall_mem_cons.2 ⟨?_, old.taken⟩, List.forall_mem_cons.2 ⟨?_, old.apart⟩,
        List.pairwise_cons.2 ⟨?_, old.disjoint⟩⟩
      · exact fun a covers => (block a covers.1 covers.2).2.1
      · exact fun a covers => (block a covers.1 covers.2).2.2
      · intro other mem a covers covers'
        exact (block a covers.1 covers.2).1 (kept.taken other mem a covers')

/-- A step leaves what is held separate. -/
lemma step {next : Machine} (separate : Separate setup.route m.image held)
    (served : Served setup stored m.stack.length m.served? m next) :
    Separate setup.route next.image (m.tally next held) := by
  unfold Machine.tally
  split
  case h_1 request answer asked answered =>
    unfold answer? at answered
    split at answered
    case isTrue returned =>
      exact separate.heldAfter served.growth request answer
        (served.supplies returned.1 returned.2 answer answered request asked)
    case isFalse => cases answered
  case h_2 => exact separate.growth served.growth

end Separate

/-! ## Every state of a session -/

/-- A byte that is stored as it should be is held. -/
lemma exists_covers {held : List Holding} {call : Call} {a : Nat} (owns : m.Owns setup held call)
    (stored : m.StoredBy setup call a) : ∃ holding ∈ held, holding.Covers setup.route a := by
  cases call with
  | write target bytes =>
    obtain ⟨holding, mem, start, stop⟩ := owns
    exact ⟨holding, mem, Nat.le_trans start stored.1, Nat.lt_of_lt_of_le stored.2 stop⟩
  | _ => exact stored.elim

section Run

variable {capacity : Nat} (layered : ∀ config, setup.route ≠ .direct config)
  (sound : m.Sound capacity False) (orderly : m.image.Orderly) {n : Nat}
  (fair : ∀ i < n, (after setup i m).Fair setup (ledger setup m i))

include layered sound fair

/-- What a step of a session works on. -/
lemma served_after {i : Nat} (lt : i < n) (orderly : (after setup i m).image.Orderly)
    (h : (after setup i m).step setup = some next) :
    Served setup ((after setup i m).Stores setup) (after setup i m).stack.length
      (after setup i m).served? (after setup i m) next :=
  served_step layered orderly (sound.after layered i nofun).jobs
    (fun step call => (fair i lt step call).1) h

include orderly

/-- What the callers hold is separate in every state. -/
theorem separate_ledger {i : Nat} (le : i ≤ n) :
    (after setup i m).image.Orderly ∧
      Separate setup.route (after setup i m).image (ledger setup m i) := by
  induction i with
  | zero => exact ⟨orderly, nofun, nofun, .nil⟩
  | succ i ih =>
    obtain ⟨orderly, separate⟩ := ih (Nat.le_of_succ_le le)
    rw [after_succ, ledger]
    cases h : (after setup i m).step setup with
    | none => exact ⟨orderly, separate⟩
    | some next =>
      have served := served_after layered sound fair le orderly h
      exact ⟨served.growth.orderly, separate.step served⟩

/-- Between two states nothing that was handed out changes but by stores of the callers. -/
theorem extends_after {i j : Nat} (le : i ≤ j) (within : j ≤ n) :
    Image.Extends (fun a => ∃ k, i ≤ k ∧ k < j ∧ (after setup k m).Stores setup a)
      (after setup i m).image (after setup j m).image := by
  induction le with
  | refl =>
    obtain ⟨orderly, -⟩ := separate_ledger layered sound orderly fair within
    exact .of_same orderly rfl rfl rfl rfl
  | @step j le ih =>
    have before : Image.Extends (fun a => ∃ k, i ≤ k ∧ k < j + 1 ∧ (after setup k m).Stores setup a)
        (after setup i m).image (after setup j m).image :=
      (ih (Nat.le_of_succ_le within)).mono fun a ⟨k, ge, lt, stores⟩ =>
        ⟨k, ge, Nat.lt_succ_of_lt lt, stores⟩
    rw [after_succ]
    cases h : (after setup j m).step setup with
    | none => exact before
    | some next =>
      have served := served_after layered sound fair within before.orderly h
      refine before.trans (served.growth.mono fun a stores => ?_)
      exact ⟨j, le, Nat.lt_succ_self j, stores⟩

/-- No caller stores to a header. -/
lemma not_stores_of_inHeader {i k a : Nat} (ge : i ≤ k) (lt : k < n)
    (inHeader : (after setup i m).image.InHeader a) : ¬(after setup k m).Stores setup a := by
  rintro ⟨step, call, stores⟩
  have growth := extends_after layered sound orderly fair ge (Nat.le_of_lt lt)
  obtain ⟨-, separate⟩ := separate_ledger layered sound orderly fair (Nat.le_of_lt lt)
  obtain ⟨holding, mem, covers⟩ := exists_covers (fair k lt step call).2 stores
  exact separate.apart holding mem a covers (growth.headers a inHeader)

end Run

/-- Live blocks are separate and undisturbed. Take any session over the symbol table, with or
without the interposer above it, any arena and any resolvers, whatever they call, and any state that
it passes through. The heap lies below the arena and the arena below the tag bits; the heap answers
by itself, and callers store only inside what they asked for. Then

* the bytes behind the pointers that are held are handed out by the heap or the arena, separate from
  each other, and from the headers of all chunks;
* a byte behind a pointer that was held in an earlier state is as it was, unless a caller has stored
  it in between, so that no call of the allocator changes it;
* the headers of the chunks that were handed out in an earlier state are as they were.

It does not matter which pointers callers pass to calls of the allocator, or when. -/
theorem separated {setup : Setup} (layered : ∀ config, setup.route ≠ .direct config)
    {heapCapacity capacity : Nat} (apart : Heap.base + heapCapacity ≤ Arena.base)
    (below : Arena.base + capacity < 2 ^ 48) (script : List Step) (n : Nat) :
    let first := start (.fresh heapCapacity capacity) script
    let state := fun i => after setup i first
    let held := fun i => ledger setup first i
    (∀ i < n, (state i).Fair setup (held i)) →
      (held n).Pairwise (fun holding other =>
        ∀ a, holding.Covers setup.route a → ¬other.Covers setup.route a) ∧
      (∀ holding ∈ held n, ∀ a, holding.Covers setup.route a →
        (state n).image.Taken a ∧ ¬(state n).image.InHeader a) ∧
      (∀ i ≤ n, ∀ holding ∈ held i, ∀ a, holding.Covers setup.route a →
        (∀ k, i ≤ k → k < n → ¬(state k).Stores setup a) →
          (state n).image.memory.byteAt a = (state i).image.memory.byteAt a) ∧
      ∀ i ≤ n, ∀ a, (state i).image.InHeader a →
        (state n).image.memory.byteAt a = (state i).image.memory.byteAt a := by
  intro first state held fair
  have sound : first.Sound capacity False := Sound.start apart below script
  have orderly : first.image.Orderly := ⟨sound.placed, Nat.zero_le _, rfl⟩
  have separate (i : Nat) (le : i ≤ n) := separate_ledger layered sound orderly fair le
  have growth (i : Nat) (le : i ≤ n) :=
    extends_after layered sound orderly fair le (Nat.le_refl n)
  refine ⟨(separate n (Nat.le_refl n)).2.disjoint, fun holding mem a covers => ?_, ?_, ?_⟩
  · obtain ⟨_, separate⟩ := separate n (Nat.le_refl n)
    exact ⟨separate.taken holding mem a covers, separate.apart holding mem a covers⟩
  · intro i le holding mem a covers unstored
    have taken := (separate i le).2.taken holding mem a covers
    exact (growth i le).kept a taken fun ⟨k, ge, lt, stores⟩ => unstored k ge lt stores
  · intro i le a inHeader
    have taken := (separate i le).1.taken_of_inHeader inHeader
    exact (growth i le).kept a taken fun ⟨k, ge, lt, stores⟩ =>
      not_stores_of_inHeader layered sound orderly fair ge lt inHeader stores

/-- A process whose loader allocates, stores and reallocates to resolve `malloc`, and takes an array
to resolve `calloc`. -/
def busyLoader : Setup where
  route := .layered .default
  access := .tagIgnoring
  resolver
    | .malloc => ⟨.ok, none,
      [⟨.request (.malloc 8), some "p", none⟩, ⟨.write (.label "p") [1, 2, 3], none, none⟩,
        ⟨.request (.realloc (.label "p") 40), some "q", none⟩]⟩
    | .calloc => ⟨.ok, none, [⟨.request (.calloc 2 4), none, none⟩]⟩
    | _ => ⟨.ok, none, []⟩

/-- A script that moves what the loader of `malloc` took to the heap, and then takes an array. -/
def moveLoaded : List Step :=
  [⟨.request (.malloc 24), some "a", none⟩, ⟨.write (.label "a") [7], none, none⟩,
    ⟨.request (.realloc (.label "q") 100), none, none⟩, ⟨.request (.calloc 3 5), none, none⟩]

/-- The busy loader: the application's array, for which the loader takes one of its own, disturbs
neither the block that was moved nor the one that was stored to. -/
theorem separated_nested :
    let first := start (.fresh 65536 1024) moveLoaded
    let state := fun i => after busyLoader i first
    let held := fun i => ledger busyLoader first i
    held 10 = [⟨⟨0x1100000000090⟩, 15⟩, ⟨⟨0x1110000000070⟩, 8⟩, ⟨⟨0x1100000000020⟩, 100⟩,
      ⟨⟨0x100000000000⟩, 24⟩] ∧
    (∀ i < 10, (state i).Fair busyLoader (held i)) ∧
    (held 10).Pairwise (fun holding other =>
      ∀ a, holding.Covers busyLoader.route a → ¬other.Covers busyLoader.route a) ∧
    ∀ holding ∈ held 7, ∀ a, holding.Covers busyLoader.route a →
      (state 10).image.memory.byteAt a = (state 7).image.memory.byteAt a := by
  intro first state held
  have fair : ∀ i < 10, (state i).Fair busyLoader (held i) := by decide
  obtain ⟨disjoint, _, kept, _⟩ :=
    @separated busyLoader nofun 65536 1024 (by decide) (by decide) moveLoaded 10 fair
  have unstored (k a : Nat) (ge : 7 ≤ k) (lt : k < 10) : ¬(state k).Stores busyLoader a := by
    rintro ⟨step, call, stores⟩
    obtain rfl | rfl | rfl : k = 7 ∨ k = 8 ∨ k = 9 := by omega
    · have next : (state 7).next? = some ⟨.request (.calloc 3 5), none, none⟩ := by decide
      rw [next] at call
      cases call
      exact stores
    · have next : (state 8).next? = some ⟨.request (.calloc 2 4), none, none⟩ := by decide
      rw [next] at call
      cases call
      exact stores
    · have next : (state 9).next? = none := by decide
      rw [next] at call
      cases call
  refine ⟨by decide, fair, disjoint, fun holding mem a covers => ?_⟩
  simpa only using kept 7 (by decide) holding mem a covers fun k ge lt => unstored k a ge lt

end Machine

end Session

end PointerTagging
