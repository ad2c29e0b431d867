import PointerTagging.Host.Shell.Parsing
import PointerTagging.Host.Shell.Variable
import PointerTagging.Host.World
/-!
# The state of a shell

What a running shell holds, and the actions on it that everything else is built from.
-/

namespace PointerTagging.Host.Shell

/-- A command in the background, which has run already. -/
structure Job where
  pid : Nat
  ending : Ending
  /-- The time at which it is over. -/
  time : Nat
  /-- The shell has waited for it. -/
  isReaped : Bool
  deriving DecidableEq, Repr

/-- A running shell. -/
structure State where
  dialect : Dialect
  world : World
  /-- The current directory. -/
  place : List String
  descriptors : Descriptors
  /-- The name under which it runs. -/
  title : String
  /-- The name of where the commands stand that run now, if it is not that of the shell. -/
  voice : Option String
  /-- The name of where functions stand that are defined now. -/
  functionVoice : Option String
  positions : List String
  bindings : List (String × Binding)
  functions : List (String × Command)
  /-- The commands to run on signals; number 0 is the end of the shell. -/
  traps : List (Nat × String)
  status : Nat
  /-- The status of the last command whose output was substituted. -/
  substituted : Nat
  /-- The letters of the options that are on. -/
  options : List Char
  /-- The line of the current command. -/
  line : Nat
  /-- The builtin that runs, for complaints. -/
  builtin : Option String
  /-- How many loops run around the current command. -/
  loops : Nat
  /-- The names of the functions that run, the innermost first. -/
  calls : List String
  /-- How many copies of shells run one inside another. -/
  copies : Nat
  /-- The statuses of the commands of the last pipeline. -/
  statuses : List Nat
  /-- The last word of the command before. -/
  lastWord : String
  /-- The names of the further options that are on. -/
  features : List String
  /-- The words that stand for others where a command begins. -/
  aliases : List (String × String)
  /-- The places that the current directory was put before. -/
  stack : List (List String)
  /-- The commands that read what is written to a channel when the current command is over. -/
  readers : List (Channel × Option Command)
  umask : Nat
  /-- True where a failure is a result that the script looks at. -/
  isTested : Bool
  /-- For each function that runs, the variables to restore behind it. -/
  locals : List (List (String × Binding))
  /-- The process number that the shell goes by. -/
  pid : Nat
  /-- True of a copy of the shell that runs some of its commands. -/
  isCopy : Bool
  /-- True of a copy that runs a command of a pipeline. -/
  isPiped : Bool
  jobs : List Job
  /-- Where `getopts` stands inside a word. -/
  optionOffset : Nat
  /-- A builtin has printed to a descriptor that takes nothing. -/
  hasLostOutput : Bool

/-- Why the commands that come next are not run. -/
inductive Stop where
  /-- The shell ends. -/
  | exit
  /-- A signal ends the shell. -/
  | killed (signal : Nat)
  /-- An error ends the shell unless a builtin takes it as its own. -/
  | error
  | leaveLoops (n : Nat)
  | nextRound (n : Nat)
  | leaveFunction
  deriving DecidableEq, Repr

/-- What a running shell does. -/
abbrev Action := ExceptT Stop (StateM State)

/-- What runs a command: a last one may take the place of the shell. -/
abbrev Runner := (last : Bool) → Command → Action Unit

namespace Action

/-- Sets the status. -/
def setStatus (status : Nat) : Action Unit := modify fun s => { s with status }

/-- Writes to a descriptor. -/
def write (descriptor : Nat) (text : String) : Action Unit :=
  modify fun s =>
    match s.descriptors.channel? descriptor with
    | some channel => { s with world := s.world.write channel text }
    | none => s

/-- The name of where the commands stand that run now. -/
def speaker (s : State) : String := s.voice.getD s.title

/-- The head of a complaint: the name of the shell, the line, and the builtin if one runs. -/
def complaintHead (s : State) : String :=
  let line :=
    match s.dialect with
    | .common => toString s.line
    | .extended => "line " ++ toString s.line
  speaker s ++ ": " ++ line ++ ": " ++
    match s.builtin with
    | some name => name ++ ": "
    | none => ""

/-- True of a shell of the extended dialect. -/
def isExtended : Action Bool := do return (← get).dialect == .extended

/-- One of two values, the second one for the extended dialect. -/
def byDialect (common extended : α) : Action α := do
  return if ← isExtended then extended else common

/-- Complains on standard error. -/
def complain (text : String) : Action Unit := do
  write 2 (complaintHead (← get) ++ text ++ "\n")

/-- Complains, and fails with a status. -/
def failWith (status : Nat) (text : String) : Action α := do
  complain text
  setStatus status
  throw .error

/-- Complains, and fails. -/
def fail (text : String) : Action α := do
  failWith (← byDialect 2 1) text

/-- True if an option is on. -/
def hasOption (letter : Char) : Action Bool := do return (← get).options.contains letter

/-- Complains about something without which the script cannot go on. -/
def abandon (text : String) : Action α := do
  if ← isExtended then
    complain text
    setStatus (if ← hasOption 'e' then 1 else 127)
    throw .exit
  fail text

/-- Carries out an action on the world. -/
def onWorld (action : World → α × World) : Action α := do
  let s ← get
  let (result, world) := action s.world
  set { s with world }
  return result

/-! ## Variables -/

/-- What is known of a variable. -/
def binding (name : String) : Action Binding := do
  return (((← get).bindings.find? fun v => v.1 == name).map (·.2)).getD .none

/-- Replaces what is known of a variable. -/
def setBinding (name : String) (binding : Binding) : Action Unit :=
  modify fun s =>
    { s with
      bindings :=
        if s.bindings.any fun v => v.1 == name then
          s.bindings.map fun v => if v.1 == name then (name, binding) else v
        else s.bindings ++ [(name, binding)] }

/-- The variable that a name means. -/
def target (name : String) : Action String := do
  let b ← binding name
  return if b.isReference then b.value.getD name else name

/-- The value of a variable, if it is set. -/
def valueOf (name : String) : Action (Option String) := do
  return (← binding (← target name)).value

/-- Changes a variable that is not fixed. -/
def change (name : String) (f : Binding → Binding) : Action Unit := do
  let old ← binding name
  if old.fixed then fail (name ++ (← byDialect ": is read only" ": readonly variable"))
  if name == "OPTIND" then modify fun s => { s with optionOffset := 0 }
  let exported := (← hasOption 'a') || old.exported
  setBinding name (f { old with exported })

/-- A text with the letters that a variable gives its values. -/
def withLetters (letters : Option CaseChange) (text : String) : String :=
  match letters with
  | some .raise => text.map Char.toUpper
  | some .lower => text.map Char.toLower
  | _ => text

/-- Sets a variable. -/
def assign (name value : String) : Action Unit := do
  change (← target name) fun b => b.withValue (withLetters b.letters value)

/-- The variables that programs are given, in the order in which they were set, or bucket by bucket
in the extended dialect. -/
def environment : Action (List (String × String)) := do
  let s ← get
  let bindings :=
    match s.dialect with
    | .common => s.bindings
    | .extended => s.bindings.reverse.mergeSort fun a b => bucketOf a.1 ≤ bucketOf b.1
  return bindings.filterMap fun v =>
    if v.2.exported && v.2.array.isNone then v.2.value.map fun value => (v.1, value) else none

/-- What a program starts with. -/
def context : Action Context := do
  let s ← get
  return {
    environment := ← environment, place := s.place, descriptors := s.descriptors, mask := s.umask }

/-- The search path of the shell. -/
def searchPath : Action String := do return ((← valueOf "PATH").getD "")

/-- Tries paths of a program one after the other. If none leads to a program, the last refusal is
returned that says more than that there is nothing at a path. -/
def firstProgram (tree : Tree) (place : List String) (error : SystemError) :
    List String → Except SystemError (String × Tree.Executable)
  | [] => .error error
  | path :: paths =>
    match tree.programOrScript place path with
    | .ok executable => .ok (path, executable)
    | .error refusal =>
      firstProgram tree place (if refusal.isAbsence then error else refusal) paths

/-- The program that a word names, with the path that leads to it: the word itself if it holds a
slash, else the first hit in the search path. -/
def search (path word : String) : Action (Except SystemError (String × Tree.Executable)) := do
  let s ← get
  if word.contains '/' then
    return (s.world.tree.programOrScript s.place word).map fun found => (word, found)
  else if word.isEmpty || word.contains '\x00' then return .error .notFound
  else
    let paths := (path.splitOn ":").map fun entry => Tree.inside entry word
    return firstProgram s.world.tree s.place .notFound paths

/-! ## Scopes -/

/-- Carries out an action in a changed state. However the action ends, `leave` makes the state
behind it from those before and after it. -/
def within (enter : State → State) (leave : (before after : State) → State) (action : Action α) :
    Action α :=
  ExceptT.mk do
    let before ← get
    modify enter
    let result ← action.run
    modify (leave before)
    return result

/-- Carries out an action whose changes to descriptors do not last. -/
def keepingDescriptors (action : Action α) : Action α :=
  within id (fun before after => { after with descriptors := before.descriptors }) action

/-- Carries out an action as a builtin of the given name. -/
def asBuiltin (name : String) (action : Action α) : Action α :=
  within (fun s => { s with builtin := some name })
    (fun before after => { after with builtin := before.builtin }) action

/-- Carries out an action where a failure is a result to look at, or is not. -/
def tested (isTested : Bool) (action : Action α) : Action α :=
  within (fun s => { s with isTested })
    (fun before after => { after with isTested := before.isTested }) action

/-- Carries out an action inside one more loop. -/
def inLoop (action : Action α) : Action α :=
  within (fun s => { s with loops := s.loops + 1 })
    (fun before after => { after with loops := before.loops }) action

/-- The variables with some of them replaced. -/
def restore (bindings scope : List (String × Binding)) : List (String × Binding) :=
  bindings.map fun v => (scope.find? fun kept => kept.1 == v.1).getD v

/-- Carries out an action with a scope of its own for variables. Behind it the variables of the
scope get back what was known of them before. -/
def inScope (action : Action α) : Action α :=
  within (fun s => { s with locals := [] :: s.locals })
    (fun before after =>
      { after with
        bindings := restore after.bindings (after.locals.headD [])
        locals := before.locals }) action

/-- Makes a variable local to the innermost scope. -/
def makeLocal (name : String) : Action Unit := do
  let old ← binding name
  setBinding name old
  modify fun s =>
    match s.locals with
    | scope :: locals =>
      let scope := if scope.any fun v => v.1 == name then scope else (name, old) :: scope
      { s with locals := scope :: locals }
    | [] => s

/-- Carries out an action; an error does not end the shell but is the status. -/
def tolerant (action : Action Unit) : Action Unit :=
  tryCatch action fun stop =>
    match stop with
    | .error => return
    | stop => throw stop

end Action

end PointerTagging.Host.Shell
