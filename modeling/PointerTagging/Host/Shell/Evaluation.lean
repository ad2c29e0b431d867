import PointerTagging.Host.Launching
import PointerTagging.Host.Shell.Extended
import PointerTagging.Host.Shell.Redirecting
/-!
# Running commands

What each kind of command does. Commands inside others are run by a runner one level below, and
programs by a launcher, so every kind has a plain definition.
-/

namespace PointerTagging.Host.Shell

open Shell.Action

/-- What running a command relies on. -/
structure Site where
  run : Runner
  launch : Launcher
  /-- A bound on the rounds of a loop. -/
  rounds : Nat

/-! ## Programs -/

/-- Takes the place of the shell by a program. -/
def replaceBy (ending : Ending) : Action Unit := do
  modify fun s => { s with traps := [] }
  match ending with
  | .killed signal => throw (.killed signal)
  | .exited code =>
    setStatus code.toNat
    throw .exit

/-- The status for a program that cannot be started. -/
def refusalStatus (error : SystemError) : Nat :=
  match error with
  | .permissionDenied => 126
  | .argumentsTooLong => 126
  | _ => 127

/-- Complains that a program cannot be started, in the extended dialect. -/
def refuseExtended (word : String) (error : SystemError) : Action Unit := do
  let s ← get
  let hasPath := (← valueOf "PATH").isSome
  let isDirectory := (s.world.tree.locate s.place word).toOption.map (·.2) == some .directory
  if word.contains '/' || !error.isAbsence || !hasPath then
    let error := if isDirectory && word.contains '/' then .isADirectory else error
    within (fun s => { s with builtin := none })
      (fun before after => { after with builtin := before.builtin })
      (complain (word ++ ": " ++ error.text))
  else
    complain (word ++ if s.builtin.isSome then ": not found" else ": command not found")

/-- What a program is given that a path leads to, in the extended dialect: the path itself, and the
number of shells around it, which is one less if it takes the place of this one. -/
def contextAt (path : String) (inPlace : Bool) (context : Context) : Context :=
  let context := (context.dropVariable "_").setVariable "_" path
  let depth := ((context.get? "SHLVL").bind naturalOf?).getD 1
  if inPlace && (context.get? "SHLVL").isSome then
    context.setVariable "SHLVL" (toString (depth - 1))
  else context

/-- Complains that a program cannot be started. A search that fails has always the same status,
unless the program has been `found`. -/
def refuse (inPlace : Bool) (word : String) (error : SystemError) (found : Bool) :
    Action Unit := do
  if ← isExtended then refuseExtended word error
  else complain (word ++ ": " ++ if error.isAbsence then "not found" else error.text)
  setStatus (if inPlace || found || word.contains '/' then refusalStatus error else 127)

/-- Starts the program that a command names, in place of the shell if that is asked for. -/
def startProgram (site : Site) (inPlace : Bool) (words : List String) : Action Unit := do
  match ← search (← searchPath) (words.headD "") with
  | .error error => refuse inPlace (words.headD "") error false
  | .ok (path, executable) =>
    let context ← context
    let s ← get
    let context :=
      match s.dialect with
      | .common => context
      | .extended => contextAt path (inPlace && !s.isPiped) context
    if !context.fits words then refuse inPlace (words.headD "") .argumentsTooLong true
    else
      let ending ← onWorld fun world => site.launch context words executable world
      if inPlace then replaceBy ending
      dieOfSignals
      await ending

/-! ## Simple commands -/

/-- The fields that a word makes behind a command that declares variables, where an assignment is
not split; the elements of an array are left to be set behind the command. -/
def expandDeclaration (run : Runner) (word : Word) : Action (List String × List Assignment) := do
  let dialect := (← get).dialect
  match word.assignment? dialect with
  | some (.mk name none appends [.list elements]) =>
    return ([name], [.mk name none appends [.list elements]])
  | some (.mk name none appends value) =>
    let sign := if appends then "+=" else "="
    return ([name ++ sign ++ (← expandValue run value)], [])
  | _ => return (← expandAll run [word], [])

/-- The fields of the words of a command, and the arrays that it declares. Behind a command that
declares variables, assignments are not split. -/
def expandArguments (run : Runner) : List Word → Action (List String × List Assignment)
  | [] => return ([], [])
  | word :: words => do
    match ← expandAll run [word] with
    | [] => expandArguments run words
    | name :: fields =>
      let fields := name :: fields
      let declares := (← byDialect Builtin.declares Extended.declares) name
      if !declares then return (fields ++ (← expandAll run words), [])
      let rest ← words.mapM (expandDeclaration run)
      return (fields ++ (rest.map (·.1)).flatten, (rest.map (·.2)).flatten)

/-- The words of a command that `command` stands before, without it; nothing if it is asked
something else. -/
def behindCommand? : List String → Option (List String)
  | "-p" :: words => behindCommand? words
  | "--" :: words => if words.isEmpty then none else some words
  | [] => none
  | word :: words => if word.startsWith "-" then none else some (word :: words)

/-- The words of a command, and whether `command` stood before them. -/
def stripCommand : Nat → List String → List String × Bool
  | n + 1, "command" :: words =>
    match behindCommand? words with
    | some words => ((stripCommand n words).1, true)
    | none => ("command" :: words, false)
  | _, words => (words, false)

/-- Where complaints go. -/
def errorChannel : Action Channel := do return ((← get).descriptors.channel? 2).getD .nothing

/-- A field as the extended dialect shows it: between quotes if it needs any. -/
def shownField (field : String) : String :=
  let isPlain (c : Char) : Bool := c.isAlphanum || "_@%+=:,./-".contains c
  if field.isEmpty then "''"
  else if field.toList.all isPlain then field
  else Shaping.quoted field

/-- Shows a command before it runs, if the option for that is on. Its own redirections do not count
for that, so `errors` is where complaints went before them. -/
def trace (errors : Channel) (assignments : List (String × String)) (fields : List String) :
    Action Unit := do
  if ← hasOption 'x' then
    let head := (← valueOf "PS4").getD ""
    let assigned := assignments.map fun a => a.1 ++ "=" ++ a.2
    let lines ←
      byDialect [" ".intercalate (assigned ++ fields)]
        (assigned ++ if fields.isEmpty then [] else [" ".intercalate (fields.map shownField)])
    let text := String.join (lines.map fun line => head ++ line ++ "\n")
    modify fun s => { s with world := s.world.write errors text }

/-- Carries out redirections; without success the command is not run. -/
def tryRedirect (openings : List (Nat × Opening)) : Action Bool :=
  tryCatch
    (do
      redirectAll openings
      return true)
    fun stop =>
      match stop with
      | .error => return false
      | stop => throw stop

/-- Expands the words of redirections and carries them out; without success the command is not run.
-/
def tryRedirections (run : Runner) (redirections : List Redirection) : Action Bool :=
  tryCatch
    (do
      redirectAll (← expandRedirections run redirections)
      return true)
    fun stop =>
      match stop with
      | .error => return false
      | stop => throw stop

/-- Sets the variables of a command that has no words, or whose variables last. -/
def assignAll (run : Runner) (assignments : List Assignment) :
    Action (List (String × String)) :=
  assignments.mapM fun assignment => do
    if ← isExtended then return ← Extended.carryOut run assignment
    match assignment with
    | .mk name _ _ word =>
      let value ← expandValue run word
      assign name value
      return (name, value)

/-- Sets the variables of a command for its own time. -/
def assignLocally (run : Runner) (assignments : List Assignment) :
    Action (List (String × String)) :=
  assignments.mapM fun (.mk name _ appends word) => do
    let value ← expandValue run word
    let old := (← valueOf name).getD ""
    let value := if appends then old ++ value else value
    makeLocal name
    change name fun b => { b with value := some value, exported := true }
    return (name, value)

/-- Carries out a builtin. One whose output is lost fails. -/
def performBuiltin (run : Runner) (name : String) (arguments : List String) : Action Unit :=
  asBuiltin name do
    let perform ← byDialect Builtin.perform Extended.perform
    let status ← perform run name arguments
    let s ← get
    if s.hasLostOutput then
      let isFull := s.descriptors.channel? 1 == some .full
      let reason := (if isFull then SystemError.noSpace else .badDescriptor).text
      complain (← byDialect (name ++ ": I/O error") ("write error: " ++ reason))
      modify fun s => { s with hasLostOutput := false }
      setStatus (status ||| 1)
    else setStatus status

/-- How many functions may run one inside another. -/
def mostCalls : Nat := 1000

/-- Calls a function: the arguments are its positional parameters. -/
def callFunction (run : Runner) (name : String) (body : Command) (arguments : List String) :
    Action Unit := do
  if (← get).calls.length ≥ mostCalls then
    fail ("Maximum function recursion depth (" ++ toString mostCalls ++ ") reached")
  within
    (fun s => { s with
      positions := arguments, loops := 0, calls := name :: s.calls, voice := s.functionVoice })
    (fun before after => { after with
      positions := before.positions, loops := before.loops, calls := before.calls
      voice := before.voice })
    (tryCatch (run false body) fun stop =>
      match stop with
      | .leaveFunction => return
      | stop => throw stop)

/-- Runs a command that is only assignments and redirections. -/
def runBare (run : Runner) (assignments : List Assignment)
    (redirections : List Redirection) : Action Unit := do
  let openings ← expandRedirections run redirections
  let errors ← errorChannel
  keepingDescriptors do
    if ← tryRedirect openings then
      trace errors (← assignAll run assignments) []
      setStatus (← get).substituted

/-- Runs `exec`: its redirections last, and a program takes the place of the shell. -/
def runExec (site : Site) (assignments : List Assignment) (arguments : List String)
    (redirections : List Redirection) : Action Unit := do
  let openings ← expandRedirections site.run redirections
  let errors ← errorChannel
  redirectAll openings
  let values ← assignAll site.run assignments
  trace errors values ("exec" :: arguments)
  setStatus 0
  unless arguments.isEmpty do
    for (name, _) in values do
      setBinding name { ← binding name with exported := true }
    asBuiltin "exec" (startProgram site true arguments)
    throw .exit

/-- Runs a special builtin. -/
def runSpecial (site : Site) (assignments : List Assignment) (name : String)
    (arguments : List String) (redirections : List Redirection) : Action Unit := do
  if name == "exec" then runExec site assignments arguments redirections
  else
    let openings ← expandRedirections site.run redirections
    let errors ← errorChannel
    keepingDescriptors do
      redirectAll openings
      trace errors (← assignAll site.run assignments) (name :: arguments)
      performBuiltin site.run name arguments

/-- Runs another command: a function unless they are passed over, a builtin or a program. -/
def runOther (site : Site) (last passFunctions : Bool) (assignments : List Assignment)
    (name : String) (arguments : List String) (redirections : List Redirection) :
    Action Unit := do
  let openings ← expandRedirections site.run redirections
  let errors ← errorChannel
  inScope <| keepingDescriptors do
    if ← tryRedirect openings then
      trace errors (← assignLocally site.run assignments) (name :: arguments)
      let s ← get
      match if passFunctions then none else s.functions.find? fun f => f.1 == name with
      | some (_, body) => callFunction site.run name body arguments
      | none =>
        if Builtin.isBuiltin name then tolerant (performBuiltin site.run name arguments)
        else startProgram site (last && s.traps.isEmpty) (name :: arguments)

/-- Carries out what a command does with the fields that its words make, in the extended dialect;
`arrays` are those that it declares. -/
def runExtended (site : Site) (last : Bool) (passFunctions : Bool) (assignments : List Assignment)
    (arrays : List Assignment) (name : String) (arguments : List String)
    (redirections : List Redirection) : Action Unit := do
  let errors ← errorChannel
  keepingDescriptors do
    if ← tryRedirections site.run redirections then
      let s ← get
      let isBuiltin := Extended.names.contains name
      let function? :=
        if passFunctions then none else s.functions.find? fun f => f.1 == name
      let body : Action Unit := do
        trace errors (← assignLocally site.run assignments) (name :: arguments)
        match function? with
        | some (_, body) => callFunction site.run name body arguments
        | none =>
          if isBuiltin then
            tolerant (performBuiltin site.run name arguments)
            for array in arrays do
              let _ ← Extended.carryOut site.run array
          else startProgram site (last && s.traps.isEmpty) (name :: arguments)
      if isBuiltin && function?.isNone && assignments.isEmpty then body else inScope body

/-- Runs the commands that read what the command before has written. -/
def runReaders (run : Runner) : Action Unit := do
  let readers := (← get).readers
  modify fun s => { s with readers := [] }
  for (channel, command) in readers.reverse do
    let source ← onWorld fun world => world.addSource (world.written channel)
    let status := (← get).status
    let _ ← inCopy run do
      modify fun s => { s with descriptors := s.descriptors.assign 0 source }
      match command with
      | some command => run true command
      | none => return
    setStatus status

/-- Runs a simple command in the extended dialect. -/
def runWords (site : Site) (last : Bool) (assignments : List Assignment) (words : List Word)
    (redirections : List Redirection) : Action Unit := do
  let (fields, arrays) ← expandArguments site.run words
  let isBuiltinCall := fields.head? == some "builtin" && fields.length > 1
  let fields := if isBuiltinCall then fields.drop 1 else fields
  let (fields, isStripped) := stripCommand fields.length fields
  match fields with
  | [] => runBare site.run assignments redirections
  | name :: arguments =>
    if isBuiltinCall && !Extended.names.contains name then
      asBuiltin "builtin" (complain (name ++ ": not a shell builtin"))
      setStatus 1
    else if name == "exec" then runExec site assignments arguments redirections
    else
      runExtended site last (isStripped || isBuiltinCall) assignments arrays name arguments
        redirections
  modify fun s => { s with lastWord := (fields.getLast?).getD s.lastWord }

/-- Runs a simple command. -/
def runSimple (site : Site) (last : Bool) (line : Nat) (assignments : List Assignment)
    (words : List Word) (redirections : List Redirection) : Action Unit := do
  modify fun s => { s with line, substituted := 0 }
  if ← isExtended then
    within id
      (fun before after =>
        let isKept (d : Nat × Channel) : Bool :=
          d.1 < 32 || (before.descriptors.channel? d.1).isSome
        { after with descriptors := after.descriptors.filter isKept })
      (do
        runWords site last assignments words redirections
        runReaders site.run)
    return
  let (fields, _) ← expandArguments site.run words
  let (fields, isStripped) := stripCommand fields.length fields
  match fields with
  | [] => runBare site.run assignments redirections
  | name :: arguments =>
    if !Builtin.isSpecial name then
      runOther site last isStripped assignments name arguments redirections
    else if isStripped then
      tolerant (runSpecial site assignments name arguments redirections)
    else runSpecial site assignments name arguments redirections

/-! ## Pipelines and copies -/

/-- Runs commands each of which reads what the one before prints; the status is that of the last
one. Returns all statuses. -/
def runPipeline (run : Runner) (input : Option Channel) : List Command → Action (List Nat)
  | [] => return []
  | command :: commands => do
    let output ← if commands.isEmpty then pure none else some <$> onWorld World.addSink
    let ending ← inCopy run do
      modify fun s =>
        let descriptors := (input.map (s.descriptors.assign 0)).getD s.descriptors
        { s with
          descriptors := (output.map (descriptors.assign 1)).getD descriptors
          isPiped := true }
      run true command
    await ending
    let status := (← get).status
    match output with
    | none => return [status]
    | some output =>
      let next ← onWorld fun world => world.addSource (world.written output)
      return status :: (← runPipeline run (some next) commands)

/-- Keeps the statuses of a pipeline; one that is not zero counts for the whole if the option for
that is on. -/
def keepStatuses (statuses : List Nat) : Action Unit := do
  modify fun s => { s with statuses }
  if (← get).features.contains "pipefail" then
    setStatus ((statuses.reverse.find? fun n => n != 0).getD 0)

/-- Runs a command in a copy of the shell, or in the shell itself if it is the last one. -/
def runSubshell (run : Runner) (last : Bool) (line : Nat) (command : Command)
    (redirections : List Redirection) : Action Unit := do
  modify fun s => { s with line }
  let openings ← expandRedirections run redirections
  let body : Action Unit := do
    redirectAll openings
    run true command
  if last && (← get).traps.isEmpty then
    body
    throw .exit
  await (← inCopy run body)

/-- Runs a command in the background. It has run when the next command starts, but counts as running
until the time that it took has passed. -/
def runInBackground (run : Runner) (line : Nat) (command : Command) : Action Unit := do
  modify fun s => { s with line }
  let pid ← onWorld World.addProcess
  let clock := (← get).world.clock
  let ending ← inCopy run do
    modify fun s => { s with descriptors := s.descriptors.assign 0 .nothing, isTested := false }
    run true command
  modify fun s =>
    { s with
      statuses := [0]
      jobs := ⟨pid, ending, s.world.clock, false⟩ :: s.jobs
      world := { s.world with clock } }
  setStatus 0

/-! ## Loops and choices -/

/-- How a round of a loop ends. -/
inductive Round where
  | done
  | over
  deriving DecidableEq

/-- Carries out a part of a round: leaving a loop or going on with its next round ends here, unless
loops further out are meant. -/
def round (action : Action Unit) : Action Round :=
  tryCatch
    (do
      action
      return .done)
    fun stop =>
      match stop with
      | .leaveLoops n => if n ≤ 1 then return .over else throw (.leaveLoops (n - 1))
      | .nextRound n => if n ≤ 1 then return .done else throw (.nextRound (n - 1))
      | stop => throw stop

/-- Runs the rounds of a loop with a test; `status` is that of the round before. -/
def runRounds (run : Runner) (untilSuccess : Bool) (test body : Command) :
    Nat → (status : Nat) → Action Unit
  | 0, _ => throw (.killed 9)
  | n + 1, status => do
    let tried ← round (tested true (run false test))
    let holds := ((← get).status == 0) != untilSuccess
    if tried == .over || !holds then setStatus status
    else
      match ← round (run false body) with
      | .over => return
      | .done => runRounds run untilSuccess test body n (← get).status

/-- Runs a body once for each of some values of a variable. -/
def runValues (run : Runner) (name : String) (body : Command) : List String → Action Unit
  | [] => return
  | value :: values => do
    assign name value
    match ← round (run false body) with
    | .over => return
    | .done => runValues run name body values

/-- True if one of some patterns matches a text. -/
def matchesAny (run : Runner) (text : String) : List Word → Action Bool
  | [] => return false
  | word :: words => do
    if Glob.isMatch (← expandPattern run word) text.toList then return true
    matchesAny run text words

/-- Runs the first clause with a pattern that matches a text, or the first one at all if it is
entered from the one before. -/
def runClause (run : Runner) (last : Bool) (text : String) (isEntered : Bool) :
    List (List Word × Option Command × ClauseEnd) → Action Unit
  | [] => setStatus 0
  | (words, body, ending) :: clauses => do
    if isEntered || (← matchesAny run text words) then
      match body with
      | some body => run (last && ending == .leave) body
      | none => setStatus 0
      match ending, clauses with
      | .leave, _ => return
      | _, [] => return
      | .fallThrough, clauses => runClause run last text true clauses
      | .tryOthers, clauses =>
        let status := (← get).status
        runClause run last text false clauses
        if (← get).status == 0 then setStatus status
    else runClause run last text false clauses

/-- Ends the shell after a failure that nothing looks at, if the option for that is on. In the
extended dialect a command can be run first. -/
def checkFailure (run : Runner) : Action Unit := do
  let s ← get
  if s.status != 0 && !s.isTested then
    match s.traps.find? fun t => t.1 == Extended.failureEvent with
    | some (_, command) =>
      if s.calls.isEmpty || s.options.contains 'E' then
        tested true (runText run false (some "trap") command)
        setStatus s.status
    | none => pure ()
    if s.options.contains 'e' then throw .exit

/-- The text of an expression with what it holds replaced. -/
def expressionText (run : Runner) (expression : Word) : Action String := do
  return Atom.text "" (← expandParts run false expression)

/-- The number that an expression of a command comes to. -/
def commandNumber (run : Runner) (expression : Word) : Action Int := do
  let text ← expressionText run expression
  computeIn "((: " mostLookups text

/-- Shows a command before it runs, if the option for that is on. -/
def traceText (text : String) : Action Unit := do
  if ← hasOption 'x' then write 2 ((← valueOf "PS4").getD "" ++ text ++ "\n")

/-- Checks a condition between double brackets. -/
def runCondition (run : Runner) (test : Test) : Action Unit := do
  setStatus 1
  tolerant do
    if ← Bracket.answer run test then setStatus 0 else setStatus 1

/-- Computes an expression; zero is a failure. -/
def runCalculation (run : Runner) (expression : Word) : Action Unit := do
  setStatus 1
  let text ← expressionText run expression
  traceText ("(( " ++ text ++ " ))")
  tolerant do
    let n ← computeIn "((: " mostLookups text
    setStatus (if n == 0 then 1 else 0)

/-- True if an expression is not zero; one that is missing is not. -/
def isNonzero (run : Runner) (expression : Word) : Action Bool := do
  let text ← expressionText run expression
  if text.toList.all Char.isWhitespace then return true
  return (← computeIn "((: " mostLookups text) != 0

/-- Runs the rounds of a loop that counts. -/
def runCounting (run : Runner) (test next : Word) (body : Command) : Nat → Action Unit
  | 0 => throw (.killed 9)
  | n + 1 => do
    if ← isNonzero run test then
      match ← round (run false body) with
      | .over => return
      | .done =>
        let _ ← commandNumber run next
        runCounting run test next body n

/-- Runs a command. -/
def runCommand (site : Site) (last : Bool) (command : Command) : Action Unit := do
  match command with
  | .simple line assignments words redirections =>
    runSimple site last line assignments words redirections
    modify fun s => { s with statuses := [s.status] }
    checkFailure site.run
  | .pipeline commands =>
    keepStatuses (← runPipeline site.run none commands)
    checkFailure site.run
  | .redirected line command redirections =>
    modify fun s => { s with line }
    keepingDescriptors do
      let openings ← expandRedirections site.run redirections
      if ← tryRedirect openings then site.run false command
    runReaders site.run
  | .background line command => runInBackground site.run line command
  | .subshell line command redirections =>
    runSubshell site.run last line command redirections
    modify fun s => { s with statuses := [s.status] }
    checkFailure site.run
  | .sequence first second =>
    site.run false first
    site.run last second
  | .conjunction first second =>
    tested true (site.run false first)
    if (← get).status == 0 then site.run last second
  | .disjunction first second =>
    tested true (site.run false first)
    if (← get).status != 0 then site.run last second
  | .negation command =>
    tested true (site.run false command)
    setStatus (if (← get).status == 0 then 1 else 0)
  | .conditional test positive negative =>
    let last := last && !(← isExtended)
    tested true (site.run false test)
    if (← get).status == 0 then site.run last positive
    else
      match negative with
      | some negative => site.run last negative
      | none => setStatus 0
  | .loop untilSuccess test body =>
    inLoop (runRounds site.run untilSuccess test body site.rounds 0)
  | .iteration line name words body =>
    modify fun s => { s with line }
    let values ← expandAll site.run words
    setStatus 0
    if ← isExtended then
      traceText ("for " ++ name ++ " in " ++ " ".intercalate (values.map shownField))
    inLoop (runValues site.run name body values)
  | .choice line word clauses =>
    modify fun s => { s with line }
    let last := last && !(← isExtended)
    runClause site.run last (← expandText site.run word) false clauses
  | .definition name body =>
    modify fun s =>
      { s with functions := (name, body) :: s.functions.filter fun f => f.1 != name }
    setStatus 0
  | .condition line test =>
    modify fun s => { s with line }
    runCondition site.run test
    modify fun s => { s with statuses := [s.status] }
    checkFailure site.run
  | .calculation line expression =>
    modify fun s => { s with line }
    runCalculation site.run expression
    modify fun s => { s with statuses := [s.status] }
    checkFailure site.run
  | .counting line start test next body =>
    modify fun s => { s with line }
    let _ ← commandNumber site.run start
    setStatus 0
    inLoop (runCounting site.run test next body site.rounds)
  | .timed command =>
    site.run false command
    write 2 "\nreal\t0m0.000s\nuser\t0m0.000s\nsys\t0m0.000s\n"

/-- Runs a command, and takes the signals that came meanwhile. -/
def step (site : Site) (last : Bool) (command : Command) : Action Unit := do
  takeSignals site.run
  unless ← hasOption 'n' do
    runCommand site last command
    takeSignals site.run

end PointerTagging.Host.Shell
