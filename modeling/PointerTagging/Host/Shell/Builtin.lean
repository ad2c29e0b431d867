import PointerTagging.Host.Condition
import PointerTagging.Host.Format
import PointerTagging.Host.Permissions
import PointerTagging.Host.Shell.Expansion
/-!
# Builtins

The commands that the shell carries out itself. Each takes its arguments and returns a status.
-/

namespace PointerTagging.Host.Shell

open Shell.Action Text

/-- A builtin: what it does with its arguments. -/
abbrev Builtin := List String → Action Nat

namespace Builtin

/-- Prints on standard output. -/
def print (text : String) : Action Unit := do
  match (← get).descriptors.channel? 1 with
  | none => modify fun s => { s with hasLostOutput := s.hasLostOutput || !text.isEmpty }
  | some (.source _) =>
    modify fun s => { s with hasLostOutput := s.hasLostOutput || !text.isEmpty }
  | some .full =>
    modify fun s => { s with hasLostOutput := s.hasLostOutput || !text.isEmpty }
  | some _ => write 1 text

/-- The number that an argument has to be. -/
def number (argument : String) : Action Nat := do
  match (numberOf? false argument).filter fun n => 0 ≤ n && n ≤ 2147483647 with
  | some n => return n.toNat
  | none => fail ("Illegal number: " ++ argument)

/-- A text between single quotes. -/
def quote (text : String) : String :=
  let inner := text.replace "'" "'\"'\"'"
  "'" ++ inner ++ "'"

/-- The letters of the options at the start of some arguments, which all have to be known, and the
other arguments. -/
def options (known : List Char) : List String → Action (List Char × List String)
  | [] => return ([], [])
  | word :: words => do
    match word.toList with
    | ['-', '-'] => return ([], words)
    | '-' :: c :: cs =>
      for letter in c :: cs do
        unless known.contains letter do fail ("Illegal option -" ++ String.ofList [letter])
      let (letters, rest) ← options known words
      return (c :: cs ++ letters, rest)
    | _ => return ([], word :: words)

/-! ## Printing and testing -/

/-- Prints what a format makes of arguments. -/
def printf : Builtin := fun arguments => do
  let (_, arguments) ← options [] arguments
  match arguments with
  | [] => fail "usage: printf format [arg ...]"
  | format :: arguments =>
    let printing := Format.printf .builtin format arguments
    print printing.text
    for c in printing.complaints do
      if c.isFatal .builtin then fail (c.message .builtin) else complain (c.message .builtin)
    return if printing.fails then 1 else 0

/-- Checks a condition. -/
def test (name : String) : Builtin := fun arguments => do
  let s ← get
  match Condition.test ⟨s.world.tree, s.place⟩ name arguments with
  | .ok true => return 0
  | .ok false => return 1
  | .error complaint => fail (complaint.message .builtin)

/-! ## Control -/

/-- How many loops an argument means. -/
def loopCount (arguments : List String) : Action Nat := do
  match arguments with
  | [] => return 1
  | argument :: _ =>
    let n ← number argument
    if n == 0 then fail ("Illegal number: " ++ argument)
    return n

/-- Leaves loops, or goes on with their next round; outside loops nothing happens. -/
def leave (stop : Nat → Stop) : Builtin := fun arguments => do
  let n ← loopCount arguments
  let loops := (← get).loops
  if loops == 0 then return 0
  setStatus 0
  throw (stop (min n loops))

/-- Ends the shell or a function with a status. -/
def finish (stop : Stop) : Builtin := fun arguments => do
  match arguments with
  | [] => pure ()
  | argument :: _ => setStatus (← number argument)
  throw stop

/-- Runs its arguments as a command. -/
def eval (run : Runner) : Builtin := fun arguments => do
  if arguments.isEmpty then return 0
  runText run false (some "eval") (" ".intercalate arguments)
  return (← get).status

/-- Runs the commands of a file. -/
def dot (run : Runner) : Builtin := fun arguments => do
  match arguments with
  | [] => return 0
  | path :: _ =>
    let s ← get
    let directories := (← searchPath).splitOn ":"
    let paths :=
      if path.contains '/' then [path]
      else directories.map fun directory => Tree.inside directory path
    let file := paths.findSome? fun path =>
      match s.world.tree.locate s.place path with
      | .ok (_, .ordinary text _) => some text
      | .ok (_, .nothing) => some ""
      | .ok (_, .descriptor n) => (s.descriptors.channel? n).map s.world.pending
      | _ => none
    match file with
    | none =>
      if path.contains '/' then fail ("cannot open " ++ path ++ ": No such file")
      else fail (path ++ ": not found")
    | some text =>
      let script := asBuiltin path (tested false (runText run false none text))
      tryCatch script fun stop =>
        match stop with
        | .leaveFunction => pure ()
        | stop => throw stop
      return (← get).status

/-! ## Directories -/

/-- Changes the current directory. -/
def cd : Builtin := fun arguments => do
  let (_, arguments) ← options ['L', 'P'] arguments
  let target ←
    match arguments with
    | [] => do pure ((← valueOf "HOME").getD "")
    | "-" :: _ => do pure ((← valueOf "OLDPWD").getD "")
    | path :: _ => pure path
  if target.isEmpty then return 0
  let s ← get
  match s.world.tree.locate s.place target with
  | .ok (place, .directory) =>
    setBinding "OLDPWD" (.holding (Tree.pathOf s.place) true)
    modify fun s => { s with place }
    setBinding "PWD" (.holding (Tree.pathOf place) true)
    if arguments.head? == some "-" then print (Tree.pathOf place ++ "\n")
    return 0
  | _ => fail ("can't cd to " ++ target)

/-- Prints the current directory. -/
def pwd : Builtin := fun arguments => do
  let _ ← options ['L', 'P'] arguments
  print (Tree.pathOf (← get).place ++ "\n")
  return 0

/-! ## Variables -/

/-- The name and the value in a word that may be an assignment. -/
def splitAssignment (word : String) : String × Option String :=
  let name := word.toList.takeWhile (· != '=')
  match word.toList.drop name.length with
  | [] => (String.ofList name, none)
  | _ :: value => (String.ofList name, some (String.ofList value))

/-- Carries out a declaration of each of some names, which has to be a name of a variable. -/
def declare (words : List String) (one : String → Option String → Action Unit) : Action Nat := do
  for word in words do
    let (name, value) := splitAssignment word
    unless isName name do fail (name ++ ": bad variable name")
    one name value
  return 0

/-- The variables that satisfy a test as commands that declare them, in the order of their names. -/
def listing (command : String) (test : Binding → Bool) : Action Unit := do
  let chosen := ((← get).bindings.filter fun v => test v.2).mergeSort fun a b => a.1 ≤ b.1
  for (name, binding) in chosen do
    let value := (binding.value.map fun value => "=" ++ quote value).getD ""
    print (command ++ name ++ value ++ "\n")

/-- Sets variables and has programs be given them. -/
def «export» : Builtin := fun arguments => do
  let (_, words) ← options ['p'] arguments
  if words.isEmpty then
    listing "export " (·.exported)
    return 0
  declare words fun name value => do
    if value.isSome then change name fun b => { b with value }
    setBinding name { ← binding name with exported := true }

/-- Sets variables for good. -/
def readonly : Builtin := fun arguments => do
  let (_, words) ← options ['p'] arguments
  if words.isEmpty then
    listing "readonly " (·.fixed)
    return 0
  declare words fun name value => do
    if value.isSome then change name fun b => { b with value }
    setBinding name { ← binding name with fixed := true }

/-- Makes variables local to the function that runs. -/
def «local» : Builtin := fun arguments => do
  if (← get).locals.isEmpty then fail "not in a function"
  declare arguments fun name value => do
    makeLocal name
    if value.isSome then change name fun b => { b with value }

/-- Forgets variables or functions. -/
def unset : Builtin := fun arguments => do
  let (letters, names) ← options ['v', 'f'] arguments
  for name in names do
    if letters.getLast? == some 'f' then
      modify fun s => { s with functions := s.functions.filter fun f => f.1 != name }
    else
      unless isName name do fail (name ++ ": bad variable name")
      change name fun _ => .none
      setBinding name .none
  return 0

/-- Drops positional parameters. -/
def shift : Builtin := fun arguments => do
  let n ←
    match arguments with
    | [] => pure 1
    | argument :: _ => number argument
  if n > (← get).positions.length then fail "can't shift that many"
  modify fun s => { s with positions := s.positions.drop n }
  return 0

/-- The long names of the options with their letters. -/
def optionNames : List (String × Char) :=
  [("errexit", 'e'), ("noglob", 'f'), ("ignoreeof", 'I'), ("interactive", 'i'), ("monitor", 'm'),
    ("noexec", 'n'), ("stdin", 's'), ("xtrace", 'x'), ("verbose", 'v'), ("vi", 'V'),
    ("emacs", 'E'), ("noclobber", 'C'), ("allexport", 'a'), ("notify", 'b'), ("nounset", 'u')]

/-- Turns an option on or off. -/
def setOption (on : Bool) (letter : Char) : Action Unit :=
  modify fun s =>
    let others := s.options.filter (· != letter)
    { s with options := if on then others ++ [letter] else others }

/-- The sign in front of an option. -/
def optionSign (on : Bool) : String := if on then "-" else "+"

/-- Turns options on and off as words say, up to the first word that is none; returns the other
words, and whether `--` stood before them. `skipped` letters change nothing. -/
def takeOptions (skipped : List Char) : Nat → List String → Action (List String × Bool)
  | 0, words => return (words, false)
  | _, [] => return ([], false)
  | n + 1, word :: words => do
    match word.toList with
    | ['-', '-'] => return (words, true)
    | ['-'] => return (words, false)
    | sign :: letters =>
      unless sign == '-' || sign == '+' do return (word :: words, false)
      let on := sign == '-'
      let mut rest := words
      for letter in letters do
        if letter == 'o' then
          match rest with
          | [] => pure ()
          | name :: others =>
            rest := others
            match optionNames.find? fun o => o.1 == name with
            | some (_, letter) => setOption on letter
            | none => fail ("Illegal option " ++ optionSign on ++ "o " ++ name)
        else if skipped.contains letter then pure ()
        else if optionNames.any fun o => o.2 == letter then setOption on letter
        else fail ("Illegal option " ++ optionSign on ++ String.ofList [letter])
      takeOptions skipped n rest
    | [] => return (word :: words, false)

/-- Turns options on and off, and sets the positional parameters. -/
def set : Builtin := fun arguments => do
  if arguments.isEmpty then
    listing "" (·.value.isSome)
    return 0
  let (words, isDelimited) ← takeOptions [] (arguments.length + 1) arguments
  if isDelimited || !words.isEmpty then modify fun s => { s with positions := words }
  return 0

/-! ## Reading -/

/-- Takes a line from an input: its characters, each with a mark if a backslash stands before it,
whether the line is complete, and what follows. -/
def takeLine (raw : Bool) : Nat → List Char → List (Char × Bool) × Bool × List Char
  | 0, cs => ([], false, cs)
  | n + 1, cs =>
    match cs with
    | [] => ([], false, [])
    | '\n' :: rest => ([], true, rest)
    | '\\' :: rest =>
      if raw then
        let (line, complete, rest) := takeLine raw n rest
        (('\\', false) :: line, complete, rest)
      else
        match rest with
        | [] => ([], false, [])
        | '\n' :: rest => takeLine raw n rest
        | c :: rest =>
          let (line, complete, rest) := takeLine raw n rest
          ((c, true) :: line, complete, rest)
    | c :: rest =>
      let (line, complete, rest) := takeLine raw n rest
      ((c, false) :: line, complete, rest)

/-- How much of a line for a last variable has been looked at, and what follows from it. -/
structure LastField where
  /-- How many characters have been looked at. -/
  length : Nat
  /-- Where the line is cut, if nothing else comes: at the first separator if only blanks follow it,
  else at the blanks at the end. -/
  cut : Option Nat
  /-- A separator has come. -/
  isOver : Bool
  /-- The first separator was a blank, so that one of another kind still belongs to it. -/
  takesSeparator : Bool

/-- True of the separators that count as one where several stand together. -/
def isBlank (c : Char) : Bool := c == ' ' || c == '\t' || c == '\n'

/-- Looks at one more character. One behind a backslash does not count. -/
def LastField.add (separators : List Char) (field : LastField) (c : Char × Bool) : LastField :=
  let length := field.length + 1
  let separates := separators.contains c.1
  if c.2 then { field with length, takesSeparator := false }
  else if !field.isOver then
    if separates then ⟨length, some field.length, true, isBlank c.1⟩
    else ⟨length, none, false, false⟩
  else if separates && isBlank c.1 then
    { field with length, cut := some (field.cut.getD field.length) }
  else if separates && field.takesSeparator then { field with length, takesSeparator := false }
  else ⟨length, none, true, false⟩

/-- Shares a line among variables: a field for each, and what is left for the last one. -/
def shareLine (separators : String) : List String → List (Char × Bool) → List (String × String)
  | [], _ => []
  | name :: names, line =>
    let separates (c : Char × Bool) : Bool := !c.2 && separators.contains c.1
    let separatesAsBlank (c : Char × Bool) : Bool := separates c && isBlank c.1
    let line := line.dropWhile separatesAsBlank
    let text (cs : List (Char × Bool)) : String := String.ofList (cs.map (·.1))
    if names.isEmpty then
      let field := line.foldl (LastField.add separators.toList) ⟨0, none, false, false⟩
      [(name, text (line.take (field.cut.getD line.length)))]
    else
      let field := line.takeWhile fun c => !separates c
      let rest := (line.drop field.length).dropWhile separatesAsBlank
      let rest := if (rest.head?.map separates).getD false then rest.drop 1 else rest
      (name, text field) :: shareLine separators names rest

/-- Reads a line into variables. -/
def read : Builtin := fun arguments => do
  let (letters, names) ← options ['r', 'p'] arguments
  let names := if letters.contains 'p' then names.drop 1 else names
  if names.isEmpty then fail "arg count"
  for name in names do
    unless isName name do fail (name ++ ": bad variable name")
  match (← get).descriptors.channel? 0 with
  | none => return 1
  | some channel =>
    let pending := ((← get).world.pending channel).toList
    let (line, complete, rest) := takeLine (letters.contains 'r') (pending.length + 1) pending
    modify fun s => { s with world := s.world.leave channel (String.ofList rest) }
    for (name, value) in shareLine (← separators) names line do
      assign name value
    return if complete then 0 else 1

/-- What comes of looking for an option in words. -/
structure OptionFound where
  /-- The option, or what stands for it. -/
  name : String
  /-- The argument: empty for an option that takes none, missing if something is wrong. -/
  argument : Option String
  complaint : Option String
  /-- What is left of the word. -/
  rest : List Char
  /-- The words have no more options. -/
  isLast : Bool
  /-- The number of the next word. -/
  index : Nat

/-- Looks up an option among the known ones, a colon behind those that take an argument; `words` are
those behind the word whose rest is given, and `index` is the number of the first of them. -/
def lookUpOption (known : List Char) (letter : Char) (rest : List Char) (words : List String)
    (index : Nat) : OptionFound :=
  let isSilent := known.head? == some ':'
  let name := String.ofList [letter]
  let wrong (sign complaint : String) : OptionFound :=
    if isSilent then ⟨sign, some name, none, rest, false, index⟩
    else ⟨"?", none, some complaint, rest, false, index⟩
  if letter == ':' || !known.contains letter then wrong "?" ("Illegal option -" ++ name ++ "\n")
  else
    match (known.dropWhile (· != letter)).drop 1, rest, words with
    | ':' :: _, [], argument :: _ => ⟨name, some argument, none, [], false, index + 1⟩
    | ':' :: _, [], [] => wrong ":" ("No arg for -" ++ name ++ " option\n")
    | ':' :: _, rest, _ => ⟨name, some (String.ofList rest), none, [], false, index⟩
    | _, rest, _ => ⟨name, some "", none, rest, false, index⟩

/-- Looks for the next option in words, from the word with number `index` on; `offset` says where in
the word before it options are left. -/
def nextOption (known : List Char) (words : List String) (index offset : Nat) : OptionFound :=
  let ending (index : Nat) : OptionFound := ⟨"?", none, none, [], true, index⟩
  let current := (((words[index - 2]?).getD "").toList).drop offset
  if 1 < index && 0 < offset && !current.isEmpty then
    lookUpOption known (current.headD '?') current.tail (words.drop (index - 1)) index
  else
    match words.drop (index - 1) with
    | [] => ending index
    | word :: words =>
      match word.toList with
      | ['-', '-'] => ending (index + 1)
      | '-' :: letter :: rest => lookUpOption known letter rest words (index + 1)
      | _ => ending index

/-- Takes the options of a script one after the other. -/
def getopts : Builtin := fun arguments => do
  match arguments with
  | known :: name :: words =>
    let s ← get
    let words := if words.isEmpty then s.positions else words
    let index := max 1 (((← valueOf "OPTIND").bind naturalOf?).getD 1)
    let found := nextOption known.toList words index s.optionOffset
    unless found.isLast do
      match found.argument with
      | some argument => assign "OPTARG" argument
      | none => setBinding "OPTARG" .none
    if let some complaint := found.complaint then write 2 complaint
    assign "OPTIND" (toString found.index)
    assign name found.name
    let word := (words[found.index - 2]?).getD ""
    modify fun s =>
      { s with optionOffset := if found.rest.isEmpty then 0 else word.length - found.rest.length }
    return if found.isLast then 1 else 0
  | _ => fail "Usage: getopts optstring var [arg...]"

/-! ## Signals and jobs -/

/-- Sets what happens on signals, or lists it. -/
def trap : Builtin := fun arguments => do
  let (_, words) ← options [] arguments
  match words with
  | [] =>
    for (signal, command) in (← get).traps.mergeSort fun a b => a.1 ≤ b.1 do
      print ("trap -- " ++ quote command ++ " " ++ signalName signal ++ "\n")
    return 0
  | word :: words =>
    let isNumber := (naturalOf? word).any fun n => n ≤ lastSignal
    let isReset := words.isEmpty || isNumber
    let names := if isReset then word :: words else words
    for name in names do
      match if name.toUpper == "EXIT" then some 0 else signalOf? name with
      | none =>
        write 2 ("trap: " ++ name ++ ": bad trap\n")
        return 1
      | some signal =>
        modify fun s =>
          let others := s.traps.filter fun t => t.1 != signal
          { s with
            traps := if isReset || word == "-" then others else (signal, word) :: others }
    return 0

/-- Sends a signal to a process. -/
def sendSignal (signal : Nat) (target : String) : Action Bool := do
  if target.startsWith "%" then fail ("No such job: " ++ target)
  if target.startsWith "-" then
    let _ ← number (target.drop 1).toString
    complain "No such process\n"
    return false
  let pid ← number target
  let s ← get
  if s.world.shells.contains pid then
    if signal != 0 then
      modify fun s =>
        { s with world := { s.world with signals := s.world.signals ++ [(pid, signal)] } }
    return true
  match s.jobs.find? fun job => job.pid == pid && !job.isReaped with
  | none =>
    complain "No such process\n"
    return false
  | some job =>
    if s.world.clock < job.time && !harmlessSignals.contains signal then
      let ended : Job := { job with ending := .killed signal, time := s.world.clock }
      modify fun s =>
        { s with jobs := s.jobs.map fun job => if job.pid == pid then ended else job }
    return true

/-- What `kill` says about its use. -/
def killUsage : String :=
  "Usage: kill [-s sigspec | -signum | -sigspec] [pid | job]... or\nkill -l [exitstatus]"

/-- Sends a signal to processes. -/
def sendAll (signal : Nat) (targets : List String) : Action Nat := do
  if targets.isEmpty then fail killUsage
  let mut status := 0
  for target in targets do
    unless ← sendSignal signal target do status := 1
  return status

/-- The signal that an option names, which has to be one. -/
def signalNamed (name : String) : Action Nat := do
  match signalOf? name with
  | some signal => return signal
  | none => fail ("invalid signal number or name: " ++ name)

/-- Lists the names of the signals, or the one that a status comes from. -/
def listSignals (arguments : List String) : Action Nat := do
  match arguments with
  | [] =>
    print "0\n"
    for signal in List.range lastSignal do
      print (signalName (signal + 1) ++ "\n")
    return 0
  | argument :: _ =>
    let n ← number argument
    let signal := if n > 128 then n - 128 else n
    if 0 < signal && signal ≤ lastSignal then
      print (signalName signal ++ "\n")
      return 0
    fail ("invalid signal number or exit status: " ++ argument)

/-- Sends signals, or lists them. -/
def kill : Builtin := fun arguments => do
  match arguments with
  | [] => fail killUsage
  | word :: words =>
    match word.toList with
    | '-' :: letters =>
      match signalOf? (String.ofList letters), letters with
      | some signal, _ => sendAll signal words
      | none, ['-'] => sendAll 15 words
      | none, ['l'] => listSignals words
      | none, ['s'] =>
        match words with
        | [] => fail "No arg for -s option"
        | name :: words =>
          let words := if words.head? == some "--" then words.drop 1 else words
          sendAll (← signalNamed name) words
      | none, 's' :: name => do sendAll (← signalNamed (String.ofList name)) words
      | none, letters => fail ("Illegal option -" ++ String.ofList (letters.take 1))
    | _ => sendAll 15 arguments

/-- Waits for a command in the background. -/
def waitFor (pid : Nat) : Action Nat := do
  match (← get).jobs.find? fun job => job.pid == pid with
  | none => return 127
  | some job =>
    modify fun s =>
      { s with
        world := { s.world with clock := max s.world.clock job.time }
        jobs := s.jobs.map fun j => if j.pid == pid then { j with isReaped := true } else j }
    unless job.isReaped do announce job.ending
    return job.ending.status

/-- Waits for commands in the background, for all of them if none is named. -/
def wait : Builtin := fun arguments => do
  if arguments.isEmpty then
    modify fun s =>
      let clock := s.jobs.foldl (fun clock job => max clock job.time) s.world.clock
      { s with
        world := { s.world with clock }
        jobs := s.jobs.map fun job => { job with isReaped := true } }
    return 0
  let mut status := 0
  for argument in arguments do
    if argument.startsWith "%" then fail ("No such job: " ++ argument)
    status ← waitFor (← number argument)
  return status

/-- Shows or sets the mask for new files. -/
def umask : Builtin := fun arguments => do
  let isLettered := arguments.head? == some "-S"
  let words := if isLettered then arguments.drop 1 else arguments
  let words := if words.head? == some "--" then words.drop 1 else words
  let mask := (← get).umask
  match words with
  | [] =>
    print ((if isLettered then Permissions.leftBy mask else Permissions.digits 4 mask) ++ "\n")
  | word :: _ =>
    if word.startsWith "-" && !isLettered && word.length > 1 then
      fail ("Illegal option " ++ (word.take 2).toString)
    match Permissions.mask? word mask with
    | some mask => modify fun s => { s with umask := mask }
    | none =>
      let kind := if word.toList.head?.any Char.isDigit then "number" else "mode"
      fail ("Illegal " ++ kind ++ ": " ++ word)
  return 0

/-! ## The table -/

/-- The names of the builtins apart from the special ones. -/
def regularNames : List String :=
  ["[", "alias", "bg", "cd", "chdir", "command", "echo", "false", "fg", "getopts", "hash", "jobs",
    "kill", "local", "printf", "pwd", "read", "test", "true", "type", "ulimit", "umask", "unalias",
    "wait"]

/-- True of a builtin whose errors end the shell and whose assignments last. -/
def isSpecial (name : String) : Bool := specialBuiltins.contains name || name == "local"

/-- True of the name of a builtin. -/
def isBuiltin (name : String) : Bool := isSpecial name || regularNames.contains name

/-- True of a builtin whose arguments are assignments. -/
def declares (name : String) : Bool := ["export", "readonly", "local"].contains name

/-- What a word names as a command: a kind of answer for each use. -/
inductive Kind where
  | reserved
  | function
  | special
  | regular
  | program (path : String)
  | nothing
  deriving DecidableEq, Repr

/-- What a word names as a command. -/
def kindOf (name : String) : Action Kind := do
  let s ← get
  if (reservedWords s.dialect).contains name then return .reserved
  if isSpecial name then return .special
  if s.functions.any fun f => f.1 == name then return .function
  if regularNames.contains name then return .regular
  match ← search (← searchPath) name with
  | .ok (path, _) => return .program path
  | .error _ => return .nothing

/-- Says what words name as commands. -/
def describe (words : List String) : Action Nat := do
  let mut status := 0
  for word in words do
    match ← kindOf word with
    | .reserved => print (word ++ " is a shell keyword\n")
    | .function => print (word ++ " is a shell function\n")
    | .special => print (word ++ " is a special shell builtin\n")
    | .regular => print (word ++ " is a shell builtin\n")
    | .program path => print (word ++ " is " ++ path ++ "\n")
    | .nothing =>
      print (word ++ ": not found\n")
      status := 127
  return status

/-- Says how a word would be found as a command. -/
def locate (word : String) : Action Nat := do
  match ← kindOf word with
  | .program path => print (path ++ "\n")
  | .nothing => return 127
  | _ => print (word ++ "\n")
  return 0

/-- Looks words up as commands. -/
def hash : Builtin := fun words => do
  let mut status := 0
  for word in words do
    if (← kindOf word) == .nothing then
      complain (word ++ ": not found")
      status := 1
  return status

/-- Answers what `command` is asked about words. -/
def command : Builtin := fun arguments => do
  let (letters, words) ← options ['p', 'v', 'V'] arguments
  match letters.getLast?, words with
  | some 'V', word :: _ => describe [word]
  | some 'v', word :: _ => locate word
  | _, _ => return 0

/-- Carries out a builtin of a given name. -/
def perform (run : Runner) (name : String) : Builtin :=
  match name with
  | "." => dot run
  | "[" => test "["
  | "bg" => fun _ => fail "No current job"
  | "break" => leave .leaveLoops
  | "cd" => cd
  | "chdir" => cd
  | "command" => command
  | "continue" => leave .nextRound
  | "echo" => fun arguments => do
    print (echo .builtin arguments)
    return 0
  | "eval" => eval run
  | "exit" => finish .exit
  | "export" => «export»
  | "false" => fun _ => return 1
  | "fg" => fun _ => fail "No current job"
  | "getopts" => getopts
  | "hash" => hash
  | "kill" => kill
  | "local" => «local»
  | "printf" => printf
  | "pwd" => pwd
  | "read" => read
  | "readonly" => readonly
  | "return" => finish .leaveFunction
  | "set" => set
  | "shift" => shift
  | "test" => test "test"
  | "times" => fun _ => do
    print "0m0.00s 0m0.00s\n0m0.00s 0m0.00s\n"
    return 0
  | "trap" => trap
  | "type" => describe
  | "umask" => umask
  | "unset" => unset
  | "wait" => wait
  | _ => fun _ => return 0

end Builtin

end PointerTagging.Host.Shell
