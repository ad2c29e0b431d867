import PointerTagging.Host.Shell.Declaring
/-!
# Builtins of the extended dialect

The commands that a shell of the extended dialect carries out itself. Errors in them do not end the
shell.
-/

namespace PointerTagging.Host.Shell

open Shell.Action Text

namespace Extended

/-! ## Printing -/

/-- Prints what a format makes of arguments, or sets a variable to it. -/
def printf : Builtin := fun arguments => do
  let usage := "printf [-v var] format [arguments]"
  let (variableName?, arguments) ←
    match arguments with
    | "-v" :: name :: arguments => pure (some name, arguments)
    | arguments => do
      let (_, arguments) ← options usage "" arguments
      pure (none, arguments)
  match arguments with
  | [] => misuse usage ""
  | format :: arguments =>
    let printing := Format.printf .extended format arguments
    match variableName? with
    | some name => assignNamed name printing.text
    | none => Builtin.print printing.text
    for c in printing.complaints do
      complain (c.message .extended)
    return if printing.fails then 1 else 0

/-! ## Control -/

/-- Leaves loops, or goes on with their next round; outside loops nothing happens. -/
def leave (stop : Nat → Stop) : Builtin := fun arguments => do
  let loops := (← get).loops
  if loops == 0 then
    complain "only meaningful in a \x60for', \x60while', or \x60until' loop"
    return 0
  match arguments with
  | [] =>
    setStatus 0
    throw (stop 1)
  | argument :: _ =>
    match numberOf? false argument with
    | none =>
      complain (argument ++ ": numeric argument required")
      setStatus 128
      throw .exit
    | some n =>
      if n ≤ 0 then
        complain (argument ++ ": loop count out of range")
        setStatus 1
        throw (.leaveLoops loops)
      setStatus 0
      throw (stop (min n.toNat loops))

/-- The status that an argument names. -/
def statusOf (argument : String) : Action (Option Nat) := do
  match numberOf? false argument with
  | some n => return some ((n % 256).toNat)
  | none =>
    complain (argument ++ ": numeric argument required")
    return none

/-- Ends the shell with a status. -/
def exit : Builtin := fun arguments => do
  match arguments with
  | [] => throw .exit
  | [argument] =>
    setStatus ((← statusOf argument).getD 2)
    throw .exit
  | argument :: _ =>
    match ← statusOf argument with
    | none =>
      setStatus 2
      throw .exit
    | some _ =>
      complain "too many arguments"
      setStatus 1
      throw .exit

/-- Leaves a function or a file of commands with a status. -/
def «return» : Builtin := fun arguments => do
  let s ← get
  if s.calls.isEmpty && s.voice.isNone then
    failWith 2 "can only \x60return' from a function or sourced script"
  match arguments with
  | [] => throw .leaveFunction
  | argument :: _ =>
    setStatus ((← statusOf argument).getD 2)
    throw .leaveFunction

/-- Runs the commands of a file. -/
def source (run : Runner) : Builtin := fun arguments => do
  match arguments with
  | [] => do
    let name := ((← get).builtin).getD "source"
    complain "filename argument required"
    misuse (name ++ " filename [arguments]") ""
  | path :: words =>
    let s ← get
    let directories := (← searchPath).splitOn ":"
    let paths :=
      if path.contains '/' then [path]
      else directories.map (fun directory => Tree.inside directory path) ++ [path]
    let found := paths.findSome? fun path =>
      match s.world.tree.locate s.place path with
      | .ok (_, .ordinary text _) => some (text, none)
      | .ok (_, .descriptor n) =>
        (s.descriptors.channel? n).map fun channel => (s.world.pending channel, some channel)
      | .ok (_, .nothing) => some ("", none)
      | _ => none
    match found with
    | none =>
      let s ← get
      let isDirectory := (s.world.tree.locate s.place path).toOption.map (·.2) == some .directory
      let reason := if isDirectory then "is a directory" else SystemError.notFound.text
      modify fun s => { s with builtin := if isDirectory then s.builtin else none }
      fail (path ++ ": " ++ reason)
    | some (text, channel) =>
      if let some channel := channel then
        modify fun s => { s with world := s.world.leave channel "" }
      let positions := if words.isEmpty then s.positions else words
      within
        (fun s => { s with
          builtin := none, voice := some path, functionVoice := some path, positions })
        (fun before after => { after with
          builtin := before.builtin, voice := before.voice, functionVoice := before.functionVoice
          positions := if words.isEmpty then after.positions else before.positions })
        (tryCatch (runText run false none text) fun stop =>
          match stop with
          | .leaveFunction => pure ()
          | stop => throw stop)
      return (← get).status

/-- Runs its arguments as a command. -/
def eval (run : Runner) : Builtin := fun arguments => do
  if arguments.isEmpty then return 0
  within (fun s => { s with builtin := none })
    (fun before after => { after with builtin := before.builtin })
    (runText run false (some "eval") (" ".intercalate arguments))
  return (← get).status

/-! ## Directories -/

/-- Goes to a directory. -/
def goTo (path : String) : Action Unit := do
  let s ← get
  match s.world.tree.locate s.place path with
  | .ok (place, .directory) =>
    setBinding "OLDPWD" (.holding (Tree.pathOf s.place) true)
    modify fun s => { s with place }
    setBinding "PWD" (.holding (Tree.pathOf place) true)
  | .ok _ => fail (path ++ ": " ++ SystemError.notADirectory.text)
  | .error error => fail (path ++ ": " ++ error.text)

/-- Changes the current directory. -/
def cd : Builtin := fun arguments => do
  let (_, words) ←
    match arguments with
    | ["-"] => pure ([], ["-"])
    | arguments => options "cd [-L|[-P [-e]] [-@]] [dir]" "LPe@" arguments
  match words with
  | [] =>
    match ← valueOf "HOME" with
    | none => fail "HOME not set"
    | some home => goTo home
  | ["-"] =>
    match ← valueOf "OLDPWD" with
    | none => fail "OLDPWD not set"
    | some old =>
      goTo old
      Builtin.print (Tree.pathOf (← get).place ++ "\n")
  | [""] => pure ()
  | [path] => goTo path
  | _ => fail "too many arguments"
  return 0

/-- Prints the current directory. -/
def pwd : Builtin := fun arguments => do
  let _ ← options "pwd [-LP]" "LP" arguments
  Builtin.print (Tree.pathOf (← get).place ++ "\n")
  return 0

/-- Prints the current directory and those put before it. -/
def dirs : Builtin := fun _ => do
  let s ← get
  Builtin.print (" ".intercalate ((s.place :: s.stack).map Tree.pathOf) ++ "\n")
  return 0

/-- Puts the current directory aside and goes to another one. -/
def pushd : Builtin := fun arguments => do
  let s ← get
  match arguments, s.stack with
  | [], [] => fail "no other directory"
  | [], place :: stack =>
    goTo (Tree.pathOf place)
    modify fun s' => { s' with stack := s.place :: stack }
  | path :: _, stack =>
    goTo path
    modify fun s' => { s' with stack := s.place :: stack }
  dirs []

/-- Goes back to the directory that was put aside last. -/
def popd : Builtin := fun _ => do
  match (← get).stack with
  | [] => fail "directory stack empty"
  | place :: stack =>
    goTo (Tree.pathOf place)
    modify fun s => { s with stack }
    dirs []

/-! ## Options -/

/-- The options of the shell that have no letter. -/
def letterlessNames : List String :=
  ["emacs", "history", "ignoreeof", "interactive-comments", "nolog", "pipefail", "posix", "vi"]

/-- The further options, with those that are on at the start. -/
def featureNames : List (String × Bool) :=
  [("autocd", false), ("assoc_expand_once", false), ("cdable_vars", false), ("cdspell", false),
    ("checkhash", false), ("checkjobs", false), ("checkwinsize", true), ("cmdhist", true),
    ("compat31", false), ("compat32", false), ("compat40", false), ("compat41", false),
    ("compat42", false), ("compat43", false), ("compat44", false), ("complete_fullquote", true),
    ("direxpand", false), ("dirspell", false), ("dotglob", false), ("execfail", false),
    ("expand_aliases", false), ("extdebug", false), ("extglob", false), ("extquote", true),
    ("failglob", false), ("force_fignore", true), ("globasciiranges", true),
    ("globskipdots", true), ("globstar", false), ("gnu_errfmt", false), ("histappend", false),
    ("histreedit", false), ("histverify", false), ("hostcomplete", true), ("huponexit", false),
    ("inherit_errexit", false), ("interactive_comments", true), ("lastpipe", false),
    ("lithist", false), ("localvar_inherit", false), ("localvar_unset", false),
    ("login_shell", false), ("mailwarn", false), ("no_empty_cmd_completion", false),
    ("nocaseglob", false), ("nocasematch", false), ("noexpand_translation", false),
    ("nullglob", false), ("patsub_replacement", true), ("progcomp", true),
    ("progcomp_alias", false), ("promptvars", true), ("restricted_shell", false),
    ("shift_verbose", false), ("sourcepath", true), ("varredir_close", false),
    ("xpg_echo", false)]

/-- The names of all options of `set`, in order. -/
def settingNames : List String :=
  (Bracket.optionNames.map (·.1) ++ letterlessNames).mergeSort fun a b => a ≤ b

/-- Switches a further option or one without a letter. -/
def switch (on : Bool) (name : String) : Action Unit :=
  modify fun s =>
    let others := s.features.filter (· != name)
    { s with features := if on then others ++ [name] else others }

/-- Switches an option of `set` by its long name. -/
def setByName (on : Bool) (name : String) : Action Unit := do
  match Bracket.optionNames.find? fun o => o.1 == name with
  | some (_, letter) => Builtin.setOption on letter
  | none =>
    if letterlessNames.contains name then switch on name
    else failWith 2 (name ++ ": invalid option name")

/-- A text brought to the width of names of options. -/
def nameColumn (name : String) : String :=
  name ++ String.ofList (List.replicate (15 - name.length) ' ')

/-- Lists the options of `set`, as commands if `asCommands`. -/
def listSettings (asCommands : Bool) : Action Unit := do
  for name in settingNames do
    let on ← Bracket.isOptionOn name Bracket.optionNames
    if asCommands then
      Builtin.print ("set " ++ Builtin.optionSign on ++ "o " ++ name ++ "\n")
    else Builtin.print (nameColumn name ++ "\t" ++ (if on then "on" else "off") ++ "\n")

/-- What is said of the use of `set`. -/
def setUsage : String := "set [-abefhkmnptuvxBCEHPT] [-o option-name] [--] [-] [arg ...]"

/-- Switches options as words say, up to the first word that is none; returns the other words, and
whether they are positional parameters even if there are none. `refuse` complains about a letter. -/
def takeOptions (refuse : String → Action Unit) (skipped : List Char) :
    Nat → List String → Action (List String × Bool)
  | 0, words => return (words, false)
  | _, [] => return ([], false)
  | n + 1, word :: words => do
    match word.toList with
    | ['-', '-'] => return (words, true)
    | ['-'] => return (words, false)
    | sign :: letters =>
      unless sign == '-' || sign == '+' do return (word :: words, false)
      let on := sign == '-'
      let mut rest := words
      for letter in letters do
        if letter == 'o' || (letter == 'O' && skipped.contains 'c') then
          match rest with
          | [] => listSettings (!on)
          | name :: others =>
            rest := others
            if letter == 'o' then setByName on name else switch on name
        else if skipped.contains letter then pure ()
        else if "abefhkmnptuvxBCEHPT".contains letter then Builtin.setOption on letter
        else refuse (String.ofList [sign, letter])
      takeOptions refuse skipped n rest
    | [] => return (word :: words, false)

/-- Switches options, and sets the positional parameters. -/
def set : Builtin := fun arguments => do
  if arguments.isEmpty then
    for (name, b) in ← chosen fun b => b.value.isSome || b.array.isSome do
      Builtin.print (shownAssignment name b ++ "\n")
    return 0
  let refuse (option : String) : Action Unit := misuse setUsage (option ++ ": invalid option")
  let (words, isDelimited) ← takeOptions refuse [] (arguments.length + 1) arguments
  if isDelimited || !words.isEmpty then modify fun s => { s with positions := words }
  return 0

/-- Switches or shows further options. -/
def shopt : Builtin := fun arguments => do
  let (letters, words) ← options "shopt [-pqsu] [-o] [optname ...]" "pqsuo" arguments
  let names := if words.isEmpty then featureNames.map (·.1) else words
  let mut status := 0
  for name in names do
    let isSetting := letters.contains 'o'
    let isKnown :=
      if isSetting then settingNames.contains name
      else featureNames.any fun f => f.1 == name
    if !isKnown then
      complain (name ++ ": invalid shell option name")
      status := 1
    else if !words.isEmpty && (letters.contains 's' || letters.contains 'u') then
      if isSetting then setByName (letters.contains 's') name
      else switch (letters.contains 's') name
    else
      let on ←
        if isSetting then Bracket.isOptionOn name Bracket.optionNames
        else do pure ((← get).features.contains name)
      if !words.isEmpty && !on then status := 1
      if letters.contains 'q' then pure ()
      else if letters.contains 'p' then
        Builtin.print ("shopt -" ++ (if on then "s " else "u ") ++ name ++ "\n")
      else if !(words.isEmpty && letters.contains 's' && !on) then
        Builtin.print (nameColumn name ++ "\t" ++ (if on then "on" else "off") ++ "\n")
  return status

/-- Drops positional parameters. -/
def shift : Builtin := fun arguments => do
  let n : Int ←
    match arguments with
    | [] => pure 1
    | argument :: _ =>
      match numberOf? false argument with
      | some n => pure n
      | none => fail (argument ++ ": numeric argument required")
  if n < 0 then fail (toString n ++ ": shift count out of range")
  if n.toNat > (← get).positions.length then return 1
  modify fun s => { s with positions := s.positions.drop n.toNat }
  return 0

/-! ## Reading -/

/-- How `read` and `mapfile` take their input. -/
structure Intake where
  /-- A backslash stands for itself. -/
  isRaw : Bool
  /-- The array that takes the fields. -/
  array : Option String
  /-- The character that ends the input. -/
  ending : Char
  /-- How many characters are read at most. -/
  most : Option Nat
  descriptor : Nat

/-- What is said of the use of `read`. -/
def readUsage : String :=
  "read [-ers] [-a array] [-d delim] [-i text] [-n nchars] [-N nchars] [-p prompt] [-t timeout] " ++
    "[-u fd] [name ...]"

/-- Takes the options of `read`. -/
def readOptions : Nat → Intake → List String → Action (Intake × List String)
  | 0, intake, words => return (intake, words)
  | _, intake, [] => return (intake, [])
  | n + 1, intake, word :: words => do
    match word.toList with
    | ['-', '-'] => return (intake, words)
    | '-' :: letter :: letters =>
      let behind : String := String.ofList letters
      let takesArgument := "adinNptu".contains letter
      if !takesArgument then
        unless "ers".contains letter do
          misuse readUsage ("-" ++ String.ofList [letter] ++ ": invalid option")
        let intake := if letter == 'r' then { intake with isRaw := true } else intake
        let words := if letters.isEmpty then words else ("-" ++ behind) :: words
        readOptions n intake words
      else
        let (argument, words) ←
          match letters, words with
          | [], [] =>
            misuse readUsage ("-" ++ String.ofList [letter] ++ ": option requires an argument")
          | [], argument :: words => pure (argument, words)
          | _, words => pure (behind, words)
        let intake :=
          match letter with
          | 'a' => { intake with array := some argument }
          | 'd' => { intake with ending := argument.toList.headD '\x00' }
          | 'n' => { intake with most := naturalOf? argument }
          | 'N' => { intake with most := naturalOf? argument }
          | 'u' => { intake with descriptor := (naturalOf? argument).getD 0 }
          | _ => intake
        readOptions n intake words
    | _ => return (intake, word :: words)

/-- A text in which a character and the line end have changed places. -/
def swapped (c : Char) (cs : List Char) : List Char :=
  cs.map fun d => if d == c then '\n' else if d == '\n' then c else d

/-- Takes a record from what is pending: its characters with marks for those behind a backslash,
whether it is complete, and what is left. -/
def takeRecord (intake : Intake) (pending : List Char) : List (Char × Bool) × Bool × List Char :=
  let back (c : Char × Bool) : Char × Bool := ((swapped intake.ending [c.1]).headD c.1, c.2)
  let cs := swapped intake.ending pending
  let (line, isComplete, rest) := Builtin.takeLine intake.isRaw (cs.length + 1) cs
  match intake.most with
  | some n =>
    if n < line.length then
      (((pending.take n).map fun c => (c, false)), true, pending.drop n)
    else (line.map back, isComplete || n ≤ line.length, swapped intake.ending rest)
  | none => (line.map back, isComplete, swapped intake.ending rest)

/-- The fields of a line that go into an array. -/
def fieldsOfLine (separators : String) (line : List (Char × Bool)) : List String :=
  let names := List.replicate (line.length + 1) ""
  let shared := (Builtin.shareLine separators names line).map (·.2)
  (shared.reverse.dropWhile String.isEmpty).reverse

/-- Reads a record into variables. -/
def read : Builtin := fun arguments => do
  let (intake, names) ←
    readOptions (arguments.length * 8 + 8) ⟨false, none, '\n', none, 0⟩ arguments
  for name in names do
    unless isName (splitDeclaration name).1 do
      fail ("\x60" ++ name ++ "': not a valid identifier")
  match (← get).descriptors.channel? intake.descriptor with
  | none =>
    fail (toString intake.descriptor ++ ": invalid file descriptor: " ++
      SystemError.badDescriptor.text)
  | some channel =>
    let pending := ((← get).world.pending channel).toList
    let (line, isComplete, rest) := takeRecord intake pending
    modify fun s => { s with world := s.world.leave channel (String.ofList rest) }
    let separators ← separators
    match intake.array, names with
    | some array, _ =>
      let fields := fieldsOfLine separators line
      change array fun b =>
        { b with array := none, value := none }.withArray
          (.indexed ((List.range fields.length).zip fields))
    | none, [] => assign "REPLY" (String.ofList (line.map (·.1)))
    | none, names =>
      for (name, value) in Builtin.shareLine separators names line do
        assignNamed name value
    return if isComplete then 0 else 1

/-- The records of a text with their ends. -/
def records (ending : Char) : List Char → List (List Char)
  | [] => []
  | c :: cs =>
    if c == ending then [c] :: records ending cs
    else
      match records ending cs with
      | [] => [[c]]
      | record :: rest => (c :: record) :: rest

/-- Reads the lines of the input into an array. -/
def mapfile : Builtin := fun arguments => do
  let usage :=
    "mapfile [-d delim] [-n count] [-O origin] [-s count] [-t] [-u fd] [-C callback] " ++
      "[-c quantum] [array]"
  let rec take : Nat → List (Char × String) → List String →
      Action (List (Char × String) × List String)
    | 0, taken, words => return (taken, words)
    | _, taken, [] => return (taken, [])
    | n + 1, taken, word :: words => do
      match word.toList with
      | ['-', '-'] => return (taken, words)
      | '-' :: 't' :: letters =>
        let words := if letters.isEmpty then words else ("-" ++ String.ofList letters) :: words
        take n (('t', "") :: taken) words
      | '-' :: letter :: letters =>
        unless "dnOsuCc".contains letter do
          misuse usage ("-" ++ String.ofList [letter] ++ ": invalid option")
        if letters.isEmpty then take n ((letter, words.headD "") :: taken) (words.drop 1)
        else take n ((letter, String.ofList letters) :: taken) words
      | _ => return (taken, word :: words)
  let (taken, words) ← take (arguments.length * 4 + 4) [] arguments
  let optionOf (letter : Char) : Option String :=
    (taken.find? fun t => t.1 == letter).map (·.2)
  let number (letter : Char) : Nat := ((optionOf letter).bind naturalOf?).getD 0
  let ending := ((optionOf 'd').map fun d => d.toList.headD '\x00').getD '\n'
  match (← get).descriptors.channel? (number 'u') with
  | none => return 1
  | some channel =>
    let all := records ending ((← get).world.pending channel).toList
    modify fun s => { s with world := s.world.leave channel "" }
    let chosen := all.drop (number 's')
    let chosen := if number 'n' == 0 then chosen else chosen.take (number 'n')
    let isTrimmed := (optionOf 't').isSome
    let text (record : List Char) : String :=
      let isComplete := record.getLast? == some ending
      String.ofList (if isTrimmed && isComplete then record.dropLast else record)
    let places := (List.range chosen.length).map fun k => k + number 'O'
    let array := words.headD "MAPFILE"
    let values := places.zip (chosen.map text)
    change array fun b =>
      if (optionOf 'O').isSome then
        values.foldl (fun b v => b.withArray (b.elements.put (toString v.1) v.2)) b
      else b.withArray (.indexed values)
    return 0

/-- Takes the options of a script one after the other. -/
def getopts : Builtin := fun arguments => do
  match arguments with
  | known :: name :: words =>
    let s ← get
    let words := if words.isEmpty then s.positions else words
    let index := max 1 (((← valueOf "OPTIND").bind naturalOf?).getD 1)
    let found := Builtin.nextOption known.toList words index s.optionOffset
    unless found.isLast do
      match found.argument with
      | some argument => assign "OPTARG" argument
      | none => setBinding "OPTARG" .none
    if let some complaint := found.complaint then
      let letter := ((complaint.splitOn "-")[1]?.map fun t => (t.take 1).toString).getD ""
      let reason :=
        if complaint.startsWith "Illegal" then "illegal option" else "option requires an argument"
      write 2 (s.title ++ ": " ++ reason ++ " -- " ++ letter ++ "\n")
    assign "OPTIND" (toString found.index)
    assign name found.name
    let word := (words[found.index - 2]?).getD ""
    modify fun s =>
      { s with optionOffset := if found.rest.isEmpty then 0 else word.length - found.rest.length }
    return if found.isLast then 1 else 0
  | _ => misuse "getopts optstring name [arg ...]" ""

/-! ## Signals and jobs -/

/-- The events besides signals on which commands can be run. -/
def events : List (Nat × String) := [(0, "EXIT"), (65, "ERR"), (66, "DEBUG"), (67, "RETURN")]

/-- The event of a command that fails. -/
def failureEvent : Nat := 65

/-- The name of an event or a signal. -/
def eventName (n : Nat) : String :=
  match events.find? fun e => e.1 == n with
  | some (_, name) => name
  | none => "SIG" ++ signalName n

/-- The event or signal of a name or number. -/
def eventOf? (word : String) : Option Nat :=
  match events.find? fun e => e.2 == word.toUpper with
  | some (n, _) => some n
  | none =>
    let name := word.toUpper
    signalOf? (if name.startsWith "SIG" then (name.drop 3).toString else name)

/-- The list of signals with their numbers, five in a line. -/
def signalTable : String :=
  let one (n : Nat) : String :=
    let text := toString n
    (if text.length < 2 then " " else "") ++ text ++ ") SIG" ++ signalName n ++
      if n % 5 == 0 || n == lastSignal then "\n" else "\t"
  let numbers := ((List.range lastSignal).map (· + 1)).filter fun n => n != 32 && n != 33
  let shown := numbers.map fun n => one n
  String.join shown

/-- Sets what happens on signals and events, or lists it. -/
def trap : Builtin := fun arguments => do
  let (letters, words) ←
    match arguments with
    | "-" :: _ => pure ([], arguments)
    | arguments => options "trap [-lp] [[arg] signal_spec ...]" "lp" arguments
  if letters.contains 'l' then
    Builtin.print signalTable
    return 0
  if words.isEmpty || letters.contains 'p' then
    let wanted := words.filterMap eventOf?
    for (n, command) in (← get).traps.mergeSort fun a b => a.1 ≤ b.1 do
      if words.isEmpty || wanted.contains n then
        Builtin.print ("trap -- " ++ Shaping.quoted command ++ " " ++ eventName n ++ "\n")
    return 0
  let word := words.headD ""
  let isNumber := (naturalOf? word).any fun n => n ≤ lastSignal
  let isReset := words.length == 1 || isNumber || word == "-"
  let names := if words.length == 1 || isNumber then words else words.drop 1
  let mut status := 0
  for name in names do
    match eventOf? name with
    | none =>
      complain (name ++ ": invalid signal specification")
      status := 1
    | some n =>
      modify fun s =>
        let others := s.traps.filter fun t => t.1 != n
        { s with traps := if isReset then others else (n, word) :: others }
  return status

/-- What is said of the use of `kill`. -/
def killUsage : String :=
  "kill [-s sigspec | -n signum | -sigspec] pid | jobspec ... or kill -l [sigspec]"

/-- Sends a signal to a process. -/
def sendSignal (signal : Nat) (word : String) : Action Bool := do
  let refuse (reason : String) : Action Bool := do
    complain reason
    return false
  let isWanted := word.startsWith "%"
  let s ← get
  let pid? :=
    if isWanted then (s.jobs.head?).map (·.pid) else (numberOf? false word).map Int.toNat
  match pid? with
  | none =>
    refuse (word ++
      if isWanted then ": no such job" else ": arguments must be process or job IDs")
  | some pid =>
    if s.world.shells.contains pid then
      if signal != 0 then
        modify fun s =>
          { s with world := { s.world with signals := s.world.signals ++ [(pid, signal)] } }
      return true
    match s.jobs.find? fun job => job.pid == pid && !job.isReaped with
    | none => refuse ("(" ++ word ++ ") - No such process")
    | some job =>
      if s.world.clock < job.time && !harmlessSignals.contains signal then
        let ended : Job := { job with ending := .killed signal, time := s.world.clock }
        modify fun s =>
          { s with jobs := s.jobs.map fun job => if job.pid == pid then ended else job }
      return true

/-- Sends a signal to processes. -/
def sendAll (signal : Nat) (words : List String) : Action Nat := do
  if words.isEmpty then misuse killUsage ""
  let mut status := 0
  for word in words do
    unless ← sendSignal signal word do status := 1
  return status

/-- Sends a signal of a name or number to processes. -/
def sendNamed (name : String) (words : List String) : Action Nat := do
  match eventOf? name with
  | some signal => sendAll signal words
  | none => fail (name ++ ": invalid signal specification")

/-- Lists signals: all of them, or the names of numbers and the numbers of names. -/
def listSignals (words : List String) : Action Nat := do
  if words.isEmpty then
    Builtin.print signalTable
    return 0
  let mut status := 0
  for word in words do
    match naturalOf? word, eventOf? word with
    | some n, _ =>
      let signal := if n > 128 then n - 128 else n
      if signal ≤ lastSignal then Builtin.print (signalName signal ++ "\n")
      else
        complain (word ++ ": invalid signal specification")
        status := 1
    | none, some n => Builtin.print (toString n ++ "\n")
    | none, none =>
      complain (word ++ ": invalid signal specification")
      status := 1
  return status

/-- Sends signals, or lists them. -/
def kill : Builtin := fun arguments => do
  match arguments with
  | [] => misuse killUsage ""
  | word :: words =>
    match word.toList with
    | ['-', '-'] => sendAll 15 words
    | ['-', 'l'] => listSignals words
    | ['-', 'L'] => listSignals words
    | '-' :: letters =>
      if letters == ['s'] || letters == ['n'] then
        match words with
        | [] => misuse killUsage (word ++ ": option requires an argument")
        | name :: words => sendNamed name words
      else sendNamed (String.ofList letters) words
    | _ => sendAll 15 arguments

/-- Waits for a command in the background. -/
def waitFor (pid : Nat) : Action Nat := do
  match (← get).jobs.find? fun job => job.pid == pid with
  | none => failWith 127 ("pid " ++ toString pid ++ " is not a child of this shell")
  | some job =>
    modify fun s =>
      { s with
        world := { s.world with clock := max s.world.clock job.time }
        jobs := s.jobs.map fun j => if j.pid == pid then { j with isReaped := true } else j }
    return job.ending.status

/-- Waits for commands in the background, for all of them if none is named. -/
def wait : Builtin := fun arguments => do
  if arguments.isEmpty then return ← Builtin.wait []
  let mut status := 0
  for word in arguments do
    match naturalOf? word with
    | some pid => status ← waitFor pid
    | none =>
      if word == "-n" then
        match (← get).jobs.find? fun job => !job.isReaped with
        | some job => status ← waitFor job.pid
        | none => status := 127
      else if word.startsWith "%" then
        match (← get).jobs.head? with
        | some job => status ← waitFor job.pid
        | none => failWith 127 (word ++ ": no such job")
      else fail ("\x60" ++ word ++ "': not a pid or valid job spec")
  return status

/-! ## Looking commands up -/

/-- The names of the builtins. -/
def names : List String :=
  [".", ":", "[", "alias", "bg", "bind", "break", "builtin", "caller", "cd", "command", "compgen",
    "complete", "compopt", "continue", "declare", "dirs", "disown", "echo", "enable", "eval",
    "exec", "exit", "export", "false", "fc", "fg", "getopts", "hash", "help", "history", "jobs",
    "kill", "let", "local", "logout", "mapfile", "popd", "printf", "pushd", "pwd", "read",
    "readarray", "readonly", "return", "set", "shift", "shopt", "source", "suspend", "test",
    "times", "trap", "true", "type", "typeset", "ulimit", "umask", "unalias", "unset", "wait"]

/-- What a word names as a command. -/
def kindOf (name : String) : Action Builtin.Kind := do
  let s ← get
  let isReserved := (reservedWords .extended ++ ["]]", "coproc", "select"]).contains name
  if isReserved then return .reserved
  if s.functions.any fun f => f.1 == name then return .function
  if names.contains name then return .regular
  match ← search (← searchPath) name with
  | .ok (path, _) => return .program path
  | .error _ => return .nothing

/-- The sentence that says what a word names as a command. -/
def sentence (word : String) : Builtin.Kind → Option String
  | .reserved => some (word ++ " is a shell keyword")
  | .function => some (word ++ " is a function")
  | .program path => some (word ++ " is " ++ path)
  | .nothing => none
  | _ => some (word ++ " is a shell builtin")

/-- A word for what a word names as a command. -/
def kindWord : Builtin.Kind → Option String
  | .reserved => some "keyword"
  | .function => some "function"
  | .program _ => some "file"
  | .nothing => none
  | _ => some "builtin"

/-- All paths of programs that a word names. -/
def allPaths (word : String) : Action (List String) := do
  let s ← get
  let paths := ((← searchPath).splitOn ":").map fun entry => Tree.inside entry word
  return paths.filter fun path => (s.world.tree.programOrScript s.place path).toOption.isSome

/-- Says what words name as commands. -/
def type : Builtin := fun arguments => do
  let (letters, words) ← options "type [-afptP] name [name ...]" "afptP" arguments
  let mut status := 0
  for word in words do
    let kind ← kindOf word
    if letters.contains 't' then
      match kindWord kind with
      | some text => Builtin.print (text ++ "\n")
      | none => status := 1
    else if letters.contains 'P' || letters.contains 'p' then
      match (← allPaths word).head?, kind with
      | some path, kind =>
        if letters.contains 'P' || kind == .program path then Builtin.print (path ++ "\n")
      | none, _ => status := 1
    else
      match sentence word kind with
      | some text =>
        Builtin.print (text ++ "\n")
        if letters.contains 'a' then
          for path in ← allPaths word do
            if kind != .program path then Builtin.print (word ++ " is " ++ path ++ "\n")
      | none =>
        complain (word ++ ": not found")
        status := 1
  return status

/-- Answers what `command` is asked about words. -/
def command : Builtin := fun arguments => do
  let (letters, words) ← options "command [-pVv] command [arg ...]" "pvV" arguments
  let mut found := false
  for word in words do
    let kind ← kindOf word
    match letters.getLast?, kind with
    | some 'V', kind =>
      match sentence word kind with
      | some text =>
        Builtin.print (text ++ "\n")
        found := true
      | none => complain (word ++ ": not found")
    | _, .program path =>
      Builtin.print (path ++ "\n")
      found := true
    | _, .nothing => pure ()
    | _, _ =>
      Builtin.print (word ++ "\n")
      found := true
  return if words.isEmpty || found then 0 else 1

/-- Looks words up as commands. -/
def hash : Builtin := fun arguments => do
  let (letters, words) ← options "hash [-lr] [-p pathname] [-dt] [name ...]" "lrpdt" arguments
  if words.isEmpty && letters.isEmpty then
    Builtin.print "hash: hash table empty\n"
    return 0
  let mut status := 0
  for word in words do
    if (← kindOf word) == .nothing || letters.contains 't' then
      complain (word ++ ": not found")
      status := 1
  return status

/-- Prints the names that begin with a text. -/
def compgen : Builtin := fun arguments => do
  let print (names : List String) (start : String) : Action Nat := do
    let found := (names.filter fun name => name.startsWith start).mergeSort fun a b => a ≤ b
    for name in found do
      Builtin.print (name ++ "\n")
    return if found.isEmpty then 1 else 0
  let s ← get
  let exported := (s.bindings.filter fun v => v.2.exported && v.2.value.isSome).map (·.1)
  match arguments with
  | "-v" :: rest => print (← namesFrom "") (rest.headD "")
  | "-A" :: "variable" :: rest => print (← namesFrom "") (rest.headD "")
  | "-e" :: rest => print exported (rest.headD "")
  | "-b" :: rest => print names (rest.headD "")
  | "-k" :: rest => print (reservedWords .extended) (rest.headD "")
  | "-A" :: "function" :: rest => print (s.functions.map (·.1)) (rest.headD "")
  | "-W" :: list :: rest =>
    let words := (list.splitOn " ").filter fun word => word.startsWith (rest.headD "")
    for word in words do
      Builtin.print (word ++ "\n")
    return if words.isEmpty then 1 else 0
  | _ => return 1

/-! ## Other builtins -/

/-- Shows or sets words that stand for others. -/
def standIn : Builtin := fun arguments => do
  if arguments.isEmpty then
    for (name, value) in (← get).aliases.mergeSort fun a b => a.1 ≤ b.1 do
      Builtin.print ("alias " ++ name ++ "=" ++ Shaping.quoted value ++ "\n")
    return 0
  let mut status := 0
  for word in arguments do
    match Builtin.splitAssignment word with
    | (name, some value) =>
      modify fun s => { s with aliases := (name, value) :: s.aliases.filter fun a => a.1 != name }
    | (name, none) =>
      match (← get).aliases.find? fun a => a.1 == name with
      | some (_, value) =>
        Builtin.print ("alias " ++ name ++ "=" ++ Shaping.quoted value ++ "\n")
      | none =>
        complain (name ++ ": not found")
        status := 1
  return status

/-- Forgets words that stand for others. -/
def unalias : Builtin := fun arguments => do
  let mut status := 0
  for word in arguments do
    if (← get).aliases.any fun a => a.1 == word then
      modify fun s => { s with aliases := s.aliases.filter fun a => a.1 != word }
    else
      complain (word ++ ": not found")
      status := 1
  return status

/-- Shows or sets the mask for new files. -/
def umask : Builtin := fun arguments => do
  let (letters, words) ← options "umask [-p] [-S] [mode]" "pS" arguments
  match words with
  | [] =>
    let mask := (← get).umask
    let shown :=
      if letters.contains 'S' then Permissions.leftBy mask else Permissions.digits 4 mask
    Builtin.print ((if letters.contains 'p' then "umask " ++
      (if letters.contains 'S' then "-S " else "") else "") ++ shown ++ "\n")
    return 0
  | word :: _ =>
    match Permissions.mask? word (← get).umask with
    | some mask =>
      modify fun s => { s with umask := mask }
      if letters.contains 'S' then Builtin.print (Permissions.leftBy mask ++ "\n")
      return 0
    | none =>
      if (word.toList.headD ' ').isDigit then fail (word ++ ": octal number out of range")
      let names := word.toList.takeWhile fun c => (Permissions.affected? c).isSome
      let rest := word.toList.drop names.length
      let sign := String.ofList ("\x60".toList ++ rest.take 1 ++ "': ".toList)
      if rest.head?.any Permissions.isOperator then
        let wrong := (rest.drop 1).find? fun c => (Permissions.bits? c).isNone
        let sign := String.ofList ("\x60".toList ++ wrong.toList ++ "': ".toList)
        fail (sign ++ "invalid symbolic mode character")
      fail (sign ++ "invalid symbolic mode operator")

/-- Carries out a builtin of a given name. -/
def perform (run : Runner) (name : String) : Builtin :=
  match name with
  | "." => source run
  | "source" => source run
  | "[" => Bracket.test "["
  | "test" => Bracket.test "test"
  | "alias" => standIn
  | "unalias" => unalias
  | "bg" => fun _ => fail "no job control"
  | "fg" => fun _ => fail "no job control"
  | "break" => leave .leaveLoops
  | "continue" => leave .nextRound
  | "caller" => fun _ => do return if (← get).calls.isEmpty then 1 else 0
  | "cd" => cd
  | "command" => command
  | "compgen" => compgen
  | "declare" => declare "declare"
  | "typeset" => declare "typeset"
  | "dirs" => dirs
  | "disown" => fun _ => fail "current: no such job"
  | "echo" => fun arguments => do
    Builtin.print (echo .extended arguments)
    return 0
  | "eval" => eval run
  | "exit" => exit
  | "export" => «export»
  | "false" => fun _ => return 1
  | "getopts" => getopts
  | "hash" => hash
  | "help" => fun arguments => do
    let word := arguments.headD ""
    fail ("no help topics match \x60" ++ word ++ "'.  Try \x60help help' or \x60man -k " ++ word ++
      "' or \x60info " ++ word ++ "'.")
  | "kill" => kill
  | "let" => «let»
  | "local" => «local»
  | "logout" => fun _ => fail "not login shell: use \x60exit'"
  | "mapfile" => mapfile
  | "readarray" => mapfile
  | "popd" => popd
  | "printf" => printf
  | "pushd" => pushd
  | "pwd" => pwd
  | "read" => read
  | "readonly" => readonly
  | "return" => «return»
  | "set" => set
  | "shift" => shift
  | "shopt" => shopt
  | "suspend" => fun _ => fail "cannot suspend: no job control"
  | "times" => fun _ => do
    Builtin.print "0m0.000s 0m0.000s\n0m0.000s 0m0.000s\n"
    return 0
  | "trap" => trap
  | "type" => type
  | "umask" => umask
  | "unset" => unset
  | "wait" => wait
  | _ => fun _ => return 0

end Extended

end PointerTagging.Host.Shell
