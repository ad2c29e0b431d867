import PointerTagging.Host.Shell.Evaluation
/-!
# Starting a shell

A shell as a program: what it takes from its environment and its arguments, and where the commands
come from that it runs.
-/

namespace PointerTagging.Host.Shell

open Shell.Action

/-! ## Variables -/

/-- The variables that a shell sets itself; `parent` is the process that has started it. -/
def ownVariables (place : List String) (parent : Nat) : List (String × Binding) :=
  [("PPID", .holding (toString parent) false), ("PWD", .holding (Tree.pathOf place) true),
    ("OPTIND", .holding "1" false), ("IFS", .holding defaultSeparators false)]

/-- The variables that a shell sets itself if the environment does not. -/
def otherVariables : List (String × Binding) :=
  [("PATH", .holding Tree.searchPath false), ("PS1", .holding "# " false),
    ("PS2", .holding "> " false), ("PS4", .holding "+ " false)]

/-- The variables of a new shell: it takes over those whose names it could have given. -/
def bindingsFrom (context : Context) (own others : List (String × Binding)) :
    List (String × Binding) :=
  let taken := context.environment.filter fun v =>
    isName v.1 && own.all fun o => o.1 != v.1
  let taken : List (String × Binding) := taken.map fun v => (v.1, .holding v.2 true)
  taken ++ own ++ others.filter fun o => taken.all fun v => v.1 != o.1

/-- The parts of the version of the extended dialect. -/
def versionParts : List String := ["5", "2", "15", "1", "release", "x86_64-pc-linux-gnu"]

/-- The version of the extended dialect. -/
def version : String := "5.2.15(1)-release"

/-- The options of the extended dialect that are on at the start. -/
def firstFeatures : List String :=
  "interactive-comments" :: (Extended.featureNames.filter (·.2)).map (·.1)

/-- The variables that a shell of the extended dialect sets itself. -/
def extendedOwnVariables (context : Context) (parent : Nat) : List (String × Binding) :=
  let fixed (value : String) : Binding := { Binding.holding value false with fixed := true }
  let number (value : String) : Binding := { fixed value with isInteger := true }
  let depth := ((context.get? "SHLVL").bind naturalOf?).getD 0
  let parts : Collection := .indexed ((List.range versionParts.length).zip versionParts)
  let features := (Extended.featureNames.filter (·.2)).map (·.1)
  let own : List (String × Binding) :=
    [("BASH", .holding "/usr/bin/bash" false), ("BASHOPTS", fixed (":".intercalate features)),
      ("BASH_VERSINFO", (fixed "").withArray parts), ("BASH_VERSION", .holding version false),
      ("EUID", number "0"), ("HOSTTYPE", .holding "x86_64" false),
      ("IFS", .holding defaultSeparators false),
      ("MACHTYPE", .holding "x86_64-pc-linux-gnu" false), ("OPTERR", .holding "1" false),
      ("OPTIND", .holding "1" false), ("OSTYPE", .holding "linux-gnu" false),
      ("PPID", number (toString parent)), ("PS4", .holding "+ " false),
      ("PWD", .holding (Tree.pathOf context.place) true),
      ("SHLVL", .holding (toString (depth + 1)) true), ("UID", number "0")]
  if (context.get? "OLDPWD").isSome then own
  else ("OLDPWD", { Binding.none with exported := true }) :: own

/-- The variables that a shell of the extended dialect sets itself if the environment does not. -/
def extendedOtherVariables : List (String × Binding) :=
  [("PATH", .holding Tree.searchPath false), ("SHELL", .holding "/bin/bash" false),
    ("TERM", .holding "dumb" false)]

/-- The variables of a new shell of a dialect. -/
def firstBindings (dialect : Dialect) (context : Context) (parent : Nat) :
    List (String × Binding) :=
  match dialect with
  | .common => bindingsFrom context (ownVariables context.place parent) otherVariables
  | .extended =>
    let context := context.dropVariable "_"
    bindingsFrom context (extendedOwnVariables context parent) extendedOtherVariables

/-- A new shell. -/
def State.start (dialect : Dialect) (context : Context) (title : String) (pid : Nat)
    (world : World) : State where
  dialect := dialect
  world := world
  place := context.place
  descriptors := context.descriptors
  title := title
  voice := none
  functionVoice := none
  positions := []
  bindings := firstBindings dialect context ((world.processes.drop 1).headD 1)
  functions := []
  traps := []
  status := 0
  substituted := 0
  options := if dialect == .extended then ['h', 'B'] else []
  line := 0
  builtin := none
  loops := 0
  calls := []
  copies := 0
  statuses := [0]
  lastWord := (context.get? "_").getD title
  features := if dialect == .extended then firstFeatures else []
  aliases := []
  stack := []
  readers := []
  umask := context.mask
  isTested := false
  locals := []
  pid := pid
  isCopy := false
  isPiped := false
  jobs := []
  optionOffset := 0
  hasLostOutput := false

/-! ## Arguments -/

/-- Where a shell gets its commands from. -/
inductive Origin where
  /-- From an argument, behind which the name of the shell may follow. -/
  | argument (text : String)
  | file (path : String)
  | input
  deriving DecidableEq, Repr

/-- What the arguments of a shell say: the origin of the commands, the name of the shell if they
give one, and the positional parameters. -/
def takeArguments (arguments : List String) : Action (Origin × Option String × List String) := do
  let (words, _) ← Builtin.takeOptions ['c', 'l'] (arguments.length + 1) arguments
  let taken := arguments.take (arguments.length - words.length)
  let isText := taken.any fun word => word.startsWith "-" && word.contains 'c'
  match words with
  | [] =>
    if isText then fail "-c requires an argument"
    return (.input, none, [])
  | text :: words =>
    if isText then return (.argument text, words.head?, words.drop 1)
    else if ← hasOption 's' then return (.input, none, text :: words)
    else return (.file text, some text, words)

/-- The text of a script file. -/
def scriptText (path : String) : Action String := do
  let s ← get
  match s.world.tree.locate s.place path with
  | .error error =>
    fail ("cannot open " ++ path ++ ": " ++ if error.isAbsence then "No such file" else error.text)
  | .ok (_, .ordinary text _) => return text
  | .ok _ => return ""

/-! ## The extended dialect -/

/-- Writes a complaint before anything runs, and ends the shell with a status. -/
def refuseStart (status : Nat) (text : String) : Action α := do
  write 2 text
  setStatus status
  throw .exit

/-- The long options, in the order in which they are listed. -/
def longOptions : List String :=
  ["debug", "debugger", "dump-po-strings", "dump-strings", "help", "init-file", "login",
    "noediting", "noprofile", "norc", "posix", "pretty-print", "rcfile", "restricted", "verbose",
    "version"]

/-- What is said of the use of a shell. -/
def usage (title : String) : String :=
  "Usage:\t" ++ title ++ " [GNU long option] [option] ...\n\t" ++ title ++
    " [GNU long option] [option] script-file ...\nGNU long options:\n" ++
    String.join (longOptions.map fun name => "\t--" ++ name ++ "\n") ++
    "Shell options:\n\t-ilrsD or -c command or -O shopt_option\t\t(invocation only)\n" ++
    "\t-abefhkmnptuvxBCEHPT or -o option\n"

/-- Drops the long options at the start of the arguments of a shell. -/
def takeLongOptions (title : String) : Nat → List String → Action (List String)
  | 0, words => return words
  | _, [] => return []
  | n + 1, word :: words => do
    if !word.startsWith "--" || word == "--" then return word :: words
    let name := (word.drop 2).toString
    if name == "version" then
      write 1 ("GNU bash, version " ++ version ++ " (x86_64-pc-linux-gnu)\n")
      setStatus 0
      throw .exit
    else if name == "rcfile" || name == "init-file" then takeLongOptions title n (words.drop 1)
    else if longOptions.contains name then takeLongOptions title n words
    else refuseStart 2 (title ++ ": " ++ word ++ ": invalid option\n" ++ usage title)

/-- What the arguments of a shell of the extended dialect say. -/
def takeExtendedArguments (arguments : List String) :
    Action (Origin × Option String × List String) := do
  let title := (← get).title
  let arguments ← takeLongOptions title (arguments.length + 1) arguments
  let refuse (option : String) : Action Unit :=
    refuseStart 2 (title ++ ": " ++ option ++ ": invalid option\n" ++ usage title)
  let skipped := ['c', 'l', 'i', 's', 'r', 'D']
  let (words, _) ← Extended.takeOptions refuse skipped (arguments.length + 1) arguments
  let taken := arguments.take (arguments.length - words.length)
  let isGiven (letter : Char) : Bool :=
    taken.any fun word => word.startsWith "-" && word != "--" && word.contains letter
  match words with
  | [] =>
    if isGiven 'c' then refuseStart 2 (title ++ ": -c: option requires an argument\n")
    return (.input, none, [])
  | text :: words =>
    if isGiven 'c' then return (.argument text, words.head?, words.drop 1)
    else if isGiven 's' then return (.input, none, text :: words)
    else return (.file text, some text, words)

/-- The text of a script file, for the extended dialect. -/
def extendedScriptText (path : String) : Action String := do
  let s ← get
  match s.world.tree.locate s.place path with
  | .error error => refuseStart 127 (s.title ++ ": " ++ path ++ ": " ++ error.text ++ "\n")
  | .ok (_, .directory) => refuseStart 126 (path ++ ": " ++ path ++ ": Is a directory\n")
  | .ok (_, .ordinary text _) => return text
  | .ok (_, .descriptor n) =>
    match s.descriptors.channel? n with
    | some channel => onWorld fun world => (world.pending channel, world.leave channel "")
    | none => return ""
  | .ok (_, .program _) =>
    refuseStart 126 (path ++ ": " ++ path ++ ": cannot execute binary file\n")
  | .ok _ => return ""

/-- Runs the commands that the arguments of a shell of the extended dialect lead to. -/
def runExtendedArguments (run : Runner) (arguments : List String) : Action Unit := do
  let (origin, title, positions) ← takeExtendedArguments arguments
  let enter (voice : Option String) : Action Unit :=
    modify fun s =>
      { s with
        title := title.getD s.title, positions, line := 1, functionVoice := voice
        loops := 0 }
  match origin with
  | .argument text =>
    enter (some "environment")
    Builtin.setOption true 'c'
    setBinding "BASH_EXECUTION_STRING" (.holding text false)
    runText run true (some "-c") text
  | .file path =>
    let text ← extendedScriptText path
    enter none
    runText run false none text
  | .input =>
    enter (some "main")
    Builtin.setOption true 's'
    let channel := ((← get).descriptors.channel? 0).getD .nothing
    let text ← onWorld fun world => (world.pending channel, world.leave channel "")
    runText run false none text

/-! ## Running -/

/-- Runs the commands that the arguments of a shell lead to. -/
def runArguments (run : Runner) (arguments : List String) : Action Unit := do
  if ← isExtended then return ← runExtendedArguments run arguments
  let (origin, title, positions) ← takeArguments arguments
  let text ←
    match origin with
    | .argument text => pure text
    | .file path => scriptText path
    | .input => do
      Builtin.setOption true 's'
      let channel := ((← get).descriptors.channel? 0).getD .nothing
      onWorld fun world => (world.pending channel, world.leave channel "")
  modify fun s => { s with title := title.getD s.title, positions, line := 1 }
  runText run false none text

/-- Runs a shell of a dialect as the innermost process. -/
def main (dialect : Dialect) (run : Runner) (context : Context) (words : List String)
    (world : World) : Ending × World :=
  let pid := world.processes.headD 1
  let start := State.start dialect context (words.headD "sh") pid world
  let start := { start with world := { world with shells := pid :: world.shells } }
  let (ending, final) := (toEnd run (runArguments run (words.drop 1))).run start
  (ending, { final.world with shells := world.shells })

end PointerTagging.Host.Shell
