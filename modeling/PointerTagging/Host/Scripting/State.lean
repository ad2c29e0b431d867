import PointerTagging.Host.Launching
import PointerTagging.Host.Scripting.Statements
import PointerTagging.Host.Scripting.Value
/-!
# The state of a script

The objects that variables name and references lead to, the scopes, the streams, and the actions on
them that everything else is built from.
-/

namespace PointerTagging.Host.Scripting

open Text

/-- The variables of the blocks around a statement, the innermost first, each with its sign. -/
abbrev Scope := List (String × Nat)

/-- What a number stands for that a name or a reference leads to. -/
inductive Object where
  | scalar (value : Value)
  /-- The scalars of an array. -/
  | array (cells : Array Nat)
  /-- The keys of a table with their scalars, in the order in which they came. -/
  | hash (cells : List (String × Nat))
  /-- A function; without a scope of its own it sees the variables of the script. -/
  | code (scope : Option Scope) (body : Block)

/-- Where a stream leads. -/
inductive Direction where
  /-- The standard input. -/
  | input
  /-- A text that is read. -/
  | reading
  | descriptor (n : Nat)
  | file (path : String)
  /-- A command, which reads what is written when the stream is closed. -/
  | command (words : List String)
  /-- The text of a scalar. -/
  | memory (id : Nat)

/-- A stream. -/
structure Stream where
  direction : Direction
  /-- What is left to read. -/
  rest : String
  /-- What has been written to a command. -/
  written : String
  /-- How many lines have been read. -/
  lines : Nat
  /-- The status of the command that is read from. -/
  status : Nat

/-- What the last pattern has found: the text, the start and the end of each group by its number,
and the numbers of the groups with names. -/
structure Found where
  text : String
  groups : List (Nat × Nat × Nat)
  names : List (String × Nat)

/-- What is put back at the end of a block. -/
inductive Saved where
  | binding (key : String) (id : Option Nat)
  | entry (hash : Nat) (key : String) (cell : Option Nat)

/-- What a block is run for. -/
inductive Want where
  | nothing
  | one
  | many
  deriving DecidableEq, Repr

/-- A copy of the script that runs as a process of its own; it has run already. -/
structure Child where
  pid : Nat
  ending : Ending
  /-- The time at which it is over. -/
  time : Nat

/-- The state of a script that runs. -/
structure State where
  world : World
  context : Context
  start : Launcher
  /-- The name of the script in messages. -/
  file : String
  objects : Array Object
  /-- The variables that are known everywhere, each with its sign. -/
  globals : List (String × Nat)
  scope : Scope
  /-- The variables of the script outside all blocks. -/
  scriptScope : Scope
  /-- How many functions run. -/
  depth : Nat
  saved : List Saved
  streams : List (String × Stream)
  /-- The stream that is printed to. -/
  selected : String
  printed : String
  hasPrinted : Bool
  line : Nat
  /-- The stream that a line has been read from last. -/
  lastRead : Option String
  found : Option Found
  /-- How far scalars have been searched: the scalar, its text then, and the place. -/
  positions : List (Nat × String × Nat)
  wants : List Want
  /-- What is left of the current one of the files that the arguments name. -/
  argument : Option String
  hasArguments : Bool
  /-- The ending for copies of the files that are changed, if files are changed. -/
  inPlace : Option String
  /-- The file that is changed, and its new text. -/
  changed : Option (String × String)
  /-- The time at which the alarm goes off. -/
  alarm : Option Nat
  /-- The ranges whose time runs, by their numbers. -/
  ranges : List Nat
  /-- What comes of the whole script if it goes on as a copy or not where it divides. -/
  again : List Bool → Ending × World
  /-- For the places where the script divides, whether it goes on as the copy. -/
  answers : List Bool
  /-- The answers that have been given, the last one first. -/
  given : List Bool
  /-- The copies that have not been waited for. -/
  children : List Child
  /-- How many texts have been run as parts of the script. -/
  texts : Nat
  /-- What is known of the functions of the script. -/
  source : Source
  ending : List Block

/-- Why the statements that come next are not run. -/
inductive Stop where
  | died (value : Value)
  | ended (ending : Ending)
  | next (label : String)
  | last (label : String)
  | redo (label : String)
  | returned (values : List Value)

/-- What a running script does. -/
abbrev Action := ExceptT Stop (StateM State)

/-! ## Objects -/

/-- A new object. -/
def newObject (object : Object) : Action Nat :=
  modifyGet fun s => (s.objects.size, { s with objects := s.objects.push object })

/-- Replaces an object. -/
def setObject (id : Nat) (object : Object) : Action Unit :=
  modify fun s => { s with objects := s.objects.setIfInBounds id object }

/-- A new scalar. -/
def newCell (value : Value) : Action Nat := newObject (.scalar value)

/-- The value of a scalar. -/
def valueOf (id : Nat) : Action Value := do
  match (← get).objects[id]? with
  | some (.scalar value) => return value
  | _ => return .missing

/-- Sets a scalar. -/
def setValue (id : Nat) (value : Value) : Action Unit := setObject id (.scalar value)

/-- The scalars of an array. -/
def cellsOf (id : Nat) : Action (Array Nat) := do
  match (← get).objects[id]? with
  | some (.array cells) => return cells
  | _ => return #[]

/-- The entries of a table. -/
def entriesOf (id : Nat) : Action (List (String × Nat)) := do
  match (← get).objects[id]? with
  | some (.hash cells) => return cells
  | _ => return []

/-- The values of an array. -/
def valuesOf (id : Nat) : Action (List Value) := do (← cellsOf id).toList.mapM valueOf

/-- Replaces the values of an array. -/
def setValues (id : Nat) (values : List Value) : Action Unit := do
  let cells ← values.mapM newCell
  setObject id (.array cells.toArray)

/-- The keys and the values of a table, one behind the other. -/
def pairsOf (id : Nat) : Action (List Value) := do
  let pairs ← (← entriesOf id).mapM fun (key, cell) => do return [.text key, ← valueOf cell]
  return pairs.flatten

/-- The scalar of a key, which is made if it is not there. -/
def entryCell (id : Nat) (key : String) : Action Nat := do
  let entries ← entriesOf id
  match entries.find? fun e => e.1 == key with
  | some (_, cell) => return cell
  | none =>
    let cell ← newCell .missing
    setObject id (.hash (entries ++ [(key, cell)]))
    return cell

/-- Puts a scalar at a key. -/
def setEntry (id : Nat) (key : String) (cell : Nat) : Action Unit := do
  let entries ← entriesOf id
  let isThere := entries.any fun e => e.1 == key
  setObject id (.hash
    (if isThere then entries.map fun e => if e.1 == key then (key, cell) else e
      else entries ++ [(key, cell)]))

/-- Replaces the entries of a table by keys and values. -/
def setPairs (id : Nat) (values : List Value) : Action Unit := do
  setObject id (.hash [])
  fill values
where
  /-- Adds keys and values. -/
  fill : List Value → Action Unit
    | [] => return
    | [key] => do
      let _ ← entryCell id key.toText
    | key :: value :: rest => do
      setValue (← entryCell id key.toText) value
      fill rest

/-- The scalar at a place of an array, which is made if it is not there. -/
def itemCell (id : Nat) (index : Nat) : Action Nat := do
  let cells ← cellsOf id
  match cells[index]? with
  | some cell => return cell
  | none =>
    let more ← (List.range (index + 1 - cells.size)).mapM fun _ => newCell .missing
    setObject id (.array (cells ++ more.toArray))
    return (more.getLast?).getD 0

/-! ## Names -/

/-- A new object of a kind. -/
def newOf (kind : Kind) : Action Nat :=
  match kind with
  | .scalar => newCell .missing
  | .array => newObject (.array #[])
  | .hash => newObject (.hash [])
  | .code => newObject (.code none [])

/-- The key under which a name of a kind is found. -/
def keyFor (kind : Kind) (name : String) : String := String.ofList (kind.sign :: name.toList)

/-- The object that a name stands for, if it is known. -/
def known? (kind : Kind) (name : String) : Action (Option Nat) := do
  let key := keyFor kind name
  let s ← get
  match s.scope.find? fun v => v.1 == key with
  | some (_, id) => return some id
  | none => return (s.globals.find? fun v => v.1 == key).map (·.2)

/-- The object that a name stands for; an unknown name is known everywhere from then on. -/
def objectOf (kind : Kind) (name : String) : Action Nat := do
  match ← known? kind name with
  | some id => return id
  | none =>
    let id ← newOf kind
    modify fun s => { s with globals := (keyFor kind name, id) :: s.globals }
    return id

/-- Has a name stand for an object everywhere. -/
def setGlobal (kind : Kind) (name : String) (id : Nat) : Action Unit :=
  modify fun s =>
    let key := keyFor kind name
    { s with globals := (key, id) :: s.globals.filter fun v => v.1 != key }

/-- Has a name stand for an object in the current block. -/
def bind (kind : Kind) (name : String) (id : Nat) : Action Unit :=
  modify fun s =>
    let scope := (keyFor kind name, id) :: s.scope
    if s.depth == 0 then { s with scope, scriptScope := scope } else { s with scope }

/-- The value of a scalar that is known everywhere. -/
def globalValue (name : String) : Action Value := do
  match (← get).globals.find? fun v => v.1 == keyFor .scalar name with
  | some (_, id) => valueOf id
  | none => return .missing

/-- Sets a scalar that is known everywhere. -/
def setGlobalValue (name : String) (value : Value) : Action Unit := do
  match (← get).globals.find? fun v => v.1 == keyFor .scalar name with
  | some (_, id) => setValue id value
  | none => setGlobal .scalar name (← newCell value)

/-- Puts back what has been saved since there were only so many things. -/
def putBack (count : Nat) : Nat → Action Unit
  | 0 => return
  | n + 1 => do
    let s ← get
    if s.saved.length ≤ count then return
    match s.saved with
    | [] => return
    | saved :: rest =>
      set { s with saved := rest }
      match saved with
      | .binding key id =>
        modify fun s =>
          let others := s.globals.filter fun v => v.1 != key
          { s with globals := (id.map fun i => (key, i) :: others).getD others }
      | .entry hash key cell =>
        match cell with
        | some cell => setEntry hash key cell
        | none => setObject hash (.hash ((← entriesOf hash).filter fun e => e.1 != key))
      putBack count n

/-- Carries out an action in a block of its own. -/
def enclosed {α : Type} (action : Action α) : Action α := do
  let scope := (← get).scope
  let found := (← get).found
  let isOutside := (← get).depth == 0
  let count := (← get).saved.length
  let leave : Action Unit := do
    putBack count ((← get).saved.length + 1)
    modify fun s =>
      { s with
        scope
        found
        scriptScope := if isOutside then scope else s.scriptScope }
  let result ← tryCatch action fun stop => do
    leave
    throw stop
  leave
  return result

/-! ## Errors -/

/-- Where the script is, as messages say it. -/
def placeText : Action String := do
  let s ← get
  let read :=
    match s.lastRead with
    | none => ""
    | some name =>
      match s.streams.find? fun f => f.1 == name with
      | some (_, stream) =>
        let shown := if name == "ARGV" then "" else name
        if stream.lines == 0 then ""
        else ", <" ++ shown ++ "> line " ++ toString stream.lines
      | none => ""
  return " at " ++ s.file ++ " line " ++ toString s.line ++ read ++ ".\n"

/-- Dies with a message, to which the place is added. -/
def fail {α : Type} (message : String) : Action α := do
  throw (.died (.text (message ++ (← placeText))))

/-- The texts of errors by their numbers. -/
def errorTexts : List (Nat × String) :=
  let errors : List SystemError :=
    [.notPermitted, .notFound, .noSuchProcess, .argumentsTooLong, .badFormat, .badDescriptor,
      .permissionDenied, .alreadyThere, .notADirectory, .isADirectory, .invalidArgument, .noSpace,
      .nameTooLong, .notEmpty, .tooManyLinks]
  [(0, ""), (4, "Interrupted system call"), (5, "Input/output error"), (10, "No child processes"),
    (11, "Resource temporarily unavailable"), (12, "Cannot allocate memory"),
    (25, "Inappropriate ioctl for device"), (32, "Broken pipe")] ++
      errors.map fun e => (e.number, e.text)

/-- The value of the variable for errors with a number. -/
def errorValue (n : Nat) : Value :=
  match errorTexts.find? fun e => e.1 == n with
  | some (_, text) => .dual n text
  | none => .dual n ("Unknown error " ++ toString n)

/-- Sets the variable for errors. -/
def setError (n : Nat) : Action Unit := setGlobalValue "!" (.whole n)

/-! ## Writing -/

/-- Writes to a descriptor. -/
def writeTo (descriptor : Nat) (text : String) : Action Unit :=
  modify fun s => { s with world := s.context.write descriptor text s.world }

/-- Writes what has been printed. -/
def flush : Action Unit :=
  modify fun s =>
    if s.printed.isEmpty then s
    else
      { s with
        world := s.context.write 1 s.printed s.world
        printed := ""
        hasPrinted := true }

/-- The stream of a name. -/
def stream? (name : String) : Action (Option Stream) := do
  return ((← get).streams.find? fun f => f.1 == name).map (·.2)

/-- Sets the stream of a name. -/
def setStream (name : String) (stream : Stream) : Action Unit :=
  modify fun s =>
    { s with streams := (name, stream) :: s.streams.filter fun f => f.1 != name }

/-- Prints a text to a stream; false if there is none to print to. -/
def emit (name text : String) : Action Bool := do
  match name, (← get).changed with
  | "STDOUT", some (path, done) =>
    modify fun s => { s with changed := some (path, done ++ text) }
    return true
  | _, _ =>
    match ← stream? name with
    | none => return false
    | some stream =>
      match stream.direction with
      | .descriptor 1 =>
        modify fun s => { s with printed := s.printed ++ text }
        if (← globalValue "|").isTrue then flush
        return true
      | .descriptor n =>
        writeTo n text
        return true
      | .file path =>
        let s ← get
        match s.context.writeFile path text true s.world with
        | .ok world => set { s with world }
        | .error error => setError error.number
        return true
      | .command words =>
        let written := stream.written ++ text
        setStream name { stream with direction := .command words, written }
        return true
      | .memory id =>
        setValue id (.text ((← valueOf id).toText ++ text))
        return true
      | _ => return false

/-! ## Reading -/

/-- The first part of a text up to and with a separator, and what follows. Without a separator it is
the whole text; an empty one stands for empty lines. -/
def cutLine (separator : Option String) (text : String) : String × String :=
  let cs := text.toList
  let rec go (mark : List Char) : List Char → List Char → List Char × List Char
    | [], done => (done.reverse, [])
    | c :: cs, done =>
      if mark.isPrefixOf (c :: cs) then
        (done.reverse ++ mark, (c :: cs).drop mark.length)
      else go mark cs (c :: done)
  match separator with
  | none => (text, "")
  | some "" =>
    let (line, rest) := go ['\n', '\n'] (cs.dropWhile (· == '\n')) []
    (String.ofList line, String.ofList (rest.dropWhile (· == '\n')))
  | some mark =>
    let (line, rest) := go mark.toList cs []
    (String.ofList line, String.ofList rest)

/-- The separator of lines, if lines are separated. -/
def lineSeparator : Action (Option String) := do
  match ← globalValue "/" with
  | .missing => return none
  | value => return some value.toText

/-- Takes what the standard input has ready. -/
def drain : Action String := do
  let s ← get
  match s.context.descriptors.channel? 0 with
  | none => return ""
  | some channel =>
    let text := s.world.pending channel
    set { s with world := s.world.leave channel "" }
    return text

/-- Says something on the standard error stream. -/
def say (text : String) : Action Unit := writeTo 2 text

/-- Closes the file that is changed. -/
def closeChanged : Action Unit := do
  match (← get).changed with
  | none => return
  | some (path, text) =>
    let s ← get
    let suffix := s.inPlace.getD ""
    let world :=
      if suffix.isEmpty then s.world
      else
        match s.context.readFile path s.world with
        | .ok (old, _) =>
          match s.context.writeFile (path ++ suffix) old false s.world with
          | .ok world => world
          | .error _ => s.world
        | .error _ => s.world
    match s.context.writeFile path text false world with
    | .ok world => set { s with world, changed := none }
    | .error error =>
      set { s with changed := none }
      setError error.number

/-- Opens the next one of the files that the arguments name; false if there is none. -/
def openArgument : Nat → Action Bool
  | 0 => return false
  | n + 1 => do
    closeChanged
    let arguments ← objectOf .array "ARGV"
    match ← valuesOf arguments with
    | [] =>
      if (← get).hasArguments then return false
      modify fun s => { s with hasArguments := true }
      let text ← drain
      setGlobalValue "ARGV" (.text "-")
      modify fun s => { s with argument := some text }
      return true
    | path :: rest =>
      modify fun s => { s with hasArguments := true }
      setValues arguments rest
      let path := path.toText
      setGlobalValue "ARGV" (.text path)
      if path == "-" then
        let text ← drain
        modify fun s => { s with argument := some text }
        return true
      let s ← get
      match s.context.readFile path s.world with
      | .ok (text, world) =>
        set { s with
          world
          argument := some text
          changed := if s.inPlace.isSome then some (path, "") else none }
        return true
      | .error error =>
        let s ← get
        setError error.number
        match error with
        | .isADirectory => return ← openArgument n
        | _ =>
          let place := " at " ++ s.file ++ " line " ++ toString s.line
          say ("Can't open " ++ path ++ ": " ++ error.text ++ place ++
            (← placeText).drop place.length)
          openArgument n

/-- Counts a line that has been read from a stream. -/
def countLine (name : String) : Action Unit := do
  modify fun s =>
    { s with
      lastRead := some name
      streams := s.streams.map fun (n, stream) =>
        if n == name then (n, { stream with lines := stream.lines + 1 }) else (n, stream) }
  match ← stream? name with
  | some stream => setGlobalValue "." (.ofNat stream.lines)
  | none => return

/-- Reads a line of the files that the arguments name, or of the standard input. -/
def readArgument : Nat → Action Value
  | 0 => return .missing
  | n + 1 => do
    match (← get).argument with
    | none =>
      if ← openArgument ((← valuesOf (← objectOf .array "ARGV")).length + 1) then readArgument n
      else
        modify fun s => { s with hasArguments := false }
        return .missing
    | some "" =>
      modify fun s => { s with argument := none }
      closeChanged
      readArgument n
    | some text =>
      let (line, rest) := cutLine (← lineSeparator) text
      modify fun s => { s with argument := some rest }
      countLine "ARGV"
      return .text line

/-- Reads a line of a stream. -/
def readFrom (name : String) : Action Value := do
  if name == "ARGV" then
    let count := (← valuesOf (← objectOf .array "ARGV")).length
    return ← readArgument (2 * count + 5)
  match ← stream? name with
  | none => return .missing
  | some stream =>
    let rest ←
      match stream.direction with
      | .input => do pure (stream.rest ++ (← drain))
      | _ => pure stream.rest
    if rest.isEmpty then
      if stream.lines == 0 && (← lineSeparator).isNone then
        countLine name
        return .text ""
      return .missing
    let (line, rest) := cutLine (← lineSeparator) rest
    setStream name { stream with rest }
    countLine name
    return .text line

/-- Reads all lines that a stream has left. -/
def readAllFrom (name : String) : Nat → Action (List Value)
  | 0 => return []
  | n + 1 => do
    match ← readFrom name with
    | .missing => return []
    | line => return line :: (← readAllFrom name n)

/-! ## Commands -/

/-- The context in which commands run: with the variables that the script has set. -/
def commandContext : Action Context := do
  let entries ← entriesOf (← objectOf .hash "ENV")
  let environment ← entries.mapM fun (key, cell) => do return (key, (← valueOf cell).toText)
  return { (← get).context with environment }

/-- True of a command that only a shell understands. -/
def needsShell (command : String) : Bool :=
  let cs := command.toList.dropWhile isSpace
  let word := cs.takeWhile isNameChar
  cs.any (fun c => "$&*()\x7b\x7d[]'\";\\|?<>~\x60\n".toList.contains c) ||
    (cs.drop word.length).head? == some '=' || "exec ".toList.isPrefixOf cs

/-- Starts a command; none if there is no program to start. -/
def startCommand (context : Context) (words : List String) : Action (Option Ending) := do
  let s ← get
  let run (words : List String) : Action (Option Ending) := do
    match Tree.search (context.programOrScript s.world.tree words) context.searchPath
        (words.headD "") with
    | .ok executable =>
      let (ending, world) := s.start context words executable s.world
      set { s with world }
      return some ending
    | .error error =>
      setError error.number
      return none
  match words with
  | [command] =>
    if needsShell command then
      let (ending, world) := s.start.shell context command s.world
      set { s with world }
      return some ending
    else run (wordsOf command.toList)
  | words => run words

/-- The status that an ending leaves behind. -/
def statusOf : Ending → Nat
  | .exited code => 256 * code.toNat
  | .killed signal => signal

/-- Sets the status of the last command. -/
def setStatus (status : Int) : Action Unit := setGlobalValue "?" (.whole status)

/-- Runs a command, and returns its status. -/
def system (words : List String) : Action Value := do
  flush
  match ← startCommand (← commandContext) words with
  | some ending =>
    setStatus (statusOf ending)
    return .ofNat (statusOf ending)
  | none =>
    setStatus (-1)
    return .whole (-1)

/-- The output of a command, and its status. -/
def outputOf (words : List String) : Action (String × Nat) := do
  flush
  let context ← commandContext
  let (sink, world) := (← get).world.addSink
  modify fun s => { s with world }
  let inner := { context with descriptors := context.descriptors.assign 1 sink }
  match ← startCommand inner words with
  | some ending => return ((← get).world.written sink, statusOf ending)
  | none => return ("", 255 * 256)

/-- Closes a stream; false if there is none. -/
def closeStream (name : String) : Action Bool := do
  if name == "STDOUT" then flush
  match ← stream? name with
  | none => return false
  | some stream =>
    modify fun s => { s with streams := s.streams.filter fun f => f.1 != name }
    match stream.direction with
    | .command words =>
      flush
      let context ← commandContext
      let (source, world) := (← get).world.addSource stream.written
      modify fun s => { s with world }
      let inner := { context with descriptors := context.descriptors.assign 0 source }
      let status := ((← startCommand inner words).map statusOf).getD (255 * 256)
      setStatus status
      return status == 0
    | .descriptor n =>
      modify fun s =>
        { s with context := { s.context with descriptors := s.context.descriptors.close n } }
      return true
    | .reading =>
      setStatus stream.status
      return stream.status == 0
    | _ => return true

/-- Closes the commands that are still written to. -/
def closeAll : Action Unit := do
  for (name, stream) in (← get).streams.reverse do
    match stream.direction with
    | .command _ =>
      let _ ← closeStream name
    | _ => pure ()

end PointerTagging.Host.Scripting
