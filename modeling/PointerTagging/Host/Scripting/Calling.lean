import PointerTagging.Host.Scripting.Function
/-!
# Calling functions

The functions of the language whose arguments are more than values, and those that scripts define.
-/

namespace PointerTagging.Host.Scripting

open Text

/-! ## Functions of scripts -/

/-- Runs an action inside a function: with a scope, and for what its value is wanted. -/
def insideFunction (scope : Scope) (want : Want) (action : Action (List Value)) :
    Action (List Value) := do
  let line := (← get).line
  let leave : Action Unit :=
    modify fun s => { s with depth := s.depth - 1, wants := s.wants.drop 1, line }
  let values ← tryCatch
    (enclosed do
      modify fun s => { s with depth := s.depth + 1, wants := want :: s.wants, scope }
      tryCatch action fun stop =>
        match stop with
        | .returned values => return values
        | stop => throw stop)
    fun stop => do
      leave
      throw stop
  leave
  return values

/-- Calls a function with the scalars that its arguments lead to. -/
def callOn (run : Interpreter) (want : Want) (id : Nat) (arguments : List Nat) :
    Action (List Value) := do
  match (← get).objects[id]? with
  | some (.code scope body) =>
    let scope ←
      match scope with
      | some scope => pure scope
      | none => do pure (← get).scriptScope
    let list ← newObject (.array arguments.toArray)
    insideFunction ((keyFor .array "_", list) :: scope) want (run.block want body)
  | _ => fail "Not a CODE reference"

/-- The function that an expression leads to. -/
def codeOf (run : Interpreter) (code : Expr) : Action Nat := do
  let named (name : String) : Action Nat := do
    match ← known? .code name with
    | some id => return id
    | none => fail ("Undefined subroutine &main::" ++ name ++ " called")
  let ofValue (value : Value) : Action Nat := do
    match value with
    | .reference .code id => return id
    | .missing => fail "Can't use an undefined value as a subroutine reference"
    | .text name => named name
    | _ => fail "Not a CODE reference"
  match code with
  | .named .code name => named name
  | .target .code reference => do ofValue (← run.one reference)
  | code => do ofValue (← run.one code)

/-- Does what a script has set for an event; false if nothing is set. -/
def handle (run : Interpreter) (event : String) (arguments : List Value) : Action Bool := do
  let handlers ← objectOf .hash "SIG"
  match (← entriesOf handlers).find? fun e => e.1 == event with
  | none => return false
  | some (_, cell) =>
    let call (id : Nat) : Action Bool := do
      let cells ← arguments.mapM newCell
      let _ ← callOn run .nothing id cells
      return true
    match ← valueOf cell with
    | .reference .code id => call id
    | .text "IGNORE" => return true
    | .text "DEFAULT" => return false
    | .text name =>
      match ← known? .code name with
      | some id => call id
      | none => return false
    | _ => return false

/-- Does what a script has set for a signal. -/
def handleSignal (run : Interpreter) (signal : Nat) : Action Bool :=
  let name := Shell.signalName signal
  handle run name [.text name]

/-- Warns with a message. -/
def warn (run : Interpreter) (text : String) : Action Unit := do
  unless ← handle run "__WARN__" [.text text] do say text

/-! ## Evaluating texts -/

/-- Runs something whose errors are kept in a variable. -/
def guarded (action : Action (List Value)) : Action (List Value) := do
  let depth := (← get).depth
  let wants := (← get).wants
  tryCatch
    (do
      let values ← enclosed action
      setGlobalValue "@" (.text "")
      return values)
    fun stop => do
      match stop with
      | .died value =>
        modify fun s => { s with depth, wants }
        setGlobalValue "@" value
        return [.missing]
      | stop => throw stop

/-- Defines the functions of some statements. -/
def defineAll : Nat → Block → Action Unit
  | 0, _ => return
  | _, [] => return
  | n + 1, statement :: rest => do
    match statement with
    | .function name body =>
      let id ← newObject (.code none body)
      setGlobal .code name id
      defineAll n body
    | .block _ body => defineAll n body
    | _ => pure ()
    defineAll n rest

/-- Runs a text as a part of the script. -/
def evaluateText (run : Interpreter) (want : Want) (text : String) : Action (List Value) := do
  let outer := (← get).file
  let line := (← get).line
  let count := (← get).texts + 1
  let file := "(eval " ++ toString count ++ ")"
  let source := (← get).source
  let cs := text.toList
  modify fun s => { s with texts := count }
  let inner :=
    { source with rest := cs, line := 1, recent := (cs, cs), braces := 0, isStrict := false }
  match parse inner with
  | .error refusal =>
    throw (.died (.text (refusal.message file)))
  | .ok (script, source) =>
    let leave : Action Unit := modify fun s => { s with file := outer, line }
    modify fun s =>
      { s with file, source := { source with ending := [], data := s.source.data } }
    defineAll (text.length + 1) script.body
    let values ← tryCatch (run.block want script.body) fun stop => do
      leave
      throw stop
    leave
    return values

/-! ## Functions on arrays and tables -/

/-- The array that the arguments of the function that runs are in, or those of the script. -/
def currentArguments : Action Expr := do
  return .named .array (if (← get).depth == 0 then "ARGV" else "_")

/-- True of an expression that is an array. -/
def isArray : Expr → Bool
  | .named .array _ => true
  | .target .array _ => true
  | .declared _ [(.array, _)] _ => true
  | _ => false

/-- Takes the first or the last item of an array. -/
def takeItem (id : Nat) (isFirst : Bool) : Action Value := do
  let cells ← cellsOf id
  if cells.isEmpty then return .missing
  let cell := (if isFirst then cells[0]? else cells.back?).getD 0
  setObject id (.array (if isFirst then cells.extract 1 cells.size else cells.pop))
  valueOf cell

/-- Replaces a part of an array by values; returned is the part. -/
def splice (id : Nat) (arguments : List Value) : Action (List Value) := do
  let cells ← cellsOf id
  let start := (arguments[0]?.map Value.toInt).getD 0
  let length := arguments[1]?.map Value.toInt
  let (low, count) := (partOf cells.size (min start cells.size) length).getD (cells.size, 0)
  let added ← (arguments.drop 2).mapM newCell
  let taken := cells.extract low (low + count)
  setObject id (.array (cells.extract 0 low ++ added.toArray ++ cells.extract (low + count)
    cells.size))
  taken.toList.mapM valueOf

/-- The next key of a table with its value, in the order of the keys. -/
def nextEntry (id : Nat) : Action (List Value) := do
  let entries ← entriesOf id
  let place := (((← get).positions.find? fun p => p.1 == id).map (·.2.2)).getD 0
  let others := (← get).positions.filter fun p => p.1 != id
  match entries[place]? with
  | some (key, cell) =>
    modify fun s => { s with positions := (id, "", place + 1) :: others }
    return [.text key, ← valueOf cell]
  | none =>
    modify fun s => { s with positions := others }
    return []

/-- Removes a key from a table. -/
def removeEntry (id : Nat) (key : String) : Action Value := do
  let entries ← entriesOf id
  match entries.find? fun e => e.1 == key with
  | some (_, cell) =>
    setObject id (.hash (entries.filter fun e => e.1 != key))
    valueOf cell
  | none => return .missing

/-- Takes a text from the end of a scalar if it is there; returned is how long it is. -/
def cutText (ending : String) (cell : Nat) : Action Value := do
  let value ← valueOf cell
  let text := value.toText
  if !value.isDefined || ending.isEmpty || !text.endsWith ending then return .whole 0
  setValue cell (.text (String.ofList (text.toList.take (text.length - ending.length))))
  return .ofNat ending.length

/-- Takes the last character from a scalar. -/
def cutLast (cell : Nat) : Action Value := do
  let cs := (← valueOf cell).toText.toList
  match cs.getLast? with
  | none => return .text ""
  | some c =>
    setValue cell (.text (String.ofList cs.dropLast))
    return .text (String.ofList [c])

/-- True of something that has a value or a definition. -/
def isDefined (run : Interpreter) (e : Expr) : Action Bool := do
  match e with
  | .callOn (.named .code name) => return (← known? .code name).isSome
  | .named .code name => return (← known? .code name).isSome
  | .named .array _ => return !(← cellsOf (← run.array e)).isEmpty
  | e => return (← run.one e).isDefined

/-- True of an item or an entry that is there. -/
def exists? (run : Interpreter) (e : Expr) : Action Bool := do
  match e with
  | .entry hash key =>
    let id ← run.hash hash
    let key := (← run.one key).toText
    return (← entriesOf id).any fun e => e.1 == key
  | .item array index =>
    let id ← run.array array
    let index := (← run.one index).toInt
    let size := (← cellsOf id).size
    return (indexIn size index).any (· < size)
  | .call code _ => isDefined run code
  | e => isDefined run e

/-! ## Streams -/

/-- Opens what the arguments of a function say. -/
def open? (run : Interpreter) (arguments : List Expr) : Action Value := do
  let target := arguments.headD (.text "")
  let name ←
    match target with
    | .text name => pure name
    | target => do
      let owner :=
        match target with
        | .named _ name => name
        | .declared _ [(_, name)] _ => name
        | _ => "fh"
      let cell ← run.cell target
      match ← valueOf cell with
      | .stream name => pure name
      | _ =>
        let name ← newStreamName owner
        setValue cell (.stream name)
        pure name
  match ← allOf run (arguments.drop 1) with
  | [] => return .ofBool false
  | [both] =>
    let (mode, path) := modeOf both.toText
    openStream name mode (.text path) [path]
  | mode :: values =>
    let mode := String.ofList ((mode.toText.toList.takeWhile (· != ':')).filter (!isSpace ·))
    openStream name mode (values.headD .missing) (values.map Value.toText)

/-- True if a stream has nothing left to read. -/
def atEnd (name : String) : Action Bool := do
  match ← stream? name with
  | none => return true
  | some stream =>
    match stream.direction with
    | .input =>
      let rest := stream.rest ++ (← drain)
      setStream name { stream with rest }
      return rest.isEmpty
    | _ => return stream.rest.isEmpty

/-- True if the files that the arguments name have nothing left to read: the current one, or all of
them. -/
def argumentsEnd (ofAll : Bool) : Action Bool := do
  let left := ((← get).argument).getD ""
  if !left.isEmpty then return false
  if !ofAll then return true
  return (← valuesOf (← objectOf .array "ARGV")).isEmpty

/-! ## The functions by their names -/

/-- The text of a message: a value that is a reference stays what it is. -/
def messageOf (values : List Value) (usual : String) : Action Value := do
  match values with
  | [.reference kind id] => return .reference kind id
  | values =>
    let text := String.join (values.map Value.toText)
    let text := if text.isEmpty then usual else text
    if text.endsWith "\n" then return .text text
    return .text (text ++ (← placeText))

/-- A function that changes what is done next, or that the system does. -/
def systemFunction? (run : Interpreter) (name : String) (arguments : List Expr) :
    Option (Action Value) :=
  let values := allOf run arguments
  let value (n : Nat) : Action Value := valueAt run arguments n
  let eachTrue (values : List Value) (act : String → Action Value) : Action Value := do
    let results ← values.mapM fun v => act v.toText
    return .ofNat (results.filter Value.isTrue).length
  match name with
  | "system" => some do system ((← values).map Value.toText)
  | "exec" => some do
    flush
    let context ← commandContext
    match ← startCommand context ((← values).map Value.toText) with
    | some ending => throw (.ended ending)
    | none => return .ofBool false
  | "kill" => some do
    match ← values with
    | [] => return .whole 0
    | signal :: pids =>
      match signalOf signal with
      | none => fail ("Unrecognized signal name \"" ++ signal.toText ++ "\"")
      | some (number, isGroup) =>
        let results ← pids.mapM fun pid => do
          let pid := pid.toInt
          if isGroup || pid < 0 then return false
          sendSignal (handleSignal run) number pid.toNat
        return .ofNat (results.filter id).length
  | "sleep" => some do
    let seconds := (← value 0).toInt.toNat
    pass (handleSignal run) (1000 * seconds)
    return .ofNat seconds
  | "select" => some do
    match ← values with
    | [_, _, _, time] =>
      match time.toNumber with
      | .whole n => pass (handleSignal run) (1000 * n.toNat)
      | .real x => pass (handleSignal run) (wholePart (.real (x * 1000.0))).toInt.toNat
      return .whole 0
    | [stream] =>
      let old := (← get).selected
      let name ← streamName stream
      modify fun s => { s with selected := name }
      return .text old
    | _ => return .text (← get).selected
  | "alarm" => some do
    let seconds := (← value 0).toInt.toNat
    modify fun s =>
      { s with alarm := if seconds == 0 then none else some (s.world.clock + 1000 * seconds) }
    return .whole 0
  | "time" => some do return .whole (← get).world.second
  | "fork" => some divide
  | "wait" => some (awaitChild none true)
  | "waitpid" => some do
    let pid := (← value 0).toInt
    let waits := (← value 1).toInt % 2 == 0
    awaitChild (if pid ≤ 0 then none else some pid.toNat) waits
  | "getppid" => some do
    return .ofNat (((← get).world.processes[1]?).getD 1)
  | "umask" => some do
    let s ← get
    if !arguments.isEmpty then
      let mask := (← value 0).toInt.toNat &&& 0o777
      set { s with
        context := { s.context with mask }
        world := { s.world with tree := { s.world.tree with mask } } }
    return .ofNat s.context.mask
  | "unlink" => some do eachTrue (← values) unlink
  | "mkdir" => some do
    let path ← value 0
    let mode ← value 1
    makeDirectory path.toText (if arguments.length > 1 then mode.toInt.toNat else 0o777)
  | "rmdir" => some do removeDirectory (← value 0).toText
  | "rename" => some do renameFile (← value 0).toText (← value 1).toText
  | "chdir" => some do changeDirectory (← value 0).toText
  | "chmod" => some do
    match ← values with
    | mode :: paths => eachTrue paths (changeMode mode.toInt.toNat)
    | [] => return .whole 0
  | "utime" => some do
    match ← values with
    | _ :: time :: paths =>
      let now := (← get).world.second
      let seconds :=
        match time with
        | .missing => now
        | time => time.toInt
      eachTrue paths (changeTime seconds)
    | _ => return .whole 0
  | "chown" => some do
    match ← values with
    | owner :: group :: paths => eachTrue paths (changeOwner owner.toInt group.toInt)
    | _ => return .whole 0
  | "link" => some do linkFile (← value 0).toText (← value 1).toText
  | "symlink" => some do linkPath (← value 0).toText (← value 1).toText
  | "truncate" => some do
    let size := (← value 1).toInt.toNat
    flush
    match ← stream? (← streamName (← value 0)) with
    | some ⟨.file path, _, _, _, _⟩ => resizeFile path size
    | _ => resizeFile (← value 0).toText size
  | "readlink" => some do
    let s ← get
    match s.world.tree.locateLink s.context.place (← value 0).toText with
    | .ok (_, .link path) => return .text path
    | _ => return .missing
  | "open" => some (open? run arguments)
  | "close" => some do
    let name ← streamName (← value 0)
    if name == "ARGV" then
      modify fun s => { s with argument := some "" }
      return .whole 1
    return .ofBool (← closeStream name)
  | "binmode" => some (return .whole 1)
  | "fileno" => some do
    match standardNumber? (← streamName (← value 0)) with
    | some n => return .ofNat n
    | none => return .whole 3
  | "eof" => some do
    match arguments with
    | [] => return .ofBool (← argumentsEnd false)
    | _ =>
      let name ← streamName (← value 0)
      return .ofBool (← if name == "ARGV" then argumentsEnd false else atEnd name)
  | "exit" => some do throw (.ended (.exited ((← value 0).toInt % 256).toNat.toUInt8))
  | "die" => some do
    let message ← messageOf (← values) "Died"
    let _ ← handle run "__DIE__" [message]
    throw (.died message)
  | "warn" => some do
    let message ← messageOf (← values) "Warning: something's wrong"
    warn run message.toText
    return .whole 1
  | "croak" => some do throw (.died (← messageOf (← values) "Died"))
  | "confess" => some do throw (.died (← messageOf (← values) "Died"))
  | "carp" => some do
    warn run (← messageOf (← values) "Warning: something's wrong").toText
    return .whole 1
  | "_exit" => some do
    throw (.ended (.exited ((← value 0).toInt % 256).toNat.toUInt8))
  | "getcwd" => some do return .text (Tree.pathOf (← get).context.place)
  | "cwd" => some do return .text (Tree.pathOf (← get).context.place)
  | "__FILE__" => some do return .text (← get).file
  | "__PACKAGE__" => some (return .text "main")
  | "rand" => some do
    let most := (← value 0).toNumber.toFloat
    return .real ((if most == 0.0 then 1.0 else most) * 0.5)
  | "srand" => some (return .whole 42)
  | "require" => some do
    let name := (← value 0).toText
    if (modules.any fun m => m.1 == name) || name.toList.head?.any Char.isDigit then
      return .whole 1
    setError SystemError.notFound.number
    fail (noModuleText name)
  | _ => none

/-- Returns from a function. -/
def returnFrom (run : Interpreter) (arguments : List Expr) : Action (List Value) := do
  match (← get).wants.headD .one with
  | .many => throw (.returned (← allOf run arguments))
  | _ =>
    let values ← arguments.getLast?.mapM run.one
    throw (.returned values.toList)

/-- The name of a function without that of the module that it comes from. -/
def bareName (name : String) : String :=
  match ("CORE" :: modules.map (·.1)).find? fun m => (m ++ "::").isPrefixOf name with
  | some module => (name.drop (module.length + 2)).toString
  | none => name

/-- The parts of a time in a zone, or its text. -/
def momentValues (zone : Zone) (want : Want) (seconds : Int) : List Value :=
  let m := Moment.ofSeconds zone seconds 0
  if want == .many then
    [.ofNat (m.second % 60), .ofNat m.minute, .ofNat m.hour, .ofNat m.day, .ofNat (m.month - 1),
      .whole (m.year - 1900), .ofNat m.dayOfWeek, .ofNat m.dayOfYear, .ofBool m.isSummer]
  else [.text (m.format "%a %b %e %H:%M:%S %Y")]

/-- A time whose parts are given, in a form. -/
def timeText (zone : Zone) (form : String) (parts : List Value) : String :=
  let part (n : Nat) : Int := ((parts[n]?).map Value.toInt).getD 0
  let days := Calendar.dayAt (part 5 + 1900) (part 4) (part 3)
  let shown := days * Calendar.daySeconds + part 2 * 3600 + part 1 * 60 + part 0
  (Moment.ofSeconds zone ((zone.second? shown).getD shown) 0).format form

/-- What is known of the file at a path. -/
def fileParts (path : String) (follows : Bool) : Action (List Value) := do
  let s ← get
  let found :=
    if follows then s.world.tree.locate s.context.place path
    else s.world.tree.locateLink s.context.place path
  match found with
  | .error error =>
    setError error.number
    return []
  | .ok (place, file) =>
    let f : Tool.Found := ⟨s.world.tree, place, file⟩
    let (major, minor) := f.deviceNumbers
    let time := f.detail.modified.1
    return [.ofNat 51, .ofNat f.number, .ofNat (f.kindBits + f.mode), .ofNat f.links,
      .ofNat f.detail.owner, .ofNat f.detail.group, .ofNat (major * 256 + minor), .ofNat f.size,
      .whole time, .whole time, .whole time, .ofNat 4096, .ofNat f.blocks]

/-- Calls a function by its name. -/
def callNamed (run : Interpreter) (want : Want) (name : String) (arguments : List Expr) :
    Action (List Value) := do
  let one (value : Value) : Action (List Value) := return [value]
  let first := arguments.headD (.whole 0)
  let values := allOf run arguments
  let timeParts (zone : Zone) (values : List Value) : Action (List Value) := do
    let now := (← get).world.second
    return momentValues zone want ((values.head?.map Value.toInt).getD now)
  let ownZone : Action Zone := do return .ofVariable ((← commandContext).get? "TZ")
  let label : String :=
    match arguments with
    | [.text label] => label
    | _ => ""
  match name with
  | "return" => returnFrom run arguments
  | "next" => throw (.next label)
  | "last" => throw (.last label)
  | "redo" => throw (.redo label)
  | "defined" => one (.ofBool (← isDefined run first))
  | "exists" => one (.ofBool (← exists? run first))
  | "delete" =>
    match first with
    | .entry hash key =>
      let id ← run.hash hash
      one (← removeEntry id (← run.one key).toText)
    | .someEntries hash keys =>
      let id ← run.hash hash
      (← run.all keys).mapM fun key => removeEntry id key.toText
    | .localized (.entry hash key) =>
      let id ← run.hash hash
      one (← removeEntry id (← run.one key).toText)
    | .item array index =>
      let cell ← run.cell (.item array index)
      let value ← valueOf cell
      setValue cell .missing
      one value
    | _ => one .missing
  | "undef" =>
    match arguments with
    | [] => one .missing
    | e :: _ =>
      if isHashTarget e then setObject (← run.hash e) (.hash [])
      else if isArray e then setObject (← run.array e) (.array #[])
      else setValue (← run.cell e) .missing
      one .missing
  | "scalar" => one (← run.one first)
  | "push" =>
    let id ← run.array first
    let added ← (← allOf run (arguments.drop 1)).mapM newCell
    let cells := (← cellsOf id) ++ added.toArray
    setObject id (.array cells)
    one (.ofNat cells.size)
  | "unshift" =>
    let id ← run.array first
    let added ← (← allOf run (arguments.drop 1)).mapM newCell
    let cells := added.toArray ++ (← cellsOf id)
    setObject id (.array cells)
    one (.ofNat cells.size)
  | "pop" =>
    let array ← if arguments.isEmpty then currentArguments else pure first
    one (← takeItem (← run.array array) false)
  | "shift" =>
    let array ← if arguments.isEmpty then currentArguments else pure first
    one (← takeItem (← run.array array) true)
  | "splice" =>
    let id ← run.array first
    let taken ← splice id (← allOf run (arguments.drop 1))
    if want == .many then return taken else one (taken.getLast?.getD .missing)
  | "keys" =>
    if isArray first then
      let size := (← cellsOf (← run.array first)).size
      if want == .many then return (List.range size).map .ofNat else one (.ofNat size)
    else
      let id ← run.hash first
      modify fun s => { s with positions := s.positions.filter fun p => p.1 != id }
      let entries ← entriesOf id
      if want == .many then return entries.map fun e => .text e.1 else one (.ofNat entries.length)
  | "values" =>
    if isArray first then
      let all ← valuesOf (← run.array first)
      if want == .many then return all else one (.ofNat all.length)
    else
      let entries ← entriesOf (← run.hash first)
      if want == .many then entries.mapM fun e => valueOf e.2 else one (.ofNat entries.length)
  | "each" =>
    let found ← nextEntry (← run.hash first)
    if want == .many then return found else one (found.headD .missing)
  | "chomp" =>
    let ending := (← globalValue "/").toText
    let results ← (← run.cells first).mapM (cutText ending)
    one (results.foldl (fun sum v => .whole (sum.toInt + v.toInt)) (.whole 0))
  | "chop" =>
    let results ← (← run.cells first).mapM cutLast
    one (results.getLast?.getD (.text ""))
  | "ref" =>
    one (.text ((referenceKind? (← run.one first)).getD ""))
  | "bless" => one (← run.one first)
  | "wantarray" =>
    match (← get).wants.headD .nothing with
    | .many => one (.whole 1)
    | .one => one (.ofBool false)
    | .nothing => one .missing
  | "join" =>
    match ← values with
    | [] => one (.text "")
    | separator :: rest =>
      one (.text (separator.toText.intercalate (rest.map Value.toText)))
  | "reverse" =>
    if want == .many then return (← values).reverse
    else
      let text := String.join ((← values).map Value.toText)
      one (.text (String.ofList text.toList.reverse))
  | "sprintf" =>
    match ← values with
    | [] => one (.text "")
    | form :: rest =>
      let form := form.toText
      one (.text (String.ofList (formatted (form.length + 1) form.toList rest rest)))
  | "split" =>
    let text ← if arguments.length > 1 then valueAt run arguments 1 else scalarNamed "_"
    let limit ← valueAt run arguments 2
    let text := text.toText
    let separator ← if arguments.isEmpty then pure (.text " ") else run.one first
    let parts ←
      match separator with
      | .text " " =>
        let cs := text.toList.dropWhile isSpace
        pure (splitParts (← searchFor "\\s+" "") (String.ofList cs) limit.toInt)
      | .pattern "^" flags => do pure (splitParts (← searchFor "^" (flags ++ "m")) text limit.toInt)
      | .pattern source flags => do pure (splitParts (← searchFor source flags) text limit.toInt)
      | value => do pure (splitParts (← searchFor value.toText "") text limit.toInt)
    if want == .many then return parts else one (.ofNat parts.length)
  | "substr" =>
    let text := (← run.one first).toText
    let start := (← valueAt run arguments 1).toInt
    let length ← (arguments[2]?).mapM run.one
    let length := (length.filter Value.isDefined).map Value.toInt
    match partOf text.length start length with
    | none => one .missing
    | some (low, count) =>
      match arguments[3]? with
      | some e =>
        let replacement := (← run.one e).toText
        setValue (← run.cell first) (.text (spliced text low count replacement))
      | none => pure ()
      one (.text (between text low (low + count)))
  | "pos" =>
    let cell ← run.cell first
    match (← get).positions.find? fun p => p.1 == cell with
    | some (_, _, place) => one (.ofNat place)
    | none => one .missing
  | "eval" => guarded (do evaluateText run want (← run.one first).toText)
  | "do" =>
    let path := (← run.one first).toText
    let s ← get
    match s.context.readFile path s.world with
    | .ok (text, _) => guarded (evaluateText run want text)
    | .error error =>
      setError error.number
      one .missing
  | "readline" =>
    let name ← streamName (← run.one first)
    if want == .many then readAllFrom name 1000000 else one (← readFrom name)
  | "glob" =>
    let paths ← globbed (← run.one first).toText
    if want == .many then return paths else one (paths.headD .missing)
  | "constant" =>
    let defined := (← run.one first).toText
    let all ← allOf run (arguments.drop 1)
    let (kind, id) ←
      match all with
      | [value] => do pure (Kind.scalar, ← newCell value)
      | all => do
        let id ← newOf .array
        setValues id all
        pure (Kind.array, id)
    let body := [Statement.expression 0 (.named kind "constant")]
    setGlobal .code defined (← newObject (.code (some [(keyFor kind "constant", id)]) body))
    one .missing
  | "local" => one .missing
  | "stat" => fileParts (← run.one first).toText true
  | "lstat" => fileParts (← run.one first).toText false
  | "strftime" =>
    let form := (← run.one first).toText
    one (.text (timeText (← ownZone) form (← allOf run (arguments.drop 1))))
  | "localtime" => do timeParts (← ownZone) (← values)
  | "gmtime" => do timeParts .universal (← values)
  | "caller" => if want == .many then return [] else one .missing
  | "exit" =>
    match arguments with
    | [] => throw (.ended (.exited 0))
    | e :: _ => throw (.ended (.exited ((← run.one e).toInt % 256).toNat.toUInt8))
  | name =>
    if plainNames.contains name then
      let values ← arguments.mapM run.one
      return ((plainFunction? name values).map fun v => [v]).getD []
    match ← known? .code name with
    | some id =>
      let cells := (← arguments.mapM run.cells).flatten
      callOn run want id cells
    | none =>
      match systemFunction? run name arguments with
      | some action => one (← action)
      | none =>
        match moduleFunction? name (← values) with
        | some found => return found
        | none => fail ("Undefined subroutine &main::" ++ name ++ " called")

end PointerTagging.Host.Scripting
