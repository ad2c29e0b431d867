import PointerTagging.Host.Condition
import PointerTagging.Host.Scripting.Access
import PointerTagging.Host.Shell.Copy
import PointerTagging.Host.Shell.PathPattern
import PointerTagging.Host.Utility.Particulars
import PointerTagging.Host.Utility.Reporting
/-!
# Functions on values

The functions of the language whose arguments are values: those on texts and numbers, on files and
streams, and those of modules.
-/

namespace PointerTagging.Host.Scripting

open Text

/-! ## Texts and numbers -/

/-- A text with its first character changed. -/
def changedFirst (change : Char → Char) (s : String) : String :=
  match s.toList with
  | [] => s
  | c :: cs => String.ofList (change c :: cs)

/-- The number that a text of digits is in another base. -/
def basedNumber (base : Nat) (cs : List Char) : Value :=
  let digits := (cs.filter (· != '_')).takeWhile fun c => (Numeral.digit? base c).isSome
  .whole ((Numeral.valueFrom base 0 digits).getD 0 : Nat)

/-- The number that a text with a sign for its base is. -/
def signedNumber (cs : List Char) : Value :=
  match cs.dropWhile isSpace with
  | '0' :: 'x' :: cs => basedNumber 16 cs
  | '0' :: 'X' :: cs => basedNumber 16 cs
  | 'x' :: cs => basedNumber 16 cs
  | '0' :: 'b' :: cs => basedNumber 2 cs
  | '0' :: 'B' :: cs => basedNumber 2 cs
  | 'b' :: cs => basedNumber 2 cs
  | '0' :: 'o' :: cs => basedNumber 8 cs
  | cs => basedNumber 8 cs

/-- The whole part of a number as a value. -/
def wholePart (x : Number) : Value :=
  match x with
  | .whole n => .whole n
  | .real y =>
    match (Floating.ofFloat y).truncate? with
    | some n =>
      if Number.leastWhole ≤ n && n ≤ Number.mostWhole then .whole n
      else .real (Floating.ofInt n).toFloat
    | none => .real y

/-- The first place from one on where a text begins inside another one. -/
def placeFrom? (needle : List Char) : Nat → List Char → Option Nat
  | n, [] => if needle.isEmpty then some n else none
  | n, c :: cs => if needle.isPrefixOf (c :: cs) then some n else placeFrom? needle (n + 1) cs

/-- Where a text is inside another one, from a place on; otherwise -1. -/
def indexOf (text needle : String) (start : Int) : Int :=
  let start : Nat := min start.toNat text.length
  match placeFrom? needle.toList start (text.toList.drop start) with
  | some n => n
  | none => -1

/-- Where a text is last inside another one, up to a place; otherwise -1. -/
def lastIndexOf (text needle : String) (most : Int) : Int :=
  let cs := text.toList
  let places := (List.range (cs.length + 1)).filter fun (n : Nat) =>
    (n : Int) ≤ most && needle.toList.isPrefixOf (cs.drop n)
  match places.getLast? with
  | some n => n
  | none => -1

/-- A text in which every character that may mean something in a pattern has a backslash. -/
def quotedMeta (s : String) : String :=
  String.ofList (s.toList.flatMap fun c => if isNameChar c then [c] else ['\\', c])

/-- The order of two values as texts. -/
def isNotBehind (a b : Value) : Bool :=
  match Operator.notBehind.apply a b with
  | .ok value => value.isTrue
  | .error _ => true

/-- A function on texts and numbers, if it is one. -/
def plainFunction? (name : String) (values : List Value) : Option Value :=
  let a := values.headD .missing
  let b := (values[1]?).getD .missing
  let text := a.toText
  let onReal (f : Float → Float) : Option Value := some (.real (f a.toNumber.toFloat))
  match name with
  | "lc" => some (.text (text.map Char.toLower))
  | "fc" => some (.text (text.map Char.toLower))
  | "uc" => some (.text (text.map Char.toUpper))
  | "lcfirst" => some (.text (changedFirst Char.toLower text))
  | "ucfirst" => some (.text (changedFirst Char.toUpper text))
  | "length" => some (if a.isDefined then .ofNat text.length else .missing)
  | "chr" =>
    let n := a.toInt.toNat
    some (.text (String.ofList
      (if n < 256 then [Char.ofNat n]
        else (Utf8.encodeChar (Char.ofNat n)).map fun b => Char.ofNat b.toNat)))
  | "ord" => some (.ofNat ((text.toList.head?.map Char.toNat).getD 0))
  | "int" => some (wholePart a.toNumber)
  | "abs" =>
    some (match a.toNumber with
      | .whole n => .whole n.natAbs
      | .real x => .real x.abs)
  | "sqrt" => onReal Float.sqrt
  | "sin" => onReal Float.sin
  | "cos" => onReal Float.cos
  | "exp" => onReal Float.exp
  | "log" => onReal Float.log
  | "atan2" => some (.real (Float.atan2 a.toNumber.toFloat b.toNumber.toFloat))
  | "hex" =>
    let cs := text.toList
    let cs := if "0x".isPrefixOf text || "0X".isPrefixOf text then cs.drop 2 else cs
    some (basedNumber 16 cs)
  | "oct" => some (signedNumber text.toList)
  | "quotemeta" => some (.text (quotedMeta text))
  | "index" => some (.whole (indexOf text b.toText ((values[2]?).map Value.toInt |>.getD 0)))
  | "rindex" =>
    some (.whole (lastIndexOf text b.toText ((values[2]?).map Value.toInt |>.getD text.length)))
  | _ => none

/-- Functions whose arguments are single values. -/
def plainNames : List String :=
  ["lc", "fc", "uc", "lcfirst", "ucfirst", "length", "chr", "ord", "int", "abs", "sqrt", "sin",
    "cos", "exp", "log", "atan2", "hex", "oct", "quotemeta", "index", "rindex"]

/-! ## Functions of modules -/

/-- The least or the greatest of some values. -/
def extreme (operator : Operator) (values : List Value) : Value :=
  let isBetter (a b : Value) : Bool :=
    match operator.apply a b with
    | .ok value => value.isTrue
    | .error _ => false
  match values with
  | [] => .missing
  | first :: rest =>
    rest.foldl (fun best value => if isBetter value best then value else best) first

/-- The values without those whose text has come before. -/
def withoutRepetitions : List Value → (seen : List String) → List Value
  | [], _ => []
  | value :: values, seen =>
    if seen.contains value.toText then withoutRepetitions values seen
    else value :: withoutRepetitions values (value.toText :: seen)

/-- The result of adding or multiplying all values. -/
def folded (operator : Operator) (first : Value) (values : List Value) : Value :=
  values.foldl (fun sum value => (operator.apply sum value).toOption.getD .missing) first

/-- The word for the kind of a reference, if a value is one. -/
def referenceKind? (value : Value) : Option String :=
  match value with
  | .reference kind _ => some (Value.kindWord kind)
  | .pattern .. => some "Regexp"
  | .stream _ => some "GLOB"
  | _ => none

/-- A function of a module, if it is one. -/
def moduleFunction? (name : String) (values : List Value) : Option (List Value) :=
  let a := values.headD .missing
  let b := (values[1]?).getD .missing
  let one (value : Value) : Option (List Value) := some [value]
  let onReal (f : Float → Float) : Option (List Value) :=
    match a.toNumber with
    | .whole n => one (.whole n)
    | .real x => one (wholePart (.real (f x)))
  match name with
  | "sum" => one (if values.isEmpty then .missing else folded .add (.whole 0) values)
  | "sum0" => one (folded .add (.whole 0) values)
  | "product" => one (folded .multiply (.whole 1) values)
  | "max" => one (extreme .greater values)
  | "min" => one (extreme .less values)
  | "maxstr" => one (extreme .behind values)
  | "minstr" => one (extreme .before values)
  | "uniq" => some (withoutRepetitions values [])
  | "uniqnum" => some (withoutRepetitions values [])
  | "shuffle" => some values
  | "floor" => onReal Float.floor
  | "ceil" => onReal Float.ceil
  | "fmod" => one (.real (a.toNumber.toFloat - b.toNumber.toFloat *
      ((wholePart (.real (a.toNumber.toFloat / b.toNumber.toFloat))).toNumber.toFloat)))
  | "pow" => one (powerOf a.toNumber b.toNumber)
  | "strtol" => one (basedNumber ((if b.isDefined then b.toInt else 10).toNat) a.toText.toList)
  | "isatty" => one (.ofBool false)
  | "WIFEXITED" => one (.ofBool (a.toInt % 128 == 0))
  | "WEXITSTATUS" => one (.whole (a.toInt / 256 % 256))
  | "WIFSIGNALED" => one (.ofBool (a.toInt % 128 != 0))
  | "WTERMSIG" => one (.whole (a.toInt % 128))
  | "looks_like_number" => one (.ofBool a.looksNumeric)
  | "blessed" => one .missing
  | "reftype" => one (optionalText (referenceKind? a))
  | "refaddr" =>
    match a with
    | .reference .. => one a.toNumber.toValue
    | _ => one .missing
  | "basename" => one (.text (Tool.withoutSuffix b.toText (Tool.lastName a.toText)))
  | "dirname" => one (.text (Tool.parentPath a.toText))
  | _ => none

/-! ## Files and streams -/

/-- The value of a success; a failure sets the variable for errors. -/
def outcome (result : Except SystemError World) : Action Value := do
  match result with
  | .ok world =>
    modify fun s => { s with world }
    return .whole 1
  | .error error =>
    setError error.number
    return .ofBool false

/-- Changes the tree at a place that a path leads to. -/
def changeTree (change : State → Except SystemError Tree) : Action Value := do
  let s ← get
  outcome ((change s).map fun tree => { s.world with tree })

/-- The answer to a question about a file. -/
def fileAnswer (letter : Char) (path : String) : Action Value := do
  let s ← get
  let scene : Condition.Scene := ⟨s.world.tree, s.context.place⟩
  match s.world.tree.locate s.context.place path with
  | .error error =>
    setError error.number
    if letter == 'l' then return .ofBool (scene.unary "-L" path)
    return .missing
  | .ok (place, file) =>
    let found : Tool.Found := ⟨s.world.tree, place, file⟩
    let size := found.size
    match letter with
    | 's' => return if size == 0 then .ofBool false else .ofNat size
    | 'z' => return .ofBool (size == 0)
    | 'l' => return .ofBool (scene.unary "-L" path)
    | 'o' => return .whole 1
    | letter => return .ofBool (scene.unary (String.ofList ['-', letter]) path)

/-- Removes a file. -/
def unlink (path : String) : Action Value :=
  changeTree fun s => do
    match ← s.world.tree.locateLink s.context.place path with
    | (_, .directory) => throw .isADirectory
    | (place, _) => return s.world.tree.remove place

/-- Makes a directory. -/
def makeDirectory (path : String) (mode : Nat) : Action Value :=
  changeTree fun s => do
    match ← s.world.tree.spot s.context.place path with
    | ⟨_, some _⟩ => throw .alreadyThere
    | ⟨place, none⟩ =>
      return s.world.tree.createDirectory place (mode &&& s.world.tree.directoryMode)

/-- Removes a directory. -/
def removeDirectory (path : String) : Action Value :=
  changeTree fun s => do
    match ← s.world.tree.locate s.context.place path with
    | (place, .directory) =>
      if (s.world.tree.namesIn place).isEmpty then return s.world.tree.remove place
      throw .notEmpty
    | _ => throw .notADirectory

/-- Gives a file another path. -/
def renameFile (source target : String) : Action Value :=
  changeTree fun s => do
    let (place, _) ← s.world.tree.locateLink s.context.place source
    let spot ← s.world.tree.spot s.context.place target
    match spot.file with
    | some .directory => throw .isADirectory
    | _ => return s.world.tree.move place spot.place

/-- Sets the permissions of a file. -/
def changeMode (mode : Nat) (path : String) : Action Value :=
  changeTree fun s => do
    let (place, _) ← s.world.tree.locate s.context.place path
    return s.world.tree.setMode place mode

/-- Sets when a file was changed last. -/
def changeTime (seconds : Int) (path : String) : Action Value :=
  changeTree fun s => do
    let tree := s.world.tree
    let (place, _) ← tree.locate s.context.place path
    return tree.withDetail place { tree.detail place with modified := (seconds, 0) }

/-- Sets the owner and the group of a file; one below zero is left as it is. -/
def changeOwner (owner group : Int) (path : String) : Action Value :=
  changeTree fun s => do
    let tree := s.world.tree
    let (place, _) ← tree.locate s.context.place path
    let old := tree.detail place
    let chosen (wanted : Int) (present : Nat) : Nat := if wanted < 0 then present else wanted.toNat
    return tree.withDetail place
      { old with owner := chosen owner old.owner, group := chosen group old.group }

/-- Gives a file another name. -/
def linkFile (source target : String) : Action Value :=
  changeTree fun s => do
    let tree := s.world.tree
    let (place, file) ← tree.locateLink s.context.place source
    let spot ← tree.spotOf false s.context.place target
    if spot.file.isSome then throw .alreadyThere
    if file == .directory then throw .notPermitted
    return tree.join place spot.place

/-- Makes a link that says a path. -/
def linkPath (text path : String) : Action Value :=
  changeTree fun s => do
    let spot ← s.world.tree.spotOf false s.context.place path
    if spot.file.isSome then throw .alreadyThere
    if text.isEmpty then throw .notFound
    return s.world.tree.put spot.place (.link text)

/-- Brings a file to a size. -/
def resizeFile (path : String) (size : Nat) : Action Value :=
  changeTree fun s => do
    match ← s.world.tree.locate s.context.place path with
    | (place, .ordinary text mode) =>
      let resized := text.toList.take size ++ List.replicate (size - text.length) '\x00'
      return s.world.tree.put place (.ordinary (String.ofList resized) mode)
    | (_, .directory) => throw .isADirectory
    | _ => throw .invalidArgument

/-- Changes the current directory. -/
def changeDirectory (path : String) : Action Value := do
  let s ← get
  match s.world.tree.locate s.context.place path with
  | .ok (place, .directory) =>
    set { s with context := { s.context with place } }
    return .whole 1
  | .ok _ =>
    setError SystemError.notADirectory.number
    return .ofBool false
  | .error error =>
    setError error.number
    return .ofBool false

/-- The descriptor that a stream has by its name. -/
def standardNumber? (name : String) : Option Nat :=
  match name with
  | "STDIN" => some 0
  | "STDOUT" => some 1
  | "STDERR" => some 2
  | _ => none

/-- The descriptor that another one is to be a copy of. -/
def copiedDescriptor (text : String) : Action (Option Nat) := do
  let name := (text.dropWhile fun c => c == '=').toString
  match standardNumber? name, name.toNat? with
  | some n, _ => return some n
  | none, some n => return some n
  | none, none =>
    match ← stream? name with
    | some ⟨.descriptor n, _, _, _, _⟩ => return some n
    | _ => return none

/-- Opens a file to write to. -/
def openOutput (name path : String) (appends : Bool) : Action Value := do
  let s ← get
  match s.context.writeFile path "" appends s.world with
  | .error error =>
    setError error.number
    return .ofBool false
  | .ok world =>
    set { s with world }
    match standardNumber? name with
    | none => setStream name ⟨.file path, "", "", 0, 0⟩
    | some n =>
      flush
      let channel : Channel :=
        match world.tree.locate s.context.place path with
        | .ok (_, .full) => .full
        | .ok (place, .ordinary ..) => .file place
        | _ => .nothing
      modify fun s =>
        { s with
          context := { s.context with descriptors := s.context.descriptors.assign n channel } }
      setStream name ⟨.descriptor n, "", "", 0, 0⟩
    setError 25
    return .whole 1

/-- Makes a stream a copy of another one. -/
def openCopy (name source : String) (isOutput : Bool) : Action Value := do
  match ← copiedDescriptor source with
  | none =>
    setError SystemError.badDescriptor.number
    return .ofBool false
  | some n =>
    flush
    match standardNumber? name with
    | some own =>
      let s ← get
      match s.context.descriptors.channel? n with
      | some channel =>
        set { s with
          context := { s.context with descriptors := s.context.descriptors.assign own channel } }
      | none => pure ()
      setStream name ⟨if own == 0 then .input else .descriptor own, "", "", 0, 0⟩
    | none =>
      let s ← get
      match s.context.descriptors.channel? n, isOutput with
      | some channel, true =>
        let free := (((List.range 256).drop 3).find? fun n =>
          (s.context.descriptors.channel? n).isNone).getD 256
        set { s with
          context := { s.context with descriptors := s.context.descriptors.assign free channel } }
        setStream name ⟨.descriptor free, "", "", 0, 0⟩
      | _, _ => setStream name ⟨.input, "", "", 0, 0⟩
    return .whole 1

/-- Opens a stream: `mode` says how, and `words` to what. -/
def openStream (name mode : String) (target : Value) (words : List String) : Action Value := do
  let path := target.toText
  match mode with
  | "<" =>
    match target with
    | .reference .scalar id =>
      setStream name ⟨.reading, (← valueOf id).toText, "", 0, 0⟩
      return .whole 1
    | _ =>
      let s ← get
      match s.context.readFile path s.world with
      | .ok (text, world) =>
        set { s with world }
        setStream name ⟨.reading, text, "", 0, 0⟩
        setError 25
        return .whole 1
      | .error .isADirectory =>
        setStream name ⟨.reading, "", "", 0, 0⟩
        return .whole 1
      | .error error =>
        setError error.number
        return .ofBool false
  | ">" =>
    match target with
    | .reference .scalar id =>
      setValue id (.text "")
      setStream name ⟨.memory id, "", "", 0, 0⟩
      return .whole 1
    | _ => openOutput name path false
  | ">>" =>
    match target with
    | .reference .scalar id =>
      setStream name ⟨.memory id, "", "", 0, 0⟩
      return .whole 1
    | _ => openOutput name path true
  | "+<" =>
    let s ← get
    match s.context.readFile path s.world with
    | .ok (text, world) =>
      set { s with world }
      setStream name ⟨.reading, text, "", 0, 0⟩
      return .whole 1
    | .error error =>
      setError error.number
      return .ofBool false
  | ">&" => openCopy name (← streamName target) true
  | ">&=" => openCopy name (← streamName target) true
  | ">>&" => openCopy name (← streamName target) true
  | "<&" => openCopy name (← streamName target) false
  | "-|" =>
    let (text, status) ← outputOf words
    setStream name ⟨.reading, text, "", 0, status⟩
    return .ofNat (← get).world.nextPid
  | "|-" =>
    setStream name ⟨.command words, "", "", 0, 0⟩
    return .ofNat (← get).world.nextPid
  | mode => fail ("Unknown open() mode '" ++ mode ++ "'")

/-- The mode and the target that a single text says. -/
def modeOf (text : String) : String × String :=
  let trimmed (cs : List Char) : String :=
    String.ofList ((cs.dropWhile isSpace).reverse.dropWhile isSpace).reverse
  let cs := (trimmed text.toList).toList
  let modes := ["+<", ">>&", ">&=", ">>", ">&", "<&", ">", "<"]
  match modes.find? fun m => m.toList.isPrefixOf cs with
  | some mode => (mode, trimmed (cs.drop mode.length))
  | none =>
    match cs, cs.getLast? with
    | '|' :: rest, _ => ("|-", trimmed rest)
    | cs, some '|' => ("-|", trimmed cs.dropLast)
    | cs, _ => ("<", String.ofList cs)

/-- The name of a new stream that a variable is to hold. -/
def newStreamName (owner : String) : Action String := do
  let base := "$" ++ owner
  let s ← get
  if s.streams.any fun f => f.1 == base then
    return base ++ "#" ++ toString s.objects.size
  return base

/-- The paths that a pattern stands for. -/
def globbed (pattern : String) : Action (List Value) := do
  let s ← get
  let words := wordsOf pattern.toList
  return words.flatMap fun word =>
    let field := word.toList.map fun c => (c, false)
    match Shell.Glob.paths s.world.tree s.context.place field with
    | [] =>
      if (Shell.Glob.ofChars field).any Shell.Glob.isActive then [] else [.text word]
    | paths => paths.map .text

/-! ## Signals and time -/

/-- Sends a signal to a process; true if there is such a process. `handler` runs what the script
does on the signal, if it does something. -/
def sendSignal (handler : Nat → Action Bool) (signal pid : Nat) : Action Bool := do
  let s ← get
  if pid == s.world.processes.headD 1 || pid == 0 then
    if signal == 0 then return true
    unless signal != 9 && (← handler signal) do
      unless Shell.harmlessSignals.contains signal do throw (.ended (.killed signal))
    return true
  else if s.world.shells.contains pid then
    if signal != 0 then
      modify fun s =>
        { s with world := { s.world with signals := s.world.signals ++ [(pid, signal)] } }
    return true
  else if s.world.processes.contains pid then return true
  else if s.children.any fun c => c.pid == pid then
    let changed (c : Child) : Child :=
      if c.pid == pid && s.world.clock < c.time && !Shell.harmlessSignals.contains signal then
        { c with ending := .killed signal, time := s.world.clock }
      else c
    set { s with children := s.children.map changed }
    return true
  else
    setError SystemError.noSuchProcess.number
    return false

/-- Lets time pass, in thousandths of a second; the alarm may go off. -/
def pass (handler : Nat → Action Bool) (time : Nat) : Action Unit := do
  let s ← get
  let later := s.world.clock + time
  match s.alarm with
  | some due =>
    if due ≤ later then
      set { s with alarm := none, world := { s.world with clock := max due s.world.clock } }
      unless ← handler 14 do throw (.ended (.killed 14))
    else set { s with world := { s.world with clock := later } }
  | none => set { s with world := { s.world with clock := later } }

/-- The signal that a value means, and true if it is meant for a group. -/
def signalOf (value : Value) : Option (Nat × Bool) :=
  let text := value.toText
  let isGroup := text.startsWith "-"
  let name := if isGroup then (text.drop 1).toString else text
  let name := if name.startsWith "SIG" then (name.drop 3).toString else name
  let name := if name == "ZERO" then "0" else name
  if name == "0" then some (0, isGroup)
  else (Shell.signalOf? name).map fun n => (n, isGroup)

/-- Divides the script: a copy of it runs, then the script itself goes on. The copy is found by
running the script from its start to the same place. -/
def divide : Action Value := do
  flush
  let s ← get
  let pid := s.world.nextPid
  if s.answers.headD false then
    let (pid, world) := s.world.addProcess
    set { s with
      world := { world with processes := pid :: world.processes }
      answers := s.answers.drop 1
      given := true :: s.given
      children := [] }
    return .whole 0
  else
    let (ending, world) := s.again (true :: s.given).reverse
    let child : Child := ⟨pid, ending, world.clock⟩
    set { s with
      world := { world with processes := s.world.processes, clock := s.world.clock }
      answers := s.answers.drop 1
      given := false :: s.given
      children := s.children ++ [child] }
    return .ofNat pid

/-- Waits for a copy of the script: the first one that ends, if none is named. -/
def awaitChild (pid? : Option Nat) (waits : Bool) : Action Value := do
  let s ← get
  let isMeant (c : Child) : Bool := pid?.all (· == c.pid)
  match (s.children.filter isMeant).mergeSort fun a b => a.time ≤ b.time with
  | [] =>
    setGlobalValue "?" (.whole (-1))
    setError 10
    return .whole (-1)
  | child :: _ =>
    if !waits && s.world.clock < child.time then return .whole 0
    set { s with
      world := { s.world with clock := max s.world.clock child.time }
      children := s.children.filter fun c => c.pid != child.pid }
    setStatus (statusOf child.ending)
    return .ofNat child.pid

end PointerTagging.Host.Scripting
