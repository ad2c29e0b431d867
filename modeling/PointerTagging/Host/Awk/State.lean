import PointerTagging.Host.Awk.Grammar
import PointerTagging.Host.Floating.Digits
import PointerTagging.Host.Format
import PointerTagging.Host.Launching
/-!
# The state of programs that scan records

The values of variables, the arrays, the streams, and the actions on them that everything else is
built from.
-/

namespace PointerTagging.Host.Awk

open Text

/-- A value. -/
inductive Value where
  | unset
  | number (x : Float)
  | text (s : String)
  /-- A text from outside; it counts as a number if it looks like one. -/
  | input (s : String)
  deriving Repr

/-- What a variable holds. -/
inductive Cell where
  | scalar (value : Value)
  | array (id : Nat)
  /-- Nothing has been done with the variable; the array is its own if it becomes one. -/
  | open (id : Nat)
  deriving Repr

/-- A stream that is read by records. -/
structure Input where
  name : String
  isCommand : Bool
  rest : String
  /-- The status of the command. -/
  status : Nat

/-- A stream that is written to; what a command reads is kept until it is closed. -/
structure Output where
  name : String
  direction : Direction
  text : String

/-- The state of a program that runs. -/
structure State where
  world : World
  context : Context
  start : Launcher
  program : Program
  /-- The name of the utility. -/
  title : String
  globals : List (String × Cell)
  /-- The variables of the functions that run, the innermost first. -/
  frames : List (List (String × Cell))
  arrays : List (Nat × List (String × Value))
  nextArray : Nat
  record : String
  /-- The value that has been read or assigned as the record. -/
  recordValue : Value
  /-- The fields of the record, if it has been split. -/
  fields : Option (List Value)
  /-- What has been printed and is not yet written. -/
  printed : String
  /-- Something has been written to the standard output. -/
  hasPrinted : Bool
  inputs : List Input
  outputs : List Output
  /-- The text that is left of the current file. -/
  left : Option String
  /-- The number of the next argument to read. -/
  nextArgument : Nat
  /-- A file has been read. -/
  hasRead : Bool
  /-- The ranges that have begun, by the numbers of their rules. -/
  ranges : List Nat
  code : Nat
  seed : Float

/-- Why the commands that come next are not run. -/
inductive Stop where
  | next
  | nextFile
  | exit
  | return (value : Value)
  | break
  | continue
  | failed (message : String)
  /-- The program has run too long. -/
  | killed

/-- What a running program does. -/
abbrev Action := ExceptT Stop (StateM State)

/-! ## Numbers -/

/-- The number at the start of a text. -/
def numberAtStart (s : String) : Float :=
  ((Floating.atStart? .double s).map fun f => f.value.toFloat).getD 0.0

/-- True of a text that looks like a number. -/
def looksNumeric (s : String) : Bool :=
  let cs := (s.toList.dropWhile fun c => c == ' ' || ('\t' ≤ c && c ≤ '\r')).reverse.dropWhile
    fun c => c == ' ' || ('\t' ≤ c && c ≤ '\r')
  match cs.getLast? with
  | none => false
  | some c =>
    (c.isDigit || c == '+' || c == '-' || c == '.') &&
      match Floating.atStart? .double (String.ofList cs.reverse) with
      | some found => found.rest.isEmpty && cs.head?.any fun c => c.isDigit || c == '.'
      | none => false

/-- The whole part of a number, within the bounds of the machine. -/
def wholePart (x : Float) : Int :=
  let bound : Int := 9223372036854775808
  match (Floating.ofFloat x).truncate? with
  | some n => if n ≥ bound then min n (2 * bound - 1) else if n ≤ -bound then 1 - bound else n
  | none => if x > 0.0 then 2 * bound - 1 else 1 - bound

/-- The remainder of a division. -/
def remainder (x y : Float) : Float :=
  match Floating.ofFloat x, Floating.ofFloat y with
  | .finite negative m e, .finite _ n f =>
    let least := min e f
    let divisor := Floating.scaled n f least
    if divisor == 0 then 0.0 / 0.0
    else (Floating.finite negative (Floating.scaled m e least % divisor) least).toFloat
  | .finite .., .infinite _ => x
  | _, _ => 0.0 / 0.0

/-- The text of a number in a form with an exponent or a point. -/
def floatingText (flags : List Char) (width : Nat) (precision : Option Nat) (letter : Char)
    (x : Float) : String :=
  let style : Floating.Style := ⟨flags, width, precision, letter, 1⟩
  match Floating.ofFloat x with
  | .undefined _ => style.text (.undefined true)
  | y => style.text y

/-! ## Formats -/

/-- A width or a precision at the start of a format: a number or a star. -/
def amountAtStart (cs : List Char) : Option (Option Nat) × List Char :=
  match cs with
  | '*' :: cs => (some none, cs)
  | cs =>
    let digits := cs.takeWhile Char.isDigit
    if digits.isEmpty then (none, cs)
    else (some (Numeral.valueFrom 10 0 digits), cs.drop digits.length)

/-- What is wrong with a format. -/
inductive FormatError where
  | tooFew
  | badConversion (n : Nat)

/-- An argument as a format takes it: its text, its number, and whether it counts as a number. -/
structure Argument where
  text : String
  number : Float
  isNumber : Bool

/-- A number under a conversion for whole numbers. -/
def wholeText (flags : List Char) (width : Nat) (precision : Option Nat) (letter : Char)
    (x : Float) : String :=
  let n := wholePart x
  let directive : Format.Directive := ⟨flags, .absent, .absent, letter⟩
  String.ofList (Format.formatNumber directive width precision n)

/-- Text within a precision, brought to a width. -/
def placedText (flags : List Char) (width : Nat) (precision : Option Nat) (s : String) : String :=
  let cs := (precision.map fun n => s.toList.take n).getD s.toList
  String.ofList (Format.pad (flags.contains '-') width cs)

/-- A format with its arguments in place: what is printed, up to an error if there is one. `n`
counts the conversions. -/
def formatted : Nat → (n : Nat) → List Char → List Argument → String × Option FormatError
  | 0, _, _, _ => ("", none)
  | _, _, [], _ => ("", none)
  | fuel + 1, n, '%' :: '%' :: cs, arguments =>
    let (text, error) := formatted fuel n cs arguments
    ("%" ++ text, error)
  | fuel + 1, n, '%' :: cs, arguments =>
    let flags := cs.takeWhile "-+ #0".toList.contains
    let (width, cs) := amountAtStart (cs.drop flags.length)
    let (precision, cs) :=
      match cs with
      | '.' :: cs =>
        match amountAtStart cs with
        | (none, cs) => (some (some 0), cs)
        | found => found
      | cs => (none, cs)
    let cs := cs.dropWhile fun c => c == 'l' || c == 'h'
    let take (amount : Option (Option Nat)) (arguments : List Argument) :
        Option (Option Int × List Argument) :=
      match amount, arguments with
      | none, arguments => some (none, arguments)
      | some (some n), arguments => some (some (n : Int), arguments)
      | some none, argument :: arguments => some (some (wholePart argument.number), arguments)
      | some none, [] => none
    match take width arguments with
    | none => ("", some .tooFew)
    | some (width, arguments) =>
      match take precision arguments with
      | none => ("", some .tooFew)
      | some (precision, arguments) =>
        let flags := if width.any (· < 0) then '-' :: flags else flags
        let width := (width.map Int.natAbs).getD 0
        let precision := precision.bind fun p => if p < 0 then none else some p.toNat
        match cs, arguments with
        | _, [] => ("", some .tooFew)
        | [], _ => ("", some (.badConversion n))
        | letter :: cs, argument :: arguments =>
          if !"cdioxXufFeEgGs".toList.contains letter then ("", some (.badConversion n))
          else
            let shown :=
              match letter with
              | 's' => placedText flags width precision argument.text
              | 'c' =>
                let c :=
                  if argument.isNumber then Char.ofNat ((wholePart argument.number) % 256).toNat
                  else (argument.text.toList.head?).getD '\x00'
                placedText flags width none (String.ofList [c])
              | letter =>
                if "dioxXu".toList.contains letter then
                  wholeText flags width precision letter argument.number
                else floatingText flags width precision letter argument.number
            let (text, error) := formatted fuel (n + 1) cs arguments
            (shown ++ text, error)
  | fuel + 1, n, c :: cs, arguments =>
    let (text, error) := formatted fuel n cs arguments
    (String.ofList [c] ++ text, error)

/-- The text of a number; `form` is the format for those that are not whole. -/
def numberText (form : String) (x : Float) : String :=
  let bound : Float := 9223372036854775808.0
  if x.floor == x && -bound ≤ x && x ≤ 2.0 * bound then
    let n := ((Floating.ofFloat x).truncate?).getD 0
    toString (min n 18446744073709551615)
  else if form == "%.6g" then floatingText [] 0 none 'g' x
  else (formatted (form.length + 1) 1 form.toList [⟨"", x, true⟩]).1

/-! ## Variables -/

/-- What a variable holds, if it is known. -/
def lookUp (name : String) (cells : List (String × Cell)) : Option Cell :=
  (cells.find? fun v => v.1 == name).map (·.2)

/-- Variables with one of them changed. -/
def assignIn (name : String) (cell : Cell) (cells : List (String × Cell)) :
    List (String × Cell) :=
  if cells.any fun v => v.1 == name then
    cells.map fun v => if v.1 == name then (name, cell) else v
  else cells ++ [(name, cell)]

/-- Fails with a message. -/
def fail {α : Type} (message : String) : Action α := throw (.failed message)

/-- The value of a global variable in a state. -/
def State.global (s : State) (name : String) : Value :=
  match lookUp name s.globals with
  | some (.scalar value) => value
  | _ => .unset

/-- What a variable holds; one that is not known is open. -/
def cellOf (name : String) : Action Cell := do
  let s ← get
  match (s.frames.head?).bind (lookUp name), lookUp name s.globals with
  | some cell, _ => return cell
  | none, some cell => return cell
  | none, none =>
    let cell := Cell.open s.nextArray
    set { s with nextArray := s.nextArray + 1, globals := s.globals ++ [(name, cell)] }
    return cell

/-- Changes what a variable holds. -/
def setCell (name : String) (cell : Cell) : Action Unit :=
  modify fun s =>
    match s.frames with
    | frame :: frames =>
      if frame.any fun v => v.1 == name then
        { s with frames := assignIn name cell frame :: frames }
      else { s with globals := assignIn name cell s.globals }
    | [] => { s with globals := assignIn name cell s.globals }

/-- The value of a global variable. -/
def globalValue (name : String) : Action Value := do return (← get).global name

/-- Sets a global variable. -/
def setGlobal (name : String) (value : Value) : Action Unit :=
  modify fun s => { s with globals := assignIn name (.scalar value) s.globals }

/-- The text of a value; `form` is the name of the variable that holds the format for numbers. -/
def textBy (form : String) (value : Value) : Action String := do
  match value with
  | .unset => return ""
  | .text s => return s
  | .input s => return s
  | .number x =>
    let form ←
      match ← globalValue form with
      | .text s => pure s
      | .input s => pure s
      | _ => pure "%.6g"
    return numberText form x

/-- The text of a value. -/
def toText (value : Value) : Action String := textBy "CONVFMT" value

/-- The number of a value. -/
def Value.toNumber : Value → Float
  | .unset => 0.0
  | .number x => x
  | .text s => numberAtStart s
  | .input s => numberAtStart s

/-- True of a value that counts as a number in comparisons. -/
def Value.isNumeric : Value → Bool
  | .unset => true
  | .number _ => true
  | .text _ => false
  | .input s => looksNumeric s

/-- True of a value that counts as true. -/
def Value.isTrue : Value → Bool
  | .unset => false
  | .number x => x != 0.0
  | .text s => !s.isEmpty
  | .input s => if looksNumeric s then numberAtStart s != 0.0 else !s.isEmpty

/-- A truth value. -/
def Value.ofBool (b : Bool) : Value := .number (if b then 1.0 else 0.0)

/-- A natural number as a value. -/
def Value.ofNat (n : Nat) : Value := .number (Float.ofNat n)

/-- The text of a global variable. -/
def globalText (name : String) : Action String := do toText (← globalValue name)

/-- Fails with a message that tells where the program is. -/
def complain {α : Type} (message : String) : Action α := do
  let file ← globalText "FILENAME"
  let counts := "FNR=" ++ (← globalText "FNR") ++ " NR=" ++ (← globalText "NR")
  fail ("run time error: " ++ message ++ "\n\tFILENAME=\"" ++ file ++ "\" " ++ counts)

/-! ## Arrays -/

/-- The number of the array that a variable is. -/
def arrayOf (name : String) : Action Nat := do
  match ← cellOf name with
  | .array id => return id
  | .open id =>
    setCell name (.array id)
    return id
  | .scalar _ => complain ("can't use scalar " ++ name ++ " as array")

/-- The elements of an array, the one last used first. -/
def elements (id : Nat) : Action (List (String × Value)) := do
  return (((← get).arrays.find? fun a => a.1 == id).map (·.2)).getD []

/-- Replaces the elements of an array. -/
def setElements (id : Nat) (all : List (String × Value)) : Action Unit :=
  modify fun s => { s with arrays := (id, all) :: s.arrays.filter fun a => a.1 != id }

/-- The value of an element, which is there from then on. -/
def elementOf (id : Nat) (key : String) : Action Value := do
  let all ← elements id
  match all.find? fun e => e.1 == key with
  | some (_, value) => return value
  | none =>
    setElements id ((key, .unset) :: all)
    return .unset

/-- Sets an element. -/
def setElement (id : Nat) (key : String) (value : Value) : Action Unit := do
  let all ← elements id
  if all.any fun e => e.1 == key then
    setElements id (all.map fun e => if e.1 == key then (key, value) else e)
  else setElements id ((key, value) :: all)

/-- The number by which a key finds its place in a table. -/
def hash (key : String) : Nat :=
  key.toList.foldl (fun h c => ((h ^^^ c.toNat) * 16777619) % 4294967296) 2166136261

/-- The number of places in a table with some keys. -/
def tableSize : Nat → (size keys : Nat) → Nat
  | 0, size, _ => size
  | n + 1, size, keys => if keys > 12 * size then tableSize n (2 * size) keys else size

/-- The keys of an array in the order in which loops visit them: by their places in a table; of
those at the same place the one that was put there last comes first. -/
def keysOf (id : Nat) : Action (List String) := do
  let keys := (← elements id).map (·.1)
  let size := tableSize 32 64 keys.length
  let isWhole (key : String) : Bool := !key.isEmpty && key.toList.all Char.isDigit
  let rank (key : String) : Nat :=
    if isWhole key then ((Numeral.valueFrom 10 0 key.toList).getD 0) else 0
  let placed := keys.map fun key => (hash key % size, rank key, key)
  return (placed.mergeSort fun a b =>
    a.1 < b.1 || (a.1 == b.1 && (a.2.1 ≥ b.2.1))).map (·.2.2)

/-! ## Output -/

/-- Writes what has been printed. -/
def flush : Action Unit :=
  modify fun s =>
    if s.printed.isEmpty then s
    else
      { s with
        world := s.context.write 1 s.printed s.world
        printed := ""
        hasPrinted := true }

/-- Prints a text. -/
def printText (text : String) : Action Unit :=
  modify fun s => { s with printed := s.printed ++ text }

/-- Writes what waits for a file. -/
def flushFile (output : Output) : Action Unit := do
  if output.text.isEmpty || output.direction == .command then return
  let s ← get
  match s.context.writeFile output.name output.text true s.world with
  | .ok world => set { s with world }
  | .error error => fail ("write failure (" ++ error.text ++ ")")

/-- Writes all that waits. -/
def flushAll : Action Unit := do
  flush
  for output in (← get).outputs do
    flushFile output
  modify fun s =>
    { s with outputs := s.outputs.map fun o =>
        if o.direction == .command then o else { o with text := "" } }

/-- Writes a text to a file or to a command, which is opened before if need be. -/
def emit (direction : Direction) (name text : String) : Action Unit := do
  let isCommand := direction == .command
  if !isCommand && (name == "/dev/stdout" || name == "-") then printText text
  else if !isCommand && name == "/dev/stderr" then
    modify fun s => { s with world := s.context.write 2 text s.world }
  else
    let isIt (o : Output) : Bool := o.name == name && (o.direction == .command) == isCommand
    unless (← get).outputs.any isIt do
      if isCommand then flushAll
      else
        let s ← get
        let appends := direction == .file true
        match s.context.writeFile name "" appends s.world with
        | .ok world => set { s with world }
        | .error error =>
          fail ("cannot open \"" ++ name ++ "\" for output (" ++ error.text ++ ")")
      modify fun s => { s with outputs := ⟨name, direction, ""⟩ :: s.outputs }
    modify fun s =>
      { s with outputs := s.outputs.map fun o =>
          if isIt o then { o with text := o.text ++ text } else o }

/-- The status that a command leaves behind. -/
def statusOf : Ending → Nat
  | .exited code => code.toNat
  | .killed signal => 256 + signal

/-- Closes an output; returned is its status. -/
def closeOutput (output : Output) : Action Nat := do
  modify fun s => { s with outputs := s.outputs.filter fun o =>
    o.name != output.name || o.direction != output.direction }
  if output.direction == .command then
    let s ← get
    let (ending, world) := s.start.input s.context output.name output.text s.world
    set { s with world }
    return statusOf ending
  flushFile output
  return 0

/-- Has the shell run a command. -/
def system (command : String) : Action Nat := do
  flushAll
  let s ← get
  let (ending, world) := s.start.shell s.context command s.world
  set { s with world }
  return statusOf ending

end PointerTagging.Host.Awk
