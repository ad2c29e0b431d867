import PointerTagging.Host.Awk.Parsing
import PointerTagging.Host.Awk.State
/-!
# Records and fields

How texts are divided into records and records into fields, and the current record of a program.
-/

namespace PointerTagging.Host.Awk

/-- What stands between the parts of a text. -/
inductive Separator where
  | blanks
  | char (c : Char)
  | regex (expression : Regex)
  /-- Nothing: each character is a part. -/
  | nothing

/-- How expressions are matched. -/
def matching : Matching := ⟨false, true⟩

/-- True of the characters that blanks are made of. -/
def isSpace (c : Char) : Bool := c == ' ' || c == '\t' || c == '\n'

/-- The words between blanks. -/
def wordsOf : Nat → List Char → List String
  | 0, _ => []
  | n + 1, cs =>
    match cs.dropWhile isSpace with
    | [] => []
    | cs =>
      let word := cs.takeWhile (!isSpace ·)
      String.ofList word :: wordsOf n (cs.drop word.length)

/-- The parts of a text; an empty text has none. -/
def Separator.parts (separator : Separator) (text : String) : List String :=
  if text.isEmpty then []
  else
    match separator with
    | .blanks => wordsOf (text.length + 1) text.toList
    | .char c => text.splitOn (String.ofList [c])
    | .nothing => text.toList.map fun c => String.ofList [c]
    | .regex expression =>
      let found := (Regex.matchesIn matching expression text).filter fun m => m.1.index < m.2.index
      Regex.gaps text 0 found

/-- The expression that a text is when the program runs. -/
def compile (text : String) : Action Regex := do
  match Regex.parse dialect text with
  | .ok (regex, _) => return regex
  | .error error => complain (regexComplaint error text)

/-- The separator that a text stands for. -/
def separatorOf (text : String) : Action Separator := do
  match text.toList with
  | [] => return .nothing
  | [' '] => return .blanks
  | [c] => return .char c
  | _ => return .regex (← compile text)

/-! ## Records -/

/-- A record at the start of a text, and what is left behind its end. -/
abbrev Division := Option (String × String)

/-- The first paragraph of a text. -/
def paragraph (text : String) : Division :=
  match text.toList.dropWhile (· == '\n') with
  | [] => none
  | cs =>
    let parts := (String.ofList cs).splitOn "\n\n"
    let first := parts.headD ""
    let rest := "\n\n".intercalate (parts.drop 1)
    let isLast := parts.length == 1
    let first := if isLast && first.endsWith "\n" then (first.dropEnd 1).toString else first
    some (first, String.ofList (rest.toList.dropWhile (· == '\n')))

/-- The text up to a character. -/
def upToChar (c : Char) (text : String) : Division :=
  if text.isEmpty then none
  else
    let record := text.toList.takeWhile (· != c)
    some (String.ofList record, (text.drop (record.length + 1)).toString)

/-- The first record of a text. -/
def nextRecord (text : String) : Action Division := do
  let separator ← globalText "RS"
  match separator.toList with
  | [] => return paragraph text
  | [c] => return upToChar c text
  | _ =>
    if text.isEmpty then return none
    let regex ← compile separator
    let found := (Regex.matchesIn matching regex text).find? fun m => m.1.index < m.2.index
    match found with
    | some (start, ending) =>
      return some ((text.take start.index).toString, (text.drop ending.index).toString)
    | none => return some (text, "")

/-! ## The current record -/

/-- Sets the number of the fields. -/
def setCount (n : Nat) : Action Unit := setGlobal "NF" (.ofNat n)

/-- Sets the record. -/
def setRecord (record : Value) : Action Unit := do
  let text ← toText record
  modify fun s => { s with record := text, recordValue := record, fields := none }

/-- The fields of the record, which is split if it has not been yet. -/
def fieldsOf : Action (List Value) := do
  let s ← get
  match s.fields with
  | some fields => return fields
  | none =>
    let separator ← separatorOf (← globalText "FS")
    let fields := (separator.parts s.record).map Value.input
    modify fun s => { s with fields := some fields }
    setCount fields.length
    return fields

/-- Replaces the fields, from which the record follows. -/
def setFields (fields : List Value) : Action Unit := do
  let separator ← globalText "OFS"
  let record := separator.intercalate (← fields.mapM toText)
  modify fun s => { s with record, recordValue := .input record, fields := some fields }
  setCount fields.length

/-- The value of a field; the record has the number zero. -/
def fieldAt (n : Nat) : Action Value := do
  if n == 0 then return (← get).recordValue
  return ((← fieldsOf)[n - 1]?).getD .unset

/-- Sets a field. -/
def setFieldAt (n : Nat) (value : Value) : Action Unit := do
  if n == 0 then setRecord value
  else
    let fields ← fieldsOf
    let fields := fields ++ List.replicate (n - fields.length) (.text "")
    setFields (fields.set (n - 1) value)

/-- The number of a field. -/
def fieldNumber (x : Float) : Action Nat := do
  let n := wholePart x
  if n < 0 then complain ("negative field index $" ++ toString n)
  if n > 32767 then complain ("maximum number of fields is 32767, not " ++ toString n)
  return n.toNat

/-- The value of a variable. -/
def valueOf (name : String) : Action Value := do
  if name == "NF" then
    let _ ← fieldsOf
  match ← cellOf name with
  | .scalar value => return value
  | _ => return .unset

/-- Sets a variable. -/
def setVariable (name : String) (value : Value) : Action Unit := do
  if name == "NF" then
    let n := (wholePart value.toNumber).toNat
    let fields ← fieldsOf
    setFields (fields.take n ++ List.replicate (n - fields.length) (.text ""))
  else
    if name == "FS" then
      let _ ← fieldsOf
    setCell name (.scalar value)

/-- Counts a record of the files in the arguments. -/
def countRecord : Action Unit := do
  setGlobal "NR" (.number ((← globalValue "NR").toNumber + 1.0))
  setGlobal "FNR" (.number ((← globalValue "FNR").toNumber + 1.0))

/-! ## Input -/

/-- The text of a file that is read by records, or of the standard input. -/
def textOfFile (path : String) : Action (Except SystemError String) := do
  let s ← get
  if path == "-" || path == "/dev/stdin" then
    match s.context.descriptors.channel? 0 with
    | some channel =>
      set { s with world := s.world.leave channel "" }
      return .ok (s.world.pending channel)
    | none => return .error .badDescriptor
  match s.context.readFile path s.world with
  | .ok (text, world) =>
    set { s with world }
    return .ok text
  | .error error => return .error error

/-- The variable and the value that an argument assigns, if it is an assignment. -/
def assignment? (word : String) : Option (String × String) :=
  let name := word.toList.takeWhile fun c => c.isAlphanum || c == '_'
  match word.toList.drop name.length with
  | '=' :: value =>
    if name.isEmpty || name.head?.any Char.isDigit then none
    else some (String.ofList name, unescape (value.length + 1) value)
  | _ => none

/-- Opens the next file of the arguments; false if there is none. -/
def openNext : Nat → Action Bool
  | 0 => return false
  | n + 1 => do
    let s ← get
    let count := wholePart (← globalValue "ARGC").toNumber
    if s.nextArgument < count then
      set { s with nextArgument := s.nextArgument + 1 }
      let all ← elements (← arrayOf "ARGV")
      match (all.find? fun e => e.1 == toString s.nextArgument).map (·.2) with
      | none => openNext n
      | some value =>
        let word ← toText value
        match word, assignment? word with
        | "", _ => openNext n
        | _, some (name, value) =>
          setVariable name (.input value)
          openNext n
        | _, none =>
          begin word
          return true
    else if s.hasRead then return false
    else
      begin "-"
      return true
where
  /-- Begins to read a file. -/
  begin (path : String) : Action Unit := do
    modify fun s => { s with hasRead := true }
    match ← textOfFile path with
    | .ok text =>
      modify fun s => { s with left := some text }
      setGlobal "FILENAME" (.input path)
      setGlobal "FNR" (.number 0.0)
    | .error error =>
      if error == .isADirectory then fail ("read error (" ++ error.text ++ ")")
      fail ("cannot open \"" ++ path ++ "\" (" ++ error.text ++ ")")

/-- Takes the next record of the files in the arguments. -/
def mainRecord : Nat → Action (Option String)
  | 0 => return none
  | n + 1 => do
    match (← get).left with
    | some text =>
      match ← nextRecord text with
      | some (record, rest) =>
        modify fun s => { s with left := some rest }
        return some record
      | none =>
        modify fun s => { s with left := none }
        mainRecord n
    | none =>
      let room := (wholePart (← globalValue "ARGC").toNumber).toNat + 2
      if ← openNext room then mainRecord n else return none

/-- The next record of the files in the arguments, which there are only so many of. -/
def takeMain : Action (Option String) := do
  mainRecord (2 * (wholePart (← globalValue "ARGC").toNumber).toNat + 4)

/-- The stream of a name, which is opened if need be; nothing if that fails. -/
def inputOf (isCommand : Bool) (name : String) : Action (Option Input) := do
  match (← get).inputs.find? fun i => i.name == name && i.isCommand == isCommand with
  | some found => return some found
  | none =>
    let opened? : Option Input ←
      if isCommand then do
        flushAll
        let s ← get
        let (text, ending, world) := s.start.output s.context name s.world
        set { s with world }
        pure (some ⟨name, true, text, statusOf ending⟩)
      else do
        match ← textOfFile name with
        | .ok text => pure (some ⟨name, false, text, 0⟩)
        | .error error =>
          if error == .isADirectory then fail ("read error (" ++ error.text ++ ")")
          pure none
    match opened? with
    | some opened =>
      modify fun s => { s with inputs := opened :: s.inputs }
      return some opened
    | none => return none

/-- Takes the next record of a stream; the number is the one that reading a line returns. -/
def takeFrom (isCommand : Bool) (name : String) : Action (Int × String) := do
  match ← inputOf isCommand name with
  | none => return (-1, "")
  | some input =>
    match ← nextRecord input.rest with
    | none => return (0, "")
    | some (record, rest) =>
      let next := { input with rest }
      modify fun s =>
        { s with inputs := s.inputs.map fun i =>
            if i.name == name && i.isCommand == isCommand then next else i }
      return (1, record)

/-- Closes the streams of a name; returned is the status of one of them. -/
def close (name : String) : Action Int := do
  let s ← get
  let outputs := s.outputs.filter fun o => o.name == name
  let inputs := s.inputs.filter fun i => i.name == name
  set { s with inputs := s.inputs.filter fun i => i.name != name }
  let statuses ← outputs.mapM closeOutput
  match statuses.map Int.ofNat ++ inputs.map fun i => Int.ofNat i.status with
  | status :: _ => return status
  | [] => return -1

end PointerTagging.Host.Awk
