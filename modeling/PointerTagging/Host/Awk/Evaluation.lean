import PointerTagging.Host.Awk.Record
/-!
# Evaluating expressions and running commands

What expressions are worth and what commands do. Expressions and commands are evaluated by an
interpreter that has one level less to go down for the parts of each.
-/

namespace PointerTagging.Host.Awk

/-- What evaluates expressions and runs commands. -/
structure Interpreter where
  eval : Expr → Action Value
  exec : Statement → Action Unit

/-- How often a loop may be run. Every loop that ends is run fewer times. -/
def rounds : Nat := 100000000

/-! ## Operations -/

/-- The result of an operation. -/
def Operator.apply (operator : Operator) (x y : Float) : Float :=
  match operator with
  | .plus => x + y
  | .minus => x - y
  | .times => x * y
  | .divide => x / y
  | .modulo => remainder x y
  | .power => Float.pow x y

/-- True if an order satisfies a comparison. -/
def Comparison.holds (comparison : Comparison) (order : Ordering) : Bool :=
  match comparison with
  | .less => order == .lt
  | .atMost => order != .gt
  | .equal => order == .eq
  | .different => order != .eq
  | .greater => order == .gt
  | .atLeast => order != .lt

/-- Compares numbers. -/
def Comparison.holdsOf (comparison : Comparison) (x y : Float) : Bool :=
  match comparison with
  | .less => x < y
  | .atMost => x ≤ y
  | .equal => x == y
  | .different => x != y
  | .greater => x > y
  | .atLeast => x ≥ y

/-- Compares values: as numbers if both count as such, else as texts. -/
def compareValues (comparison : Comparison) (a b : Value) : Action Bool := do
  if a.isNumeric && b.isNumeric then return comparison.holdsOf a.toNumber b.toNumber
  return comparison.holds (compare (← toText a) (← toText b))

/-- The key of some indices. -/
def keyOf (indices : List Value) : Action String := do
  match indices with
  | [index] => toText index
  | indices => return (← globalText "SUBSEP").intercalate (← indices.mapM toText)

/-! ## Text -/

/-- Part of a text. -/
def part (text : String) (start : Float) (length : Option Float) : String :=
  let start := wholePart start
  let first := max start 1
  match length with
  | none => (text.drop (first - 1).toNat).toString
  | some length =>
    let length := wholePart length
    let length := if start < 0 then length - start else length
    ((text.drop (first - 1).toNat).take length.toNat).toString

/-- The number of the place where a text stands in another one, from one; zero if it does not. -/
def indexOf (part : List Char) : List Char → Nat
  | [] => if part.isEmpty then 1 else 0
  | c :: cs =>
    if part.isPrefixOf (c :: cs) then 1
    else
      match indexOf part cs with
      | 0 => 0
      | n + 1 => n + 2

/-- A replacement in which an ampersand stands for what has matched. -/
def filled (found : String) : List Char → String
  | [] => ""
  | '\\' :: '\\' :: '&' :: cs => "\\" ++ found ++ filled found cs
  | '\\' :: '&' :: cs => "&" ++ filled found cs
  | '&' :: cs => found ++ filled found cs
  | c :: cs => String.ofList [c] ++ filled found cs

/-- A text with the first match or with all matches of an expression replaced, and the number of
those. -/
def substituted (isGlobal : Bool) (regex : Regex) (replacement text : String) : String × Nat :=
  let found :=
    if isGlobal then Regex.matchesIn matching regex text
    else (Regex.search? matching regex text).toList
  (Regex.replaced text found fun start ending => filled (start.upTo ending) replacement.toList,
    found.length)

/-- The arguments of a format. -/
def formatArguments (values : List Value) : Action (List Argument) :=
  values.mapM fun value => do
    let isNumber := match value with
      | .number _ => true
      | .input s => looksNumeric s
      | _ => false
    return ⟨← toText value, value.toNumber, isNumber⟩

/-- Values in a format; what comes before an error is given to `print`. -/
def formatValues (function : String) (form : String) (values : List Value)
    (print : String → Action Unit) : Action Unit := do
  let (text, error) := formatted (form.length + 1) 1 form.toList (← formatArguments values)
  match error with
  | none => print text
  | some error =>
    let place := function ++ "(\"" ++ form ++ "\")"
    if function == "printf" then print text
    match error with
    | .tooFew => complain ("not enough arguments passed to " ++ place)
    | .badConversion n => complain ("improper conversion(number " ++ toString n ++ ") in " ++ place)

/-! ## Expressions -/

/-- The expression that an operand is as a pattern. -/
def patternOf (interpreter : Interpreter) : Expr → Action Regex
  | .regex expression => return expression
  | .group [.regex expression] => return expression
  | operand => do compile (← toText (← interpreter.eval operand))

/-- The elements of an array that are named by indices. -/
def keyOfIndices (interpreter : Interpreter) (indices : List Expr) : Action String := do
  keyOf (← indices.mapM interpreter.eval)

/-- What can be assigned to, with its index found. -/
inductive Target where
  | name (name : String)
  | field (n : Nat)
  | element (array : Nat) (key : String)

/-- The target that an expression is. -/
def targetOf (interpreter : Interpreter) : Expr → Action Target
  | .name x => return .name x
  | .field index => do return .field (← fieldNumber (← interpreter.eval index).toNumber)
  | .element array indices => do
    let key ← keyOfIndices interpreter indices
    return .element (← arrayOf array) key
  | .group [inside] =>
    match inside with
    | .name x => return .name x
    | .field index => do return .field (← fieldNumber (← interpreter.eval index).toNumber)
    | _ => complain "assignment to a value"
  | _ => complain "assignment to a value"

/-- The value of a target. -/
def Target.value : Target → Action Value
  | .name x => valueOf x
  | .field n => fieldAt n
  | .element array key => elementOf array key

/-- Sets a target. -/
def Target.assign (target : Target) (value : Value) : Action Unit :=
  match target with
  | .name x => setVariable x value
  | .field n => setFieldAt n value
  | .element array key => setElement array key value

/-- Sets the elements of an array to the parts of a text; returned is their number. -/
def splitInto (array : Nat) (separator : Separator) (text : String) : Action Nat := do
  let parts := separator.parts text
  setElements array
    ((parts.zipIdx 1).map fun (part, n) => (toString n, Value.input part)).reverse
  return parts.length

/-- A number that follows from a seed, below one. -/
def nextRandom : Action Float := do
  let s ← get
  let next := (s.seed.toUInt64.toNat * 1103515245 + 12345) % 2147483648
  set { s with seed := Float.ofNat next }
  return Float.ofNat next / 2147483648.0

/-- The time at which programs run. -/
def now : Action Nat := do return (← get).world.second.toNat

/-- A function of one number. -/
def numeric? (name : String) : Option (Float → Float) :=
  match name with
  | "sin" => some Float.sin
  | "cos" => some Float.cos
  | "exp" => some Float.exp
  | "log" => some Float.log
  | "sqrt" => some Float.sqrt
  | "int" => some fun x => if x < 0.0 then x.ceil else x.floor
  | _ => none

/-- The functions of values. -/
def callOnValues (name : String) (values : List Value) : Action Value := do
  let first := values.headD .unset
  let second := (values.drop 1).headD .unset
  match numeric? name with
  | some f => return .number (f first.toNumber)
  | none =>
    match name with
    | "atan2" => return .number (Float.atan2 first.toNumber second.toNumber)
    | "rand" => return .number (← nextRandom)
    | "srand" =>
      let old := (← get).seed
      let seed ← if values.isEmpty then do pure (Float.ofNat (← now)) else pure first.toNumber
      modify fun s => { s with seed }
      return .number old
    | "substr" =>
      let length := (values.drop 2).head?.map Value.toNumber
      return .text (part (← toText first) second.toNumber length)
    | "index" => return .ofNat (indexOf (← toText second).toList (← toText first).toList)
    | "tolower" => return .text (String.ofList ((← toText first).toList.map Char.toLower))
    | "toupper" => return .text (String.ofList ((← toText first).toList.map Char.toUpper))
    | "system" => return .ofNat (← system (← toText first))
    | "close" => return .number (Float.ofInt (← close (← toText first)))
    | "fflush" =>
      flushAll
      return .number 0.0
    | "systime" => return .ofNat (← now)
    | "mktime" => return .number (-1.0)
    | "sprintf" =>
      let form ← toText first
      let values ← formatArguments (values.drop 1)
      let (text, error) := formatted (form.length + 1) 1 form.toList values
      match error with
      | none => return .text text
      | some _ =>
        formatValues "sprintf" form [] fun _ => return
        return .text text
    | _ => return .unset

/-- Reads a line: where the record comes from, and what it is put into. -/
def getline (interpreter : Interpreter) (source : Source) (from? : Option Expr)
    (target? : Option Expr) : Action Value := do
  let name ←
    match from? with
    | some expr => do toText (← interpreter.eval expr)
    | none => pure ""
  let target? ← target?.mapM (targetOf interpreter)
  let (status, record) ←
    if source == .main then
      match ← takeMain with
      | some record => pure (1, record)
      | none => pure (0, "")
    else takeFrom (source == .command) name
  if status == 1 then
    if source == .main then countRecord
    match target? with
    | some target => target.assign (.input record)
    | none =>
      setRecord (.input record)
      let _ ← fieldsOf
  return .number (Float.ofInt status)

/-- The cell that a parameter starts with. -/
def argumentCell (interpreter : Interpreter) (argument : Expr) : Action Cell := do
  match argument with
  | .name x =>
    match ← cellOf x with
    | .scalar _ => return .scalar (← valueOf x)
    | cell => return cell
  | argument => return .scalar (← interpreter.eval argument)

/-- Calls a function of the program. -/
def callFunction (interpreter : Interpreter) (name : String) (arguments : List Expr) :
    Action Value := do
  match (← get).program.functions.find? fun f => f.name == name with
  | none => complain ("function " ++ name ++ " never defined")
  | some function =>
    let cells ← arguments.mapM (argumentCell interpreter)
    let own := (← get).nextArray
    let rest := function.parameters.drop cells.length
    let locals := (rest.zipIdx own).map fun (x, id) => (x, Cell.open id)
    modify fun s =>
      { s with
        nextArray := own + rest.length
        frames := (function.parameters.zip cells ++ locals) :: s.frames }
    let leave : Action Unit := modify fun s =>
      { s with
        frames := s.frames.drop 1
        arrays := s.arrays.filter fun a => a.1 < own || own + rest.length ≤ a.1 }
    try
      interpreter.exec function.body
      leave
      return .unset
    catch stop =>
      leave
      match stop with
      | .return value => return value
      | stop => throw stop

/-- Calls a function that every program has. -/
def callBuiltin (interpreter : Interpreter) (name : String) (arguments : List Expr) :
    Action Value := do
  match name, arguments with
  | "length", [] => return .ofNat (← get).record.length
  | "length", [.name x] =>
    match ← cellOf x with
    | .array id => return .ofNat (← elements id).length
    | _ => return .ofNat (← toText (← valueOf x)).length
  | "length", a :: _ => return .ofNat (← toText (← interpreter.eval a)).length
  | "split", text :: .name array :: rest =>
    let text ← toText (← interpreter.eval text)
    let separator ←
      match rest with
      | [] => do separatorOf (← globalText "FS")
      | .regex expression :: _ => pure (.regex expression)
      | expr :: _ => do separatorOf (← toText (← interpreter.eval expr))
    return .ofNat (← splitInto (← arrayOf array) separator text)
  | "match", [text, pattern] =>
    let text ← toText (← interpreter.eval text)
    let regex ← patternOf interpreter pattern
    let (start, length) : Float × Float :=
      match Regex.search? matching regex text with
      | some (start, ending) =>
        (Float.ofNat (start.index + 1), Float.ofNat (ending.index - start.index))
      | none => (0.0, -1.0)
    setGlobal "RSTART" (.number start)
    setGlobal "RLENGTH" (.number length)
    return .number start
  | _, pattern :: replacement :: rest =>
    if name == "sub" || name == "gsub" then
      let regex ← patternOf interpreter pattern
      let replacement ← toText (← interpreter.eval replacement)
      let expr := rest.headD (.field (.number 0.0))
      if !isTarget expr then
        let text ← toText (← interpreter.eval expr)
        return .ofNat (substituted (name == "gsub") regex replacement text).2
      let target ← targetOf interpreter expr
      let text ← toText (← target.value)
      let (text, count) := substituted (name == "gsub") regex replacement text
      if count > 0 then target.assign (.text text)
      return .ofNat count
    callOnValues name (← arguments.mapM interpreter.eval)
  | name, arguments => callOnValues name (← arguments.mapM interpreter.eval)

/-- The value of an expression. -/
def evalWith (interpreter : Interpreter) (expr : Expr) : Action Value := do
  let eval := interpreter.eval
  match expr with
  | .number x => return .number x
  | .text s => return .text s
  | .regex expression =>
    return .ofBool (expression.isFoundIn matching (← get).record)
  | .name x => valueOf x
  | .field index => fieldAt (← fieldNumber (← eval index).toNumber)
  | .element array indices =>
    let key ← keyOfIndices interpreter indices
    elementOf (← arrayOf array) key
  | .assign none target value =>
    let value ← eval value
    (← targetOf interpreter target).assign value
    return value
  | .assign (some operator) target value =>
    let amount := (← eval value).toNumber
    let target ← targetOf interpreter target
    let value := Value.number (operator.apply (← target.value).toNumber amount)
    target.assign value
    return value
  | .choose condition a b => if (← eval condition).isTrue then eval a else eval b
  | .both a b =>
    if (← eval a).isTrue then return .ofBool (← eval b).isTrue else return .ofBool false
  | .either a b =>
    if (← eval a).isTrue then return .ofBool true else return .ofBool (← eval b).isTrue
  | .not a => return .ofBool !(← eval a).isTrue
  | .negate a => return .number (-(← eval a).toNumber)
  | .plus a => return .number (← eval a).toNumber
  | .arithmetic operator a b =>
    let x := (← eval a).toNumber
    let y := (← eval b).toNumber
    return .number (operator.apply x y)
  | .compare comparison a b =>
    let a ← eval a
    let b ← eval b
    return .ofBool (← compareValues comparison a b)
  | .join a b =>
    let a ← toText (← eval a)
    return .text (a ++ (← toText (← eval b)))
  | .match negated a b =>
    let text ← toText (← eval a)
    let regex ← patternOf interpreter b
    return .ofBool (regex.isFoundIn matching text != negated)
  | .member indices array =>
    let key ← keyOfIndices interpreter indices
    let all ← elements (← arrayOf array)
    return .ofBool (all.any fun e => e.1 == key)
  | .step isBefore operator target =>
    let target ← targetOf interpreter target
    let old := (← target.value).toNumber
    let value := operator.apply old 1.0
    target.assign (.number value)
    return .number (if isBefore then value else old)
  | .call function arguments => callFunction interpreter function arguments
  | .builtin function arguments => callBuiltin interpreter function arguments
  | .getline source from? target => getline interpreter source from? target
  | .group members =>
    match members with
    | [a] => eval a
    | members => return .text (← keyOfIndices interpreter members)

/-! ## Commands -/

/-- Prints a text to where it goes. -/
def printTo (interpreter : Interpreter) (target : Option (Direction × Expr)) (text : String) :
    Action Unit := do
  match target with
  | none => printText text
  | some (direction, expr) => emit direction (← toText (← interpreter.eval expr)) text

/-- Runs the body of a loop; false if the loop ends. -/
def runBody (body : Action Unit) : Action Bool := do
  try
    body
    return true
  catch stop =>
    match stop with
    | .break => return false
    | .continue => return true
    | stop => throw stop

/-- Runs a loop as long as its condition holds. -/
def loop (condition : Action Bool) (body step : Action Unit) : Nat → Action Unit
  | 0 => throw .killed
  | n + 1 => do
    if ← condition then
      if ← runBody body then
        step
        loop condition body step n

/-- Runs a command. -/
def execWith (interpreter : Interpreter) (statement : Statement) : Action Unit := do
  let eval := interpreter.eval
  let exec := interpreter.exec
  match statement with
  | .block statements => statements.forM exec
  | .expression expr =>
    let _ ← eval expr
  | .print arguments target =>
    let texts ←
      match arguments with
      | [] => do pure [(← get).record]
      | arguments => arguments.mapM fun a => do textBy "OFMT" (← eval a)
    let text := (← globalText "OFS").intercalate texts ++ (← globalText "ORS")
    printTo interpreter target text
  | .printf arguments target =>
    match ← arguments.mapM eval with
    | [] => return
    | form :: values => formatValues "printf" (← toText form) values (printTo interpreter target)
  | .ifElse condition whenTrue whenFalse =>
    if (← eval condition).isTrue then exec whenTrue
    else
      match whenFalse with
      | some statement => exec statement
      | none => return
  | .while condition body =>
    loop (do return (← eval condition).isTrue) (exec body) (return) rounds
  | .doWhile body condition =>
    if ← runBody (exec body) then
      loop (do return (← eval condition).isTrue) (exec body) (return) rounds
  | .for start condition step body =>
    match start with
    | some statement => exec statement
    | none => pure ()
    let goesOn : Action Bool :=
      match condition with
      | some expr => do return (← eval expr).isTrue
      | none => return true
    let step : Action Unit :=
      match step with
      | some statement => exec statement
      | none => return
    loop goesOn (exec body) step rounds
  | .forIn x array body =>
    let id ← arrayOf array
    visit x body (← keysOf id)
  | .next => throw .next
  | .nextFile => throw .nextFile
  | .exit code =>
    match code with
    | some expr =>
      let code := (wholePart (← eval expr).toNumber % 256).toNat
      modify fun s => { s with code }
    | none => pure ()
    throw .exit
  | .return value =>
    match value with
    | some expr => throw (.return (← eval expr))
    | none => throw (.return .unset)
  | .break => throw .break
  | .continue => throw .continue
  | .delete array indices =>
    let id ← arrayOf array
    match indices with
    | [] => setElements id []
    | indices =>
      let key ← keyOfIndices interpreter indices
      setElements id ((← elements id).filter fun e => e.1 != key)
where
  /-- Runs the body of a loop for each of some keys. -/
  visit (x : String) (body : Statement) : List String → Action Unit
    | [] => return
    | key :: keys => do
      setVariable x (.text key)
      if ← runBody (interpreter.exec body) then visit x body keys

/-- What evaluates expressions and commands with at most as many levels inside each other. -/
def interpreter : Nat → Interpreter
  | 0 => ⟨fun _ => throw .killed, fun _ => throw .killed⟩
  | n + 1 =>
    ⟨fun expr => evalWith (interpreter n) expr, fun statement => execWith (interpreter n) statement⟩

/-! ## Programs -/

/-- True if a rule is applied to the record; `n` is the number of the rule. -/
def applies (interpreter : Interpreter) (n : Nat) : Pattern → Action Bool
  | .begin => return false
  | .ending => return false
  | .always => return true
  | .when condition => do return (← interpreter.eval condition).isTrue
  | .range first last => do
    if !(← get).ranges.contains n then
      if !(← interpreter.eval first).isTrue then return false
      modify fun s => { s with ranges := n :: s.ranges }
    if (← interpreter.eval last).isTrue then
      modify fun s => { s with ranges := s.ranges.filter (· != n) }
    return true

/-- Carries out the action of a rule. -/
def act (interpreter : Interpreter) (rule : Rule) : Action Unit :=
  interpreter.exec (rule.action.getD (.print [] none))

/-- Applies rules to the record. -/
def applyRules (interpreter : Interpreter) (rules : List (Rule × Nat)) : Action Unit := do
  for (rule, n) in rules do
    if ← applies interpreter n rule.pattern then act interpreter rule

/-- Applies the rules to all records that are left. -/
def scan (interpreter : Interpreter) (rules : List (Rule × Nat)) : Nat → Action Unit
  | 0 => throw .killed
  | n + 1 => do
    match ← takeMain with
    | none => return
    | some record =>
      countRecord
      setRecord (.input record)
      try applyRules interpreter rules
      catch stop =>
        match stop with
        | .next => pure ()
        | .nextFile => modify fun s => { s with left := none }
        | stop => throw stop
      scan interpreter rules n

/-- Does something that may end the program; true if it has not done so. -/
def untilExit (action : Action Unit) : Action Bool := do
  try
    action
    return true
  catch stop =>
    match stop with
    | .exit => return false
    | .next => return true
    | .nextFile => return true
    | .break => return true
    | .continue => return true
    | .return _ => return true
    | stop => throw stop

/-- Closes what is open, then writes what is left. -/
def finish : Action Unit := do
  let outputs := (← get).outputs.reverse
  for output in outputs do
    let _ ← closeOutput output
  flush

/-- Runs the program: the rules for the start, those for the records, those for the end. -/
def runProgram (interpreter : Interpreter) : Action Unit := do
  let rules := (← get).program.rules.zipIdx
  let isBegin (rule : Rule) : Bool := match rule.pattern with
    | .begin => true
    | _ => false
  let isEnding (rule : Rule) : Bool := match rule.pattern with
    | .ending => true
    | _ => false
  let start := rules.filter fun r => isBegin r.1
  let last := rules.filter fun r => isEnding r.1
  let between := rules.filter fun r => !isBegin r.1 && !isEnding r.1
  let goesOn ← untilExit (start.forM fun r => act interpreter r.1)
  if goesOn && !(between.isEmpty && last.isEmpty) then
    let _ ← untilExit (scan interpreter between rounds)
  let _ ← untilExit (last.forM fun r => act interpreter r.1)
  finish

end PointerTagging.Host.Awk
