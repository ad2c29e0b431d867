import PointerTagging.Host.Scripting.Misuse
/-!
# Running scripts

Expressions and statements are carried out one level at a time: each way of doing so is given an
interpreter that has one level less to go down for the parts of each.
-/

namespace PointerTagging.Host.Scripting

open Text

/-- How often a loop may be run. Every loop that ends is run fewer times. -/
def rounds : Nat := 1000000

/-! ## Patterns -/

/-- The pattern that an expression is. -/
def searchOf (run : Interpreter) (pattern : Expr) (flags : String) : Action Search := do
  let e :=
    match pattern with
    | .joined [e] => e
    | e => e
  match ← run.one e with
  | .pattern source more => searchFor source (flags ++ more)
  | value => searchFor value.toText flags

/-- The expression that a pattern is searched in. -/
def searched (target : Option Expr) : Expr := target.getD (.named .scalar "_")

/-- Keeps what has been found. -/
def keepFound (search : Search) (text : String) (start ending : Regex.Place) : Action Found := do
  let found := foundBy search text start ending
  modify fun s => { s with found := some found }
  return found

/-- Searches a text for a pattern. -/
def findPattern (run : Interpreter) (want : Want) (target : Option Expr) (pattern : Expr)
    (flags : String) : Action (List Value) := do
  let cell ← run.cell (searched target)
  let text := (← valueOf cell).toText
  let search ← searchOf run pattern flags
  if !flags.toList.contains 'g' then
    match Regex.search? search.matching search.regex text with
    | none => return if want == .many then [] else [.ofBool false]
    | some (start, ending) =>
      let found ← keepFound search text start ending
      let groups := groupValues search found
      return if want == .many && !groups.isEmpty then groups else [.whole 1]
  else
    let positions := (← get).positions
    let others := positions.filter fun p => p.1 != cell
    let first :=
      match positions.find? fun p => p.1 == cell with
      | some (_, old, place) => if old == text then place else 0
      | none => 0
    let start := (Regex.Place.start text).forward first
    if want == .many then
      let all := allMatches search (text.length + 2) none start
      modify fun s => { s with positions := others }
      match all.getLast? with
      | some (start, ending) =>
        let _ ← keepFound search text start ending
      | none => pure ()
      return all.flatMap fun (start, ending) =>
        let found := foundBy search text start ending
        match groupValues search found with
        | [] => [optionalText (found.group? 0)]
        | groups => groups
    else
      let barred := if first > 0 then some first else none
      match nextMatch search (text.length + 2) barred start with
      | none =>
        modify fun s => { s with positions := others }
        return [.ofBool false]
      | some (start, ending) =>
        let _ ← keepFound search text start ending
        modify fun s => { s with positions := (cell, text, ending.index) :: others }
        return [.whole 1]

/-- Replaces what a pattern finds. -/
def substitute (run : Interpreter) (target : Option Expr) (pattern replacement : Expr)
    (flags : String) : Action Value := do
  let cell ← run.cell (searched target)
  let text := (← valueOf cell).toText
  let search ← searchOf run pattern flags
  let all :=
    if flags.toList.contains 'g' then allMatches search (text.length + 2) none (.start text)
    else (Regex.search? search.matching search.regex text).toList
  let keeps := flags.toList.contains 'r'
  if all.isEmpty then return if keeps then .text text else .ofBool false
  let texts ← all.mapM fun (start, ending) => do
    let _ ← keepFound search text start ending
    return (← run.one replacement).toText
  let parts := Regex.gaps text 0 all
  let result := parts.headD "" ++
    String.join ((texts.zip (parts.drop 1)).map fun (text, part) => text ++ part)
  if keeps then return .text result
  setValue cell (.text result)
  return .ofNat all.length

/-- Replaces characters of a scalar. -/
def transliterate (run : Interpreter) (target : Option Expr) (source replacement : List Char)
    (flags : String) : Action Value := do
  let cell ← run.cell (searched target)
  let text := (← valueOf cell).toText
  let (result, count) := transliterated source replacement flags text
  if flags.toList.contains 'r' then return .text result
  if result != text then setValue cell (.text result)
  return .ofNat count

/-! ## Lists -/

/-- Runs an action for scalars that a name stands for one after the other. -/
def overCells {α : Type} (name : String) (cells : List Nat) (action : Nat → Action α) :
    Action (List α) :=
  enclosed do
    let key := keyFor .scalar name
    let old := ((← get).globals.find? fun v => v.1 == key).map (·.2)
    modify fun s => { s with saved := .binding key old :: s.saved }
    cells.mapM fun cell => do
      setGlobal .scalar name cell
      action cell

/-- The first scalar for which a test is passed or not passed. -/
def findCell (test : Action Bool) : List Nat → Action (Option Nat)
  | [] => return none
  | cell :: cells => do
    setGlobal .scalar "_" cell
    if ← test then return some cell
    findCell test cells

/-- Runs a block for the members of a list. -/
def throughWith (run : Interpreter) (want : Want) (name : String) (body : Block)
    (list : List Expr) : Action (List Value) := do
  let cells := (← list.mapM run.cells).flatten
  let test : Action Bool := do
    return (((← enclosed (run.block .one body)).getLast?).getD .missing).isTrue
  let counted (values : List Value) : List Value :=
    if want == .many then values else [.ofNat values.length]
  let search (test : Action Bool) : Action (Option Nat) := do
    return ((← overCells "_" [0] fun _ => findCell test cells).head?).bind id
  match name with
  | "map" =>
    let values ← overCells "_" cells fun _ => enclosed (run.block .many body)
    return counted values.flatten
  | "grep" =>
    let kept ← overCells "_" cells fun cell => do
      if ← test then return [← valueOf cell] else return []
    return counted kept.flatten
  | "first" =>
    match ← search test with
    | some cell => return [← valueOf cell]
    | none => return [.missing]
  | "any" => return [.ofBool (← search test).isSome]
  | "none" => return [.ofBool (← search test).isNone]
  | "all" => return [.ofBool (← search (do return !(← test))).isNone]
  | "notall" => return [.ofBool (← search (do return !(← test))).isSome]
  | "reduce" =>
    match cells with
    | [] => return [.missing]
    | first :: rest =>
      let sum ← newCell (← valueOf first)
      let _ ← overCells "a" [sum] fun _ =>
        overCells "b" rest fun _ => do
          let values ← enclosed (run.block .one body)
          setValue sum (values.getLast?.getD .missing)
      return [← valueOf sum]
  | _ => return []

/-- Two lists in order as one in order. -/
def mergeBy (isBefore : Value → Value → Action Bool) : Nat → List Value → List Value →
    Action (List Value)
  | 0, as, bs => return as ++ bs
  | _, [], bs => return bs
  | _, as, [] => return as
  | n + 1, a :: as, b :: bs => do
    if ← isBefore b a then return b :: (← mergeBy isBefore n (a :: as) bs)
    else return a :: (← mergeBy isBefore n as (b :: bs))

/-- A list in order. -/
def sortBy (isBefore : Value → Value → Action Bool) : Nat → List Value → Action (List Value)
  | 0, values => return values
  | n + 1, values => do
    if values.length ≤ 1 then return values
    let half := values.length / 2
    let front ← sortBy isBefore n (values.take half)
    let back ← sortBy isBefore n (values.drop half)
    mergeBy isBefore values.length front back

/-- A list in the order of texts, or in one that a function gives. -/
def sortedWith (run : Interpreter) (order : Option Expr) (values : List Value) :
    Action (List Value) := do
  match order with
  | none => return values.mergeSort isNotBehind
  | some order =>
    let a ← newCell .missing
    let b ← newCell .missing
    let compare : Action Value ← do
      match order with
      | .newCode body =>
        pure (do return ((← enclosed (run.block .one body)).getLast?).getD .missing)
      | order =>
        let id ← codeOf run order
        pure (do return ((← callOn run .one id []).getLast?).getD .missing)
    let isBefore (x y : Value) : Action Bool := do
      setValue a x
      setValue b y
      return (← compare).toInt < 0
    let sorted ← overCells "a" [a] fun _ => overCells "b" [b] fun _ =>
      sortBy isBefore (values.length + 1) values
    return sorted.flatten.flatten

/-- The values from one to another one. -/
def rangeOf (a b : Value) : List Value :=
  let isWord (value : Value) : Bool :=
    match value with
    | .text s => !value.looksNumeric && !s.isEmpty || s.length > 1 && s.startsWith "0"
    | _ => false
  if isWord a then
    let last := b.toText
    let rec go : Nat → Value → List Value
      | 0, _ => []
      | n + 1, value =>
        let text := value.toText
        if text.length > last.length then []
        else if text == last then [value]
        else value :: go n value.next
    go rounds a
  else
    let low := a.toInt
    (List.range (b.toInt + 1 - low).toNat).map fun (i : Nat) => .whole (low + i)

/-! ## Expressions -/

/-- The value of an operator. -/
def operate (operator : Operator) (a b : Value) : Action Value := do
  match operator.apply a b with
  | .ok value => return value
  | .error failure => fail failure.text

/-- True if a choice leaves the second operand out. -/
def Choice.isMade (choice : Choice) (value : Value) : Bool :=
  match choice with
  | .both => !value.isTrue
  | .either => value.isTrue
  | .otherwise => value.isDefined

/-- Prints values. -/
def printAll (run : Interpreter) (printing : Printing) (handle : Option Expr)
    (items : List Expr) : Action Value := do
  let values ← allOf run items
  let name ←
    match handle with
    | some e => do streamName (← run.one e)
    | none => do pure (← get).selected
  checkValues run (if printing == .formatted then "printf" else
    if printing == .line then "say" else "print") items values
  let text ←
    match printing with
    | .formatted =>
      let form := (values.headD .missing).toText
      let rest := values.drop 1
      pure (String.ofList (formatted (form.length + 1) form.toList rest rest))
    | printing => do
      let between := (← globalValue ",").toText
      let ending := (← globalValue "\\").toText
      let text := between.intercalate (values.map Value.toText)
      pure (text ++ (if printing == .line then "\n" else "") ++ ending)
  return .ofBool (← emit name text)

/-- A reference to what an expression leads to. -/
def referenceTo (run : Interpreter) (e : Expr) : Action Value := do
  match e with
  | .named .array _ => return .reference .array (← run.array e)
  | .target .array _ => return .reference .array (← run.array e)
  | .declared _ [(.array, _)] _ => return .reference .array (← run.array e)
  | .named .hash _ => return .reference .hash (← run.hash e)
  | .target .hash _ => return .reference .hash (← run.hash e)
  | .declared _ [(.hash, _)] _ => return .reference .hash (← run.hash e)
  | .callOn code => return .reference .code (← codeOf run code)
  | e => return .reference .scalar (← run.cell e)

/-- Has a method of a stream do its work. -/
def callMethod (run : Interpreter) (receiver : Expr) (name : String) (arguments : List Expr) :
    Action (List Value) := do
  let value ← run.one receiver
  match value, name with
  | .missing, _ => fail ("Can't call method \"" ++ name ++ "\" on an undefined value")
  | .reference .., _ => fail ("Can't call method \"" ++ name ++ "\" on unblessed reference")
  | _, "flush" =>
    flush
    return [.whole 1]
  | _, "autoflush" =>
    setGlobalValue "|" (← if arguments.isEmpty then pure (.whole 1) else valueAt run arguments 0)
    flush
    return [.whole 1]
  | _, "print" => return [← printAll run .plain (some receiver) arguments]
  | _, "say" => return [← printAll run .line (some receiver) arguments]
  | _, "printf" => return [← printAll run .formatted (some receiver) arguments]
  | _, "close" => return [.ofBool (← closeStream (← streamName value))]
  | _, "getline" => return [← readFrom (← streamName value)]
  | _, "binmode" => return [.whole 1]
  | value, name =>
    let text := value.toText
    fail ("Can't locate object method \"" ++ name ++ "\" via package \"" ++ text ++
      "\" (perhaps you forgot to load \"" ++ text ++ "\"?)")

/-- The texts of the parts of a text. -/
def joinedText (run : Interpreter) (parts : List Expr) : Action String := do
  let values ← parts.mapM run.one
  checkParts run parts values
  return String.join (values.map Value.toText)

/-- Assigns what an expression gives; returned is what has been assigned, or how much. -/
def assigned (run : Interpreter) (target value : Expr) : Action Value := do
  if takesList target then
    let values ← run.all value
    assignAll run target values
    return .ofNat values.length
  else
    let value ← run.one value
    assignOne run target value
    return value

/-- The value with one more or one less. -/
def stepped (isUp : Bool) (value : Value) : Value :=
  if isUp then value.next
  else arithmetic (· - ·) (· - ·) value.toNumber (.whole 1)

/-- True from the time when one test is passed to the time when another one is. A number stands for
a line of the input. -/
def isBetween (run : Interpreter) (n : Nat) (a b : Expr) : Action Bool := do
  let isReached (e : Expr) : Action Bool := do
    match e with
    | .whole k => return (← globalValue ".").toInt == k
    | e => return (← run.one e).isTrue
  unless (← get).ranges.contains n do
    unless ← isReached a do return false
    modify fun s => { s with ranges := n :: s.ranges }
  if ← isReached b then modify fun s => { s with ranges := s.ranges.filter (· != n) }
  return true

/-- The list that an expression gives which calls or searches for something. -/
def resultsOf (run : Interpreter) (want : Want) (e : Expr) : Action (List Value) := do
  match e with
  | .call code arguments =>
    let id ← codeOf run code
    callOn run want id (← arguments.mapM run.cells).flatten
  | .callOn code =>
    let id ← codeOf run code
    callOn run want id (← cellsOf (← objectOf .array "_")).toList
  | .function name arguments => callNamed run want (bareName name) arguments
  | .method receiver name arguments => callMethod run receiver name arguments
  | .through name body list => throughWith run want name body list
  | .block body => enclosed (run.block want body)
  | .guarded body => guarded (run.block want body)
  | .found target pattern flags => findPattern run want target pattern flags
  | _ => return []

/-- The single value of an expression. -/
def oneWith (run : Interpreter) (e : Expr) : Action Value := do
  match e with
  | .whole n => return .whole n
  | .real x => return .real x
  | .text s => return .text s
  | .joined parts => return .text (← joinedText run parts)
  | .spread list =>
    let separator := (← globalValue "\"").toText
    return .text (separator.intercalate ((← run.all list).map Value.toText))
  | .named .scalar name => scalarNamed name
  | .named .array _ => return .ofNat (← cellsOf (← run.array e)).size
  | .named .hash _ => return .ofNat (← entriesOf (← run.hash e)).length
  | .named .code _ => return .reference .code (← codeOf run e)
  | .declared _ [(.array, _)] _ =>
    let _ ← run.array e
    return .whole 0
  | .declared _ [(.hash, _)] _ =>
    let _ ← run.hash e
    return .whole 0
  | .declared isLexical targets _ =>
    for (kind, name) in targets do
      let _ ← declare isLexical kind name
    return .missing
  | .localized target =>
    match target with
    | .list targets => targets.forM (localize run)
    | target => localize run target
    return .missing
  | .target .scalar _ => do valueOf (← run.cell e)
  | .target .array _ => return .ofNat (← cellsOf (← run.array e)).size
  | .target .hash _ => return .ofNat (← entriesOf (← run.hash e)).length
  | .target .code _ => return .reference .code (← codeOf run e)
  | .item array index => itemValue run array index
  | .entry hash key => entryValue run hash key
  | .lastIndex array => return .whole ((← cellsOf (← run.array array)).size - 1)
  | .sorted .. => return .ofNat (← run.all e).length
  | .operation operator a b =>
    let x ← run.one a
    let y ← run.one b
    checkOperands run operator a b x y
    operate operator x y
  | .choice choice a b =>
    let x ← run.one a
    if choice.isMade x then return x else run.one b
  | .signed sign a => return sign.apply (← run.one a)
  | .step isBefore isUp target =>
    let cell ← run.cell target
    let old ← valueOf cell
    let new := stepped isUp old
    setValue cell new
    if isBefore then return new
    return if old.isDefined then old else if isUp then .whole 0 else .missing
  | .condition test a b => do if (← run.one test).isTrue then run.one a else run.one b
  | .assign target value => assigned run target value
  | .update operator target value =>
    let x ← run.one value
    let cell ← run.cell target
    let old ← valueOf cell
    let isOpen := [.add, .subtract, .concatenate, .bitOr, .bitXor].contains operator
    let first := if isOpen && !old.isDefined then .whole 0 else old
    checkOperands run operator target value first x
    let new ← operate operator old x
    setValue cell new
    return new
  | .updateIf choice target value =>
    let cell ← run.cell target
    let old ← valueOf cell
    if choice.isMade old then return old
    let new ← run.one value
    setValue cell new
    return new
  | .list items =>
    match items.getLast? with
    | none => return .missing
    | some last =>
      for item in items.dropLast do
        let _ ← run.one item
      run.one last
  | .newArray items =>
    let id ← newOf .array
    setValues id (← allOf run items)
    return .reference .array id
  | .newHash items =>
    let id ← newOf .hash
    setPairs id (← allOf run items)
    return .reference .hash id
  | .reference (.list items) =>
    match items.getLast? with
    | some last => referenceTo run last
    | none => return .missing
  | .reference target => referenceTo run target
  | .newCode body => return .reference .code (← newObject (.code (some (← get).scope) body))
  | .notFound target pattern flags =>
    let found ← findPattern run .one target pattern flags
    return .ofBool !(found.any Value.isTrue)
  | .substitute target pattern replacement flags =>
    substitute run target pattern replacement flags
  | .transliterate target source replacement flags =>
    transliterate run target source replacement flags
  | .pattern pattern flags =>
    let inside :=
      match pattern with
      | .joined [e] => e
      | e => e
    match ← run.one inside with
    | .pattern source more => return .pattern source (flags ++ more)
    | value => return .pattern value.toText flags
  | .readLine handle => do readFrom (← streamName (← run.one handle))
  | .command text =>
    let (output, status) ← outputOf [(← run.one text).toText]
    setStatus status
    return .text output
  | .fileTest letter file => do fileAnswer letter (← run.one file).toText
  | .range n a b => return .ofBool (← isBetween run n a b)
  | .print printing handle items => printAll run printing handle items
  | e =>
    let values ←
      match e with
      | .someItems .. => someValues run e
      | .someEntries .. => someValues run e
      | .someOf .. => someValues run e
      | e => resultsOf run .one e
    return values.getLast?.getD .missing

/-- The list of values of an expression. -/
def allWith (run : Interpreter) (e : Expr) : Action (List Value) := do
  match e with
  | .named .array _ => do valuesOf (← run.array e)
  | .target .array _ => do valuesOf (← run.array e)
  | .named .hash _ => do pairsOf (← run.hash e)
  | .target .hash _ => do pairsOf (← run.hash e)
  | .list items => allOf run items
  | .someItems .. => someValues run e
  | .someEntries .. => someValues run e
  | .someOf .. => someValues run e
  | .sorted order list => do sortedWith run order (← allOf run list)
  | .condition test a b => do if (← run.one test).isTrue then run.all a else run.all b
  | .choice choice a b =>
    let x ← run.one a
    if choice.isMade x then return [x] else run.all b
  | .assign target _ =>
    let value ← run.one e
    if takesList target then run.all (readBack target) else return [value]
  | .operation .duplicate (.list items) b =>
    let values ← allOf run items
    let n := (← run.one b).toInt.toNat
    return (List.replicate n values).flatten
  | .range _ a b =>
    let x ← run.one a
    return rangeOf x (← run.one b)
  | .readLine handle => do readAllFrom (← streamName (← run.one handle)) rounds
  | .command _ =>
    let text := (← run.one e).toText
    let rec lines : Nat → String → List Value
      | 0, _ => []
      | n + 1, text =>
        if text.isEmpty then []
        else
          let (line, rest) := cutLine (some "\n") text
          .text line :: lines n rest
    return lines (text.length + 1) text
  | .reference (.list items) => items.mapM (referenceTo run)
  | .call .. => resultsOf run .many e
  | .callOn .. => resultsOf run .many e
  | .function .. => resultsOf run .many e
  | .method .. => resultsOf run .many e
  | .through .. => resultsOf run .many e
  | .block .. => resultsOf run .many e
  | .guarded .. => resultsOf run .many e
  | .found .. => resultsOf run .many e
  | e => return [← run.one e]

/-! ## Statements -/

/-- Runs the body of a loop with a label; false if the loop ends. -/
def runBody (label : String) (body : Action Unit) : Nat → Action Bool
  | 0 => return false
  | n + 1 => do
    let isMeant (l : String) : Bool := l.isEmpty || l == label
    let stop? ← tryCatch (do body; return (none : Option Stop)) fun stop => return (some stop)
    match stop? with
    | none => return true
    | some (.next l) => if isMeant l then return true else throw (.next l)
    | some (.last l) => if isMeant l then return false else throw (.last l)
    | some (.redo l) => if isMeant l then runBody label body n else throw (.redo l)
    | some stop => throw stop

/-- Runs a loop as long as its test is passed. -/
def loopWhile (label : String) (test : Action Bool) (body step : Action Unit) : Nat → Action Unit
  | 0 => throw (.ended (.killed 9))
  | n + 1 => do
    if ← test then
      if ← runBody label body rounds then
        step
        loopWhile label test body step n

/-- Runs the body of a loop for scalars one after the other. -/
def loopOver (label : String) (bindTo : Nat → Action Unit) (body : Action Unit) :
    List Nat → Action Unit
  | [] => return
  | cell :: cells => do
    bindTo cell
    if ← runBody label body rounds then loopOver label bindTo body cells

/-- Runs the block of the first test that is passed, or the last one. -/
def choose (run : Interpreter) (want : Want) (other : Block) :
    List (Expr × Block) → Action (List Value)
  | [] => enclosed (run.block want other)
  | (test, body) :: rest => do
    if (← run.one test).isTrue then enclosed (run.block want body)
    else choose run want other rest

/-- Carries out a statement. -/
def execute (run : Interpreter) (want : Want) (statement : Statement) : Action (List Value) := do
  let reach (line : Nat) : Action Unit := modify fun s => { s with line }
  let isPassed (test : Option Expr) : Action Bool :=
    match test with
    | some e => do return (← run.one e).isTrue
    | none => return true
  let stepOf (step : Option Expr) : Action Unit :=
    match step with
    | some e => do
      let _ ← run.one e
    | none => return
  let bodyOf (body : Block) : Action Unit := do
    let _ ← enclosed (run.block .nothing body)
  match statement with
  | .expression line e =>
    reach line
    if want == .many then run.all e else return [← run.one e]
  | .choose line branches other =>
    reach line
    enclosed (choose run want other branches)
  | .loop line label test body step =>
    reach line
    enclosed (loopWhile label (isPassed test) (bodyOf body) (stepOf step) rounds)
    return []
  | .again line body test =>
    bodyOf body
    loopWhile "" (do reach line; isPassed (some test)) (bodyOf body) (return) rounds
    return []
  | .each line label isLexical name list body =>
    reach line
    let cells ← run.cells list
    let key := keyFor .scalar name
    let isKnown := (← get).scope.any fun v => v.1 == key
    enclosed do
      if isLexical || isKnown then
        let scope := (← get).scope
        loopOver label (fun cell => modify fun s => { s with scope := (key, cell) :: scope })
          (bodyOf body) cells
      else
        let old := ((← get).globals.find? fun v => v.1 == key).map (·.2)
        modify fun s => { s with saved := .binding key old :: s.saved }
        loopOver label (setGlobal .scalar name) (bodyOf body) cells
    return []
  | .block label body =>
    let _ ← runBody label (bodyOf body) rounds
    return []
  | .function name body =>
    let scope := (← get).scope
    setGlobal .code name (← newObject (.code (some scope) body))
    return []

/-- Runs the statements of a block; the value is that of the last one. -/
def blockWith (run : Interpreter) (want : Want) : Block → Action (List Value)
  | [] => return []
  | [last] => execute run want last
  | first :: rest => do
    let _ ← execute run .nothing first
    blockWith run want rest

/-- What evaluates expressions and runs blocks with at most as many levels inside each other. -/
def interpreter : Nat → Interpreter
  | 0 =>
    { one := fun _ => throw (.ended (.killed 11))
      all := fun _ => throw (.ended (.killed 11))
      cell := fun _ => throw (.ended (.killed 11))
      cells := fun _ => throw (.ended (.killed 11))
      array := fun _ => throw (.ended (.killed 11))
      hash := fun _ => throw (.ended (.killed 11))
      block := fun _ _ => throw (.ended (.killed 11)) }
  | n + 1 =>
    { one := fun e => oneWith (interpreter n) e
      all := fun e => allWith (interpreter n) e
      cell := fun e => cellWith (interpreter n) e
      cells := fun e => cellsWith (interpreter n) e
      array := fun e => arrayWith (interpreter n) e
      hash := fun e => hashWith (interpreter n) e
      block := fun want body => blockWith (interpreter n) want body }

end PointerTagging.Host.Scripting
