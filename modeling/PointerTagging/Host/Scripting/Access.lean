import PointerTagging.Host.Scripting.Search
/-!
# Places of values

How expressions lead to scalars, arrays and tables, which are made where there are none yet, and how
values are assigned to them. The parts of an expression are evaluated by an interpreter that has one
level less to go down.
-/

namespace PointerTagging.Host.Scripting

/-- What evaluates the parts of expressions and statements. -/
structure Interpreter where
  /-- The single value of an expression. -/
  one : Expr → Action Value
  /-- The list of values of an expression. -/
  all : Expr → Action (List Value)
  /-- The scalar that an expression leads to. -/
  cell : Expr → Action Nat
  /-- The scalars that an expression leads to. -/
  cells : Expr → Action (List Nat)
  array : Expr → Action Nat
  hash : Expr → Action Nat
  /-- Runs a block without a scope of its own; its value is that of its last statement. -/
  block : Want → Block → Action (List Value)

/-- The members of a list that expressions give. -/
def allOf (run : Interpreter) (items : List Expr) : Action (List Value) := do
  return (← items.mapM run.all).flatten

/-- The value of one expression of a list, by its number. -/
def valueAt (run : Interpreter) (items : List Expr) (n : Nat) : Action Value :=
  match items[n]? with
  | some e => run.one e
  | none => return .missing

/-! ## Special variables -/

/-- The value of a variable that is not kept in a scalar. -/
def specialValue? (name : String) : Action (Option Value) := do
  let isUsual := name.toList.head?.any isNameStart
  if isUsual then return none
  match name with
  | "$" => return some (.ofNat ((← get).world.processes.headD 1))
  | "!" =>
    match ← globalValue "!" with
    | .dual n s => return some (.dual n s)
    | value => return some (errorValue value.toInt.toNat)
  | "0" => return none
  | name =>
    match (← get).found with
    | some found => return found.special? name
    | none => return none

/-- The value of a scalar variable. -/
def scalarNamed (name : String) : Action Value := do
  match ← specialValue? name with
  | some value => return value
  | none =>
    match ← known? .scalar name with
    | some id => valueOf id
    | none => return .missing

/-- The table of the groups with names of the last match. -/
def namedGroups : Action Nat := do
  let id ← newOf .hash
  match (← get).found with
  | none => return id
  | some found =>
    for (name, n) in found.names do
      match found.group? n with
      | some s => setValue (← entryCell id name) (.text s)
      | none => pure ()
    return id

/-! ## References -/

/-- What is said of a value that is no reference. -/
def refuseReference {α : Type} (kind : Kind) (value : Value) : Action α := do
  let article := if kind == .array then "an " else "a "
  let word := article ++ (Value.kindWord kind)
  match value with
  | .missing => fail ("Can't use an undefined value as " ++ word ++ " reference")
  | .reference .. => fail ("Not " ++ word ++ " reference")
  | value =>
    let text := value.toText
    let shown := (text.take 32).toString ++ (if text.length > 32 then "\"..." else "\"")
    fail ("Can't use string (\"" ++ shown ++ ") as " ++ word ++
      " ref while \"strict refs\" in use")

/-- The object that the reference in a scalar leads to; one is made if there is no value. -/
def behindCell (kind : Kind) (cell : Nat) : Action Nat := do
  match ← valueOf cell with
  | .reference k id => if k == kind then return id else refuseReference kind (.reference k id)
  | .missing =>
    let id ← newOf kind
    setValue cell (.reference kind id)
    return id
  | value => refuseReference kind value

/-- New variables of the block, or those that are known everywhere. -/
def declare (isLexical : Bool) (kind : Kind) (name : String) : Action Nat := do
  if isLexical then
    let id ← newOf kind
    bind kind name id
    return id
  else
    let key := keyFor kind name
    modify fun s => { s with scope := s.scope.filter fun v => v.1 != key }
    objectOf kind name

/-- A new object for a name that is put back at the end of the block. -/
def localize (run : Interpreter) (target : Expr) : Action Unit := do
  let save (saved : Saved) : Action Unit := modify fun s => { s with saved := saved :: s.saved }
  match target with
  | .named kind name =>
    let key := keyFor kind name
    let old := ((← get).globals.find? fun v => v.1 == key).map (·.2)
    save (.binding key old)
    setGlobal kind name (← newOf kind)
  | .entry hash key =>
    let id ← run.hash hash
    let key := (← run.one key).toText
    let old := ((← entriesOf id).find? fun e => e.1 == key).map (·.2)
    save (.entry id key old)
    setEntry id key (← newCell .missing)
  | _ => return

/-- The variables of a declaration as expressions. -/
def declaredTargets (targets : List (Kind × String)) : List Expr :=
  targets.map fun (kind, name) =>
    if kind == .code then .function "undef" [] else .named kind name

/-! ## Places -/

/-- The number that an index means in an array of a size; none if it stands before the first. -/
def indexIn (size : Nat) (index : Int) : Option Nat :=
  if index ≥ 0 then some index.toNat
  else if size + index ≥ 0 then some (size + index).toNat else none

/-- The scalar of an item, which is made if it is not there. -/
def itemAt (run : Interpreter) (array index : Expr) : Action Nat := do
  let id ← run.array array
  let index := (← run.one index).toInt
  match indexIn (← cellsOf id).size index with
  | some i => itemCell id i
  | none =>
    fail ("Modification of non-creatable array value attempted, subscript " ++ toString index)

/-- The value of an item, which is not made. -/
def itemValue (run : Interpreter) (array index : Expr) : Action Value := do
  let id ← run.array array
  let cells ← cellsOf id
  match (indexIn cells.size (← run.one index).toInt).bind fun i => cells[i]? with
  | some cell => valueOf cell
  | none => return .missing

/-- The value of an entry, which is not made. -/
def entryValue (run : Interpreter) (hash key : Expr) : Action Value := do
  let id ← run.hash hash
  let key := (← run.one key).toText
  match (← entriesOf id).find? fun e => e.1 == key with
  | some (_, cell) => valueOf cell
  | none => return .missing

/-- The scalars of some items or entries. -/
def someCells (run : Interpreter) (e : Expr) : Action (List Nat) := do
  match e with
  | .someItems array indices =>
    let id ← run.array array
    (← run.all indices).mapM fun index => do
      match indexIn (← cellsOf id).size index.toInt with
      | some i => itemCell id i
      | none => newCell .missing
  | .someEntries hash keys =>
    let id ← run.hash hash
    (← run.all keys).mapM fun key => entryCell id key.toText
  | e => return [← run.cell e]

/-- The values of some items or entries, which are not made. -/
def someValues (run : Interpreter) (e : Expr) : Action (List Value) := do
  match e with
  | .someItems array indices =>
    let values := (← valuesOf (← run.array array)).toArray
    return (← run.all indices).map fun index =>
      ((indexIn values.size index.toInt).bind fun i => values[i]?).getD .missing
  | .someEntries hash keys =>
    let entries ← entriesOf (← run.hash hash)
    (← run.all keys).mapM fun key => do
      match entries.find? fun e => e.1 == key.toText with
      | some (_, cell) => valueOf cell
      | none => return .missing
  | .someOf list indices =>
    let values := (← run.all list).toArray
    return (← run.all indices).map fun index =>
      ((indexIn values.size index.toInt).bind fun i => values[i]?).getD .missing
  | e => return [← run.one e]

/-- The target of an assignment as it is read behind it. -/
def readBack : Expr → Expr
  | .declared _ targets _ => .list (declaredTargets targets)
  | .localized target => target
  | target => target

/-- The scalar that an expression leads to. -/
def cellWith (run : Interpreter) (e : Expr) : Action Nat := do
  match e with
  | .named .scalar name =>
    match ← specialValue? name with
    | some value => if name == "!" then objectOf .scalar name else newCell value
    | none => objectOf .scalar name
  | .declared isLexical [(.scalar, name)] _ => declare isLexical .scalar name
  | .localized target =>
    localize run target
    run.cell target
  | .target .scalar reference => do behindCell .scalar (← run.cell reference)
  | .item array index => itemAt run array index
  | .entry hash key => do
    let id ← run.hash hash
    entryCell id (← run.one key).toText
  | .condition test a b => do if (← run.one test).isTrue then run.cell a else run.cell b
  | .list [e] => run.cell e
  | .assign target _ =>
    let _ ← run.one e
    run.cell (readBack target)
  | .update _ target _ =>
    let _ ← run.one e
    run.cell target
  | .updateIf _ target _ =>
    let _ ← run.one e
    run.cell target
  | .step true _ target =>
    let _ ← run.one e
    run.cell target
  | e => do newCell (← run.one e)

/-- The scalars that an expression leads to. -/
def cellsWith (run : Interpreter) (e : Expr) : Action (List Nat) := do
  match e with
  | .named .scalar _ => return [← run.cell e]
  | .named .array _ => return (← cellsOf (← run.array e)).toList
  | .target .array _ => return (← cellsOf (← run.array e)).toList
  | .function "values" [hash] =>
    match hash with
    | .named .hash _ => return (← entriesOf (← run.hash hash)).map (·.2)
    | .target .hash _ => return (← entriesOf (← run.hash hash)).map (·.2)
    | _ => (← run.all e).mapM newCell
  | .list items => return (← items.mapM run.cells).flatten
  | .item array index =>
    let id ← run.array array
    let index := (← run.one index).toInt
    let cells ← cellsOf id
    match (indexIn cells.size index).bind fun i => cells[i]? with
    | some cell => return [cell]
    | none => return [← newCell .missing]
  | .entry hash key =>
    let id ← run.hash hash
    let key := (← run.one key).toText
    match (← entriesOf id).find? fun e => e.1 == key with
    | some (_, cell) => return [cell]
    | none => return [← newCell .missing]
  | .assign target _ =>
    let _ ← run.one e
    run.cells (readBack target)
  | .declared _ [(.scalar, _)] false => return [← run.cell e]
  | .declared _ targets _ =>
    let _ ← run.all e
    return (← (declaredTargets targets).mapM run.cells).flatten
  | e => do (← run.all e).mapM newCell

/-- The array that an expression leads to. -/
def arrayWith (run : Interpreter) (e : Expr) : Action Nat := do
  match e with
  | .named .array name => objectOf .array name
  | .declared isLexical [(.array, name)] _ => declare isLexical .array name
  | .localized target =>
    localize run target
    run.array target
  | .target .array reference => do behindCell .array (← run.cell reference)
  | .list [e] => run.array e
  | e => do
    let id ← newOf .array
    setValues id (← run.all e)
    return id

/-- The table that an expression leads to. -/
def hashWith (run : Interpreter) (e : Expr) : Action Nat := do
  match e with
  | .named .hash "+" => namedGroups
  | .named .hash name => objectOf .hash name
  | .declared isLexical [(.hash, name)] _ => declare isLexical .hash name
  | .localized target =>
    localize run target
    run.hash target
  | .target .hash reference => do behindCell .hash (← run.cell reference)
  | .list [e] => run.hash e
  | e => do
    let id ← newOf .hash
    setPairs id (← run.all e)
    return id

/-! ## Assignments -/

/-- True of a target that takes a whole list. -/
def takesList : Expr → Bool
  | .named .array _ => true
  | .named .hash _ => true
  | .target .array _ => true
  | .target .hash _ => true
  | .declared _ targets isList => isList || targets.any fun t => t.1 != .scalar
  | .localized target => takesList target
  | .list _ => true
  | .someItems .. => true
  | .someEntries .. => true
  | _ => false

/-- Sets the number of the last item of an array. -/
def setLastIndex (id : Nat) (last : Int) : Action Unit := do
  let size := (last + 1).toNat
  let cells ← cellsOf id
  if size ≤ cells.size then setObject id (.array (cells.extract 0 size))
  else
    let _ ← itemCell id (size - 1)

/-- A text with a part of it replaced. -/
def spliced (text : String) (start length : Nat) (replacement : String) : String :=
  let cs := text.toList
  String.ofList (cs.take start ++ replacement.toList ++ cs.drop (start + length))

/-- The start and the length of a part of a text; none if the part begins outside. -/
def partOf (size : Nat) (start : Int) (length : Option Int) : Option (Nat × Nat) :=
  let low := if start < 0 then size + start else start
  if low > size || low < 0 && (length.all fun n => n ≥ 0 && low + n < 0) then none
  else
    let high :=
      match length with
      | none => (size : Int)
      | some n => if n < 0 then size + n else low + n
    let low := max 0 low
    let high := min (size : Int) high
    some (low.toNat, (high - low).toNat)

/-- Assigns a single value. -/
def assignOne (run : Interpreter) (target : Expr) (value : Value) : Action Unit := do
  match target with
  | .lastIndex array => setLastIndex (← run.array array) value.toInt
  | .function "substr" (text :: start :: rest) =>
    let cell ← run.cell text
    let old := (← valueOf cell).toText
    let start := (← run.one start).toInt
    let length ← rest.head?.mapM fun e => do return (← run.one e).toInt
    match partOf old.length start length with
    | some (low, count) => setValue cell (.text (spliced old low count value.toText))
    | none => fail "substr outside of string"
  | target =>
    setValue (← run.cell target) value
    match target with
    | .named .scalar "|" => if value.isTrue then flush
    | _ => return

/-- True of a target that is a table. -/
def isHashTarget : Expr → Bool
  | .named kind _ => kind == .hash
  | .target kind _ => kind == .hash
  | .declared _ [(kind, _)] _ => kind == .hash
  | .localized target => isHashTarget target
  | _ => false

/-- True of some items or entries. -/
def isSelection : Expr → Bool
  | .someItems .. => true
  | .someEntries .. => true
  | _ => false

/-- Assigns a list of values to a list of targets; what is left goes on to the next target. -/
def assignEach (run : Interpreter) : List Expr → List Value → Action Unit
  | [], _ => return
  | target :: targets, values => do
    let isSkipped :=
      match target with
      | .function "undef" _ => true
      | _ => false
    if isSkipped then assignEach run targets (values.drop 1)
    else if isSelection target then
      let cells ← someCells run target
      for (cell, i) in cells.zipIdx do
        setValue cell ((values[i]?).getD .missing)
      assignEach run targets (values.drop cells.length)
    else if takesList target then
      if isHashTarget target then setPairs (← run.hash target) values
      else setValues (← run.array target) values
      assignEach run targets []
    else
      assignOne run target (values.headD .missing)
      assignEach run targets (values.drop 1)

/-- Assigns a list of values. -/
def assignAll (run : Interpreter) (target : Expr) (values : List Value) : Action Unit := do
  match target with
  | .list targets => assignEach run targets values
  | .declared isLexical targets true =>
    for (kind, name) in targets do
      if kind != .code then
        let _ ← declare isLexical kind name
    assignEach run (declaredTargets targets) values
  | .localized (.list targets) =>
    for target in targets do
      localize run target
    assignEach run targets values
  | target => assignEach run [target] values

/-! ## Streams -/

/-- The name of the stream that a value leads to. -/
def streamName (value : Value) : Action String := do
  match value with
  | .stream name => return name
  | .reference .scalar id =>
    match ← valueOf id with
    | .stream name => return name
    | value => return value.toText
  | value => return value.toText

end PointerTagging.Host.Scripting
