import PointerTagging.Host.Shell.Bracket
import PointerTagging.Host.Shell.Builtin
/-!
# Declaring variables in the extended dialect

The builtins that set variables, say what is special about them, list them and forget them.
-/

namespace PointerTagging.Host.Shell

open Shell.Action

namespace Extended

/-! ## Options of builtins -/

/-- Fails over the use of a builtin. -/
def misuse (usage complaint : String) : Action α := do
  let name := ((← get).builtin).getD ""
  unless complaint.isEmpty do complain complaint
  write 2 (name ++ ": usage: " ++ usage ++ "\n")
  setStatus 2
  throw .error

/-- The letters of the options at the start of some arguments, which all have to be known, and the
other arguments. -/
def options (usage : String) (known : String) : List String → Action (List Char × List String)
  | [] => return ([], [])
  | word :: words => do
    match word.toList with
    | ['-', '-'] => return ([], words)
    | '-' :: c :: cs =>
      for letter in c :: cs do
        unless known.contains letter do
          misuse usage ("-" ++ String.ofList [letter] ++ ": invalid option")
      let (letters, rest) ← options usage known words
      return (c :: cs ++ letters, rest)
    | _ => return ([], word :: words)

/-! ## Listing -/

/-- The elements of an array as a declaration shows them. -/
def shownElements (array : Collection) : String :=
  let one (e : String × String) : String :=
    "[" ++ e.1 ++ "]=" ++ Shaping.doubleQuoted e.2
  let elements := (array.keys.zip array.values).map one
  match array with
  | .indexed _ => "(" ++ " ".intercalate elements ++ ")"
  | .keyed _ => "(" ++ String.join (elements.map (· ++ " ")) ++ ")"

/-- The command that declares a variable. -/
def declaration (name : String) (b : Binding) : String :=
  let traits := if b.traits.isEmpty then "-" else b.traits
  let value :=
    match b.array, b.value with
    | some array, _ => "=" ++ shownElements array
    | none, some value => "=" ++ Shaping.doubleQuoted value
    | none, none => ""
  "declare -" ++ traits ++ " " ++ name ++ value

/-- A value as an assignment shows it: between quotes if it needs any. -/
def shownValue (value : String) : String :=
  let isPlain (c : Char) : Bool := c.isAlphanum || "_@%+=:,./-".contains c
  if value.toList.all isPlain then value else Shaping.quoted value

/-- A variable and its value as an assignment. -/
def shownAssignment (name : String) (b : Binding) : String :=
  match b.array with
  | some array => name ++ "=" ++ shownElements array
  | none => name ++ "=" ++ shownValue (b.value.getD "")

/-- The variables that satisfy a test, in the order of their names. -/
def chosen (test : Binding → Bool) : Action (List (String × Binding)) := do
  return ((← get).bindings.filter fun v => test v.2).mergeSort fun a b => a.1 ≤ b.1

/-- Prints declarations of the variables that satisfy a test. -/
def listDeclarations (test : Binding → Bool) : Action Unit := do
  for (name, b) in ← chosen test do
    Builtin.print (declaration name b ++ "\n")

/-- Prints declarations of some variables. -/
def showDeclarations (names : List String) : Action Nat := do
  let mut status := 0
  for name in names do
    let b ← binding name
    match computedArray? (← get) name with
    | some values =>
      let array := Collection.indexed ((List.range values.length).zip values)
      Builtin.print (declaration name (Binding.none.withArray array) ++ "\n")
    | none =>
      if b.isKnown then Builtin.print (declaration name b ++ "\n")
      else
        complain (name ++ ": not found")
        status := 1
  return status

/-! ## Declaring -/

/-- The variable with what letters say about it switched on or off. -/
def withTraits (on : Bool) (letters : List Char) (b : Binding) : Binding :=
  letters.foldl
    (fun b letter =>
      match letter with
      | 'i' => { b with isInteger := on }
      | 'u' => { b with letters := if on then some .raise else none }
      | 'l' => { b with letters := if on then some .lower else none }
      | 'n' => { b with isReference := on }
      | 'x' => { b with exported := on }
      | 'a' => if on && b.array.isNone then { b with array := some b.elements } else b
      | 'A' => if on && b.array.isNone then { b with array := some (.keyed []) } else b
      | _ => b)
    b

/-- The name, the key, whether the value comes behind the old one, and the value in a word that may
be an assignment. -/
def splitDeclaration (word : String) : String × Option String × Bool × Option String :=
  let (left, value) := Builtin.splitAssignment word
  let appends := value.isSome && left.endsWith "+"
  let left := if appends then (left.dropEnd 1).toString else left
  let name := String.ofList (left.toList.takeWhile (· != '['))
  match left.toList.drop name.length with
  | '[' :: key => (name, some (String.ofList key.dropLast), appends, value)
  | _ => (left, none, appends, value)

/-- Carries out a declaration of each of some words: makes variables local if that is asked for, and
switches on and off what is special about them. -/
def declareWords (makesLocal : Bool) (on off : List Char) (words : List String) :
    Action Nat := do
  let mut status := 0
  for word in words do
    let (name, key, appends, value) := splitDeclaration word
    if !isName name then
      complain ("\x60" ++ word ++ "': not a valid identifier")
      status := 1
    else
      if makesLocal then
        let old ← binding name
        let isNew := ((← get).locals.headD []).all fun v => v.1 != name
        makeLocal name
        if isNew then setBinding name { Binding.none with exported := old.exported }
      if (← binding name).fixed && value.isSome then
        complain (name ++ ": readonly variable")
        status := 1
      else
        let isReference := on.contains 'n'
        setBinding name (withTraits false off (withTraits true on (← binding name)))
        match value, key with
        | some value, none =>
          if isReference then
            setBinding name { ← binding name with value := some value }
          else setValue name appends value
        | some value, some key => setElement name (← keyOf name key) appends value
        | none, _ => pure ()
        if on.contains 'r' then setBinding name { ← binding name with fixed := true }
  return status

/-- The letters that words switch on and off at the start of some arguments, and the others. -/
def declareOptions (usage : String) :
    List String → Action (List Char × List Char × List String)
  | [] => return ([], [], [])
  | word :: words => do
    match word.toList with
    | ['-', '-'] => return ([], [], words)
    | sign :: c :: cs =>
      if sign != '-' && sign != '+' then return ([], [], word :: words)
      for letter in c :: cs do
        unless "aAfFgiIlnprtux".contains letter do
          misuse usage (String.ofList [sign, letter] ++ ": invalid option")
      let (on, off, rest) ← declareOptions usage words
      return if sign == '-' then (c :: cs ++ on, off, rest) else (on, c :: cs ++ off, rest)
    | _ => return ([], [], word :: words)

/-- What is said of the use of `declare`. -/
def declareUsage (name : String) : String :=
  name ++ " [-aAfFgiIlnrtux] [name[=value] ...] or " ++ name ++ " -p [-aAfFilnrtux] [name ...]"

/-- True of a variable with all that letters say. -/
def hasTraits (letters : List Char) (b : Binding) : Bool :=
  let wanted := letters.filter fun c => "aAilnrux".contains c
  wanted.all fun c => b.traits.contains c

/-- Declares variables. -/
def declare (name : String) : Builtin := fun arguments => do
  let (on, off, words) ← declareOptions (declareUsage name) arguments
  if on.contains 'f' || on.contains 'F' then
    let s ← get
    let known (name : String) : Bool := s.functions.any fun f => f.1 == name
    if on.contains 'F' then
      for word in words do
        if known word then Builtin.print (word ++ "\n")
    return if words.all known then 0 else 1
  if on.contains 'p' then
    if words.isEmpty then
      listDeclarations (hasTraits on)
      return 0
    return ← showDeclarations words
  if words.isEmpty then
    if on.isEmpty then
      for (name, b) in ← chosen fun b => b.value.isSome || b.array.isSome do
        Builtin.print (shownAssignment name b ++ "\n")
    else listDeclarations (hasTraits on)
    return 0
  let makesLocal := !(← get).locals.isEmpty && !(← get).calls.isEmpty && !on.contains 'g'
  declareWords makesLocal on off words

/-- Makes variables local to the function that runs. -/
def «local» : Builtin := fun arguments => do
  if (← get).calls.isEmpty then fail "can only be used in a function"
  let (on, off, words) ← declareOptions "local [option] name[=value] ..." arguments
  if words.isEmpty then
    for (name, _) in ((← get).locals.headD []).reverse do
      Builtin.print (declaration name (← binding name) ++ "\n")
    return 0
  declareWords true on off words

/-- Sets variables and has programs be given them. -/
def «export» : Builtin := fun arguments => do
  let (letters, words) ← options "export [-fn] [name[=value] ...] or export -p" "fnp" arguments
  if words.isEmpty then
    listDeclarations (·.exported)
    return 0
  if letters.contains 'n' then declareWords false [] ['x'] words
  else declareWords false ['x'] [] words

/-- Sets variables for good. -/
def readonly : Builtin := fun arguments => do
  let (letters, words) ←
    options "readonly [-aAf] [name[=value] ...] or readonly -p" "aAfp" arguments
  if words.isEmpty then
    listDeclarations (·.fixed)
    return 0
  declareWords false ('r' :: letters) [] words

/-- Forgets a variable or an element. -/
def forget (word : String) : Action Bool := do
  let (name, key, _, _) := splitDeclaration word
  let b ← binding name
  if b.fixed then
    complain (name ++ ": cannot unset: readonly variable")
    return false
  match key with
  | some key =>
    if ["@", "*"].contains key then setBinding name .none
    else setBinding name (b.withArray (b.elements.remove (← keyOf name key)))
  | none => setBinding (← target name) .none
  return true

/-- Forgets variables or functions. -/
def unset : Builtin := fun arguments => do
  let (letters, words) ← options "unset [-f] [-v] [-n] [name ...]" "fvn" arguments
  let mut status := 0
  for word in words do
    let s ← get
    let isFunction := s.functions.any fun f => f.1 == word
    let isVariable := letters.contains 'v' || (← binding word).isKnown || word.contains '['
    if letters.contains 'f' || (isFunction && !isVariable) then
      modify fun s => { s with functions := s.functions.filter fun f => f.1 != word }
    else if letters.contains 'n' then setBinding word .none
    else unless ← forget word do status := 1
  return status

/-- Computes expressions; the last one decides the status. -/
def «let» : Builtin := fun arguments => do
  if arguments.isEmpty then fail "expression expected"
  let mut value : Int := 0
  for word in arguments do
    value ← computeIn "" mostLookups word
  return if value == 0 then 1 else 0

/-- True of a builtin whose arguments are assignments. -/
def declares (name : String) : Bool :=
  ["declare", "typeset", "local", "export", "readonly"].contains name

/-! ## Lists of elements -/

/-- Sets the elements of an array that a list gives, in the place of those there are or behind
them. -/
def setElements (run : Runner) (name : String) (appends : Bool)
    (elements : List (Option Word × Word)) : Action Unit := do
  let name ← target name
  let old ← binding name
  let kept : Collection :=
    if appends then old.elements
    else if (old.array.map Collection.isKeyed).getD false then .keyed [] else .indexed []
  if kept.isKeyed && elements.all fun e => e.1.isNone then
    let words ← (elements.map (·.2)).mapM (expandText run)
    change name fun b => b.withArray kept
    pairs name words.length words
  else
    let mut array := kept
    let mut index := kept.next
    for (key, word) in elements do
      match key with
      | some key =>
        let text ← expandText run key
        let value ← expandText run word
        if kept.isKeyed then array := array.put text value
        else
          let n ← numberOf text
          let place := if n < 0 then array.next + n else n
          if place < 0 then fail (name ++ "[" ++ text ++ "]: bad array subscript")
          let value ← fittedValue name none false value
          array := array.put (toString place) value
          index := place.toNat + 1
      | none =>
        for field in ← expandAll run [word] do
          array := array.put (toString index) (← fittedValue name none false field)
          index := index + 1
    change name fun b => b.withArray array
where
  /-- Sets elements whose keys and values alternate. -/
  pairs (name : String) : Nat → List String → Action Unit
    | 0, _ => return
    | _, [] => return
    | n + 1, key :: rest => do
      change name fun b => b.withArray (b.elements.put key (rest.headD ""))
      pairs name n (rest.drop 1)

/-- Carries out an assignment; returns it as a trace shows it. -/
def carryOut (run : Runner) : Assignment → Action (String × String)
  | .mk name key appends [.list elements] => do
    let _ := key
    setElements run name appends elements
    return (name, "()")
  | .mk name none appends word => do
    let value ← expandValue run word
    setValue name appends value
    return (name, value)
  | .mk name (some key) appends word => do
    let key ← keyOf name (← expandText run key)
    let value ← expandValue run word
    setElement name key appends value
    return (name ++ "[" ++ key ++ "]", value)

end Extended

end PointerTagging.Host.Shell
