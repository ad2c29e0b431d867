import PointerTagging.Host.Shell.Computation
import PointerTagging.Host.Shell.State
/-!
# Looking up and setting variables

The values of variables, of elements of arrays and of arithmetic expressions, and the ways to set
them. Some variables of the extended dialect are computed whenever they are looked up.
-/

namespace PointerTagging.Host.Shell

open Shell.Action

/-- The characters between fields, if the variable is not set. -/
def defaultSeparators : String := " \t\n"

/-- The characters between fields. -/
def separators : Action String := do return ((← valueOf "IFS").getD defaultSeparators)

/-- What joins fields to a text: the first of the characters between fields, if there is one. -/
def joint : Action String := do return String.ofList ((← separators).toList.take 1)

/-! ## Variables that are computed -/

/-- The elements of an array that is computed whenever it is looked up. -/
def computedArray? (s : State) (name : String) : Option (List String) :=
  match name with
  | "PIPESTATUS" => some (s.statuses.map toString)
  | "FUNCNAME" => some s.calls
  | "DIRSTACK" => some ((s.place :: s.stack).map Tree.pathOf)
  | "GROUPS" => some ["0"]
  | "BASH_SOURCE" => some (s.calls.map fun _ => s.voice.getD s.title)
  | _ => none

/-- The value of a variable that is computed whenever it is looked up. -/
def computed? (s : State) (name : String) : Option String :=
  match name with
  | "LINENO" => some (toString s.line)
  | "SECONDS" => some (toString (s.world.clock / 1000))
  | "RANDOM" => some (toString ((s.world.nextPid * 7919 + s.world.clock * 31) % 32768))
  | "BASHPID" => some (toString (s.pid + s.copies))
  | "BASH_SUBSHELL" => some (toString s.copies)
  | "SHELLOPTS" => some "braceexpand:hashall:interactive-comments"
  | "_" => some s.lastWord
  | name => (computedArray? s name).bind List.head?

/-- The value of a variable, if it is set. -/
def variableValue (name : String) : Action (Option String) := do
  match ← valueOf name with
  | some value => return some value
  | none =>
    let s ← get
    match s.dialect with
    | .common => return none
    | .extended => return computed? s name

/-- The elements of a variable. -/
def collectionOf (name : String) : Action Collection := do
  let s ← get
  let b ← binding (← target name)
  match computedArray? s name with
  | some values =>
    if b.isKnown then return b.elements
    return .indexed (((List.range values.length)).zip values)
  | none => return b.elements

/-- The names of the variables that begin with a text, in order. -/
def namesFrom (start : String) : Action (List String) := do
  let isChosen (v : String × Binding) : Bool :=
    v.1.startsWith start && (v.2.value.isSome || v.2.array.isSome)
  let names := ((← get).bindings.filter isChosen).map (·.1)
  return names.mergeSort fun a b => a ≤ b

/-! ## Arithmetic -/

/-- How many variables may name one another in an expression. -/
def mostLookups : Nat := 1024

/-- Sets an element of an array. -/
def putElement (name key value : String) : Action Unit := do
  change (← target name) fun b => b.withArray (b.elements.put key (withLetters b.letters value))

/-- The number that an expression comes to; `head` stands before complaints, and variables may name
others as often as a bound says. -/
def computeIn (head : String) : Nat → String → Action Int
  | 0, text =>
    let token := " (error token is \"" ++ text ++ "\")"
    fail (head ++ text ++ ": expression recursion level exceeded" ++ token)
  | n + 1, text => do
    match Computation.read? text with
    | .error refusal => fail (head ++ refusal.message)
    | .ok e =>
      let shown := String.ofList (text.toList.dropWhile Char.isWhitespace)
      let keyOf (place : Place) : Action (Option String) := do
        match place.key with
        | none => return none
        | some key =>
          if (← collectionOf place.name).isKeyed then return some key
          return some (toString (← computeIn head n key))
      let lookup (place : Place) : Action Int := do
        let value ←
          match ← keyOf place with
          | none => variableValue place.name
          | some key => do pure ((← collectionOf place.name).get? key)
        match value with
        | none =>
          if ← hasOption 'u' then abandon (place.name ++ ": unbound variable")
          return 0
        | some text => computeIn head n text
      let assignTo (place : Place) (value : Int) : Action Unit := do
        match ← keyOf place with
        | none => assign place.name (toString value)
        | some key => putElement place.name key (toString value)
      e.value
        { lookup
          assign := assignTo
          refuse := fun complaint rest => fail (head ++ (⟨shown, complaint, rest⟩ :
            Computation.Refusal).message) }

/-- The number that an expression of the extended dialect comes to. -/
def numberOf (text : String) : Action Int := computeIn "" mostLookups text

/-- The number that a variable holds, in the common dialect. -/
def numberIn (name : String) : Action Int := do
  match ← valueOf name with
  | none => return 0
  | some text =>
    match numberOf? true text with
    | some n => return n
    | none => fail ("Illegal number: " ++ text)

/-- The value of an arithmetic expression. -/
def compute (text : String) : Action String := do
  if ← isExtended then return toString (← numberOf text)
  let refuse (complaint : String) : Action Int :=
    fail ("arithmetic expression: " ++ complaint ++ ": \"" ++ text ++ "\"")
  let (e, complaint?) := Expression.read text
  let n ← e.value numberIn (fun name n => assign name (toString n)) refuse
  match complaint? with
  | some complaint => return toString (← refuse complaint)
  | none => return toString n

/-! ## Elements -/

/-- The key of an element: the text itself, or the number that it comes to as an expression. One
below zero counts from the end. -/
def keyOf (name text : String) : Action String := do
  let array ← collectionOf name
  if array.isKeyed then return text
  let n ← numberOf text
  let index := if n < 0 then array.next + n else n
  if index < 0 then fail (name ++ "[" ++ text ++ "]: bad array subscript")
  return toString index

/-- The value of an element, if there is one. -/
def elementValue (name key : String) : Action (Option String) := do
  return (← collectionOf name).get? key

/-- The value that a variable is given: computed if it holds numbers, and behind the old one if it
`appends`. -/
def fittedValue (name : String) (old : Option String) (appends : Bool) (value : String) :
    Action String := do
  let b ← binding (← target name)
  if b.isInteger then
    let n ← numberOf value
    let before ← if appends then numberOf (old.getD "0") else pure 0
    return toString (wrapNumber (before + n))
  return if appends then old.getD "" ++ value else value

/-- Sets a variable, or adds a value behind its own. -/
def setValue (name : String) (appends : Bool) (value : String) : Action Unit := do
  if ← isExtended then assign name (← fittedValue name (← valueOf name) appends value)
  else assign name value

/-- Sets an element of an array, or adds a value behind its own. -/
def setElement (name key : String) (appends : Bool) (value : String) : Action Unit := do
  putElement name key (← fittedValue name (← elementValue name key) appends value)

/-- Sets an element of an array. -/
def assignElement (name key value : String) : Action Unit := setElement name key false value

/-- Sets what a word names: a variable or an element. -/
def assignNamed (word value : String) : Action Unit := do
  match word.toList.dropWhile (· != '['), word.endsWith "]" with
  | '[' :: rest, true =>
    let name := String.ofList (word.toList.takeWhile (· != '['))
    setElement name (← keyOf name (String.ofList rest.dropLast)) false value
  | _, _ => setValue word false value

/-- The parameter that a text names. -/
def parameterNamed (text : String) : Action Parameter := do
  let name := String.ofList (text.toList.takeWhile isNameChar)
  match text.toList.drop name.length, text.toList with
  | [], c :: _ => return if c.isDigit then positionOf text.toList else .named text
  | ['[', '@', ']'], _ => return .elements name false
  | ['[', '*', ']'], _ => return .elements name true
  | '[' :: rest, _ => return .element name (← keyOf name (String.ofList rest.dropLast))
  | _, [c] =>
    match specialParameter? c with
    | some parameter => return parameter
    | none => fail (text ++ ": invalid variable name")
  | _, _ => fail (text ++ ": invalid variable name")

end PointerTagging.Host.Shell
