import PointerTagging.Host.Scripting.Source
import PointerTagging.Text.Utf8
/-!
# Variables and the texts they stand in

What stands behind the sign of a variable, the subscripts behind it, and the texts in which
variables are replaced by their values.
-/

namespace PointerTagging.Host.Scripting

open Text

/-- What reads the parts of what is read. -/
structure Inner where
  /-- An expression whose operators bind at least so strongly. -/
  expression : (least : Nat) → Reading Expr
  /-- Statements up to a closing brace or the end of the text. -/
  statements : Reading Block

/-- How strongly lists, assignments, arguments of functions, signs and powers bind. -/
def listRank : Nat := 4

/-- How strongly assignments bind. -/
def assignRank : Nat := 5

/-- How strongly functions of one argument bind. -/
def functionRank : Nat := 15

/-- How strongly signs bind. -/
def signRank : Nat := 19

/-- What stands behind the sign of a variable. -/
inductive Subject where
  | direct (name : String)
  | reference (e : Expr)

/-- The variable of a kind. -/
def Subject.toExpr (kind : Kind) : Subject → Expr
  | .direct name => .named kind name
  | .reference e => .target kind e

/-- The names that need no declaration. -/
def openNames : List String :=
  ["_", "ENV", "ARGV", "INC", "SIG", "STDIN", "STDOUT", "STDERR", "a", "b", "F"]

/-- Declares a variable. -/
def addDeclared (kind : Kind) (name : String) : Reading Unit :=
  modify fun s => { s with declared := String.ofList (kind.sign :: name.toList) :: s.declared }

/-- The variable of a kind, which has to be declared if declarations are asked for. -/
def variableOf (kind : Kind) (subject : Subject) : Reading Expr := do
  match subject with
  | .reference _ => pure ()
  | .direct name =>
    let s ← get
    let key := String.ofList (kind.sign :: name.toList)
    let isFree := !s.isStrict || openNames.contains name || !name.toList.head?.any isNameStart ||
      name.toList.contains ':'
    unless isFree || s.declared.contains key do
      let quoted := "\"" ++ key ++ "\""
      let message := "Global symbol " ++ quoted ++
        " requires explicit package name (did you forget to declare \"my " ++ key ++ "\"?)"
      set { s with faults := (message ++ "|" ++ toString s.line) :: s.faults }
  return subject.toExpr kind

/-- A name without the package that every script begins in. -/
def ownName (name : List Char) : String :=
  let rest :=
    if "main::".toList.isPrefixOf name then name.drop 6
    else if "::".toList.isPrefixOf name then name.drop 2 else name
  String.ofList rest

/-- The name behind the sign of a variable, and what follows. -/
def variableName (cs : List Char) : List Char × List Char :=
  match cs with
  | [] => ([], [])
  | '^' :: c :: rest => if c.isUpper then (['^', c], rest) else (['^'], c :: rest)
  | c :: rest =>
    if isNameStart c || c == ':' && !(nameAtStart cs.length cs).isEmpty then
      let name := nameAtStart cs.length cs
      (name, cs.drop name.length)
    else if c.isDigit then (cs.takeWhile Char.isDigit, cs.dropWhile Char.isDigit)
    else ([c], rest)

/-- The members of a list, or an expression alone. -/
def itemsOf : Expr → List Expr
  | .list items => items
  | e => [e]

/-- Reads what stands behind the sign of a variable. -/
def subject (inner : Inner) : Nat → Reading Subject
  | 0 => refuse
  | n + 1 => do
    match (← get).rest with
    | [] => refuse
    | '\x7b' :: cs =>
      let (name, rest) := variableName (cs.dropWhile isSpace)
      let isName := name.head?.any fun c => isNameChar c || c == ':' || c == '^'
      match isName, rest.dropWhile isSpace with
      | true, '\x7d' :: rest =>
        goOn rest
        return .direct (ownName name)
      | _, _ =>
        goOn cs
        let e ← inner.expression 0
        let _ ← accept ";"
        expect "\x7d"
        return .reference e
    | '$' :: cs =>
      if cs.head?.any fun c => isNameStart c || c == '$' || c == '\x7b' then
        goOn cs
        return .reference (← variableOf .scalar (← subject inner n))
      else
        goOn cs
        return .direct "$"
    | cs =>
      let (name, rest) := variableName cs
      goOn rest
      return .direct (ownName name)

/-- Reads one or more keys of entries behind their opening brace. -/
def keysBehind (inner : Inner) : Reading Expr := opened do
  let cs ← ahead
  let sign := if cs.head? == some '-' then ['-'] else []
  let word := (cs.drop sign.length).takeWhile isNameChar
  match word.isEmpty, (cs.drop (sign.length + word.length)).dropWhile isSpace with
  | false, '\x7d' :: rest =>
    goOn rest
    return .text (String.ofList (sign ++ word))
  | _, _ =>
    let keys ← inner.expression 0
    expect "\x7d"
    return keys

/-- Reads the key of an entry behind its opening brace; several ones are joined. -/
def keyBehind (inner : Inner) : Reading Expr := do
  match ← keysBehind inner with
  | .list (a :: b :: items) => return .function "join" (.named .scalar ";" :: a :: b :: items)
  | key => return key

/-- Reads an index behind its opening bracket. -/
def indexBehind (inner : Inner) : Reading Expr := opened do
  let index ← inner.expression 0
  expect "]"
  return index

/-- Reads a variable behind its sign `$`, with its first subscript; `isSubscript` tells whether
one begins at some characters. -/
def scalarBehind (inner : Inner) (isSubscript : List Char → Bool) : Reading Expr := do
  let s ← get
  let subject ← subject inner (s.rest.length + 1)
  let cs := (← get).rest
  match cs, isSubscript cs with
  | '[' :: cs, true =>
    goOn cs
    return .item (← variableOf .array subject) (← indexBehind inner)
  | '\x7b' :: cs, true =>
    goOn cs
    return .entry (← variableOf .hash subject) (← keyBehind inner)
  | _, _ => variableOf .scalar subject

/-- True of what has a subscript, so that the arrow before the next one may be missing. -/
def hasSubscript : Expr → Bool
  | .item .. => true
  | .entry .. => true
  | .call .. => true
  | _ => false

/-! ## Texts -/

/-- What an escape in a text stands for, and what follows it. -/
def escapeAtStart (cs : List Char) : List Char × List Char :=
  let bytes (n : Nat) : List Char :=
    if n < 256 then [Char.ofNat n]
    else (Utf8.encodeChar (Char.ofNat n)).map fun b => Char.ofNat b.toNat
  let numbered (base : Nat) (digits : List Char) : List Char :=
    bytes ((Numeral.valueFrom base 0 digits).getD 0)
  let isDigit (base : Nat) (c : Char) : Bool := (Numeral.digit? base c).isSome
  match cs with
  | [] => (['\\'], [])
  | 'e' :: cs => (['\x1b'], cs)
  | 'b' :: cs => (['\x08'], cs)
  | 'N' :: '\x7b' :: 'U' :: '+' :: cs =>
    (numbered 16 (cs.takeWhile (· != '\x7d')), (cs.dropWhile (· != '\x7d')).drop 1)
  | 'x' :: '\x7b' :: cs =>
    (numbered 16 (cs.takeWhile (· != '\x7d')), (cs.dropWhile (· != '\x7d')).drop 1)
  | 'x' :: cs =>
    let digits := (cs.take 2).takeWhile (isDigit 16)
    (numbered 16 digits, cs.drop digits.length)
  | 'c' :: c :: cs => ([Char.ofNat (c.toUpper.toNat ^^^ 64)], cs)
  | c :: rest =>
    if isDigit 8 c then
      let digits := (cs.take 3).takeWhile (isDigit 8)
      (numbered 8 digits, cs.drop digits.length)
    else if c == 'v' then (['v'], rest)
    else ([(Escape.letter? c).getD c], rest)

/-- True if a variable begins behind its sign in a text. -/
def startsVariable (isPattern : Bool) (cs : List Char) : Bool :=
  match cs with
  | [] => false
  | c :: rest =>
    if isNameChar c || c == '\x7b' then true
    else if c == ':' then rest.head? == some ':' && (rest.drop 1).head?.any isNameStart
    else if c == '$' then !isPattern || rest.head?.any isNameStart
    else if isPattern then c == '&' || c == ','
    else "&@!,.;/0\\^+?']".toList.contains c || c == '\x60'

/-- True if an array begins behind its sign in a text. -/
def startsArray (cs : List Char) : Bool :=
  cs.head?.any fun c => isNameStart c || c == '\x7b' || c == '$'

/-- True if a subscript begins at some characters of a text; in a pattern brackets and braces have
other meanings. -/
def startsSubscript (isPattern : Bool) (cs : List Char) : Bool :=
  match cs with
  | '[' :: cs =>
    let inside := cs.takeWhile (· != ']')
    if isPattern then
      let body := if inside.head? == some '-' then inside.drop 1 else inside
      let name := if inside.head? == some '$' then inside.drop 1 else []
      !body.isEmpty && body.all Char.isDigit || !name.isEmpty && name.all isNameChar
    else inside.head?.any fun c => c == '$' || c == '-' || c.isDigit
  | '\x7b' :: cs =>
    let inside := cs.takeWhile (· != '\x7d')
    !isPattern || !(inside.all fun c => c.isDigit || c == ',')
  | _ => false

/-- Reads the further subscripts of a variable in a text. -/
def subscriptsInText (inner : Inner) (isPattern : Bool) : Nat → Expr → Reading Expr
  | 0, e => return e
  | n + 1, e => do
    let cs := (← get).rest
    let behindArrow :=
      match cs with
      | '-' :: '>' :: cs => if startsSubscript isPattern cs then some cs else none
      | cs => if hasSubscript e && startsSubscript isPattern cs then some cs else none
    match behindArrow with
    | some ('[' :: cs) =>
      goOn cs
      subscriptsInText inner isPattern n (.item (.target .array e) (← indexBehind inner))
    | some ('\x7b' :: cs) =>
      goOn cs
      subscriptsInText inner isPattern n (.entry (.target .hash e) (← keyBehind inner))
    | _ => return e

/-- Reads an array behind its sign `@`, or some members of one or of a table. -/
def arrayBehind (inner : Inner) : Reading Expr := do
  let s ← get
  let subject ← subject inner (s.rest.length + 1)
  match (← get).rest with
  | '[' :: cs =>
    goOn cs
    return .someItems (← variableOf .array subject) (← indexBehind inner)
  | '\x7b' :: cs =>
    goOn cs
    return .someEntries (← variableOf .hash subject) (← keysBehind inner)
  | _ => variableOf .array subject

/-- Reads the parts of a text, up to the end of the text or of a change of case inside it. -/
def partsOf (inner : Inner) (isPattern isInside : Bool) : Nat → (plain : List Char) →
    Reading (List Expr)
  | 0, _ => return []
  | n + 1, plain => do
    let withPlain (parts : List Expr) : List Expr :=
      if plain.isEmpty then parts else .text (String.ofList plain.reverse) :: parts
    let changed (name : String) : Reading (List Expr) := do
      let inside ← partsOf inner isPattern true n []
      let rest ← partsOf inner isPattern isInside n []
      return withPlain (.function name [.joined inside] :: rest)
    let changedFirst (name : String) : Reading (List Expr) := do
      let rest ← partsOf inner isPattern isInside n []
      return withPlain [.function name [.joined rest]]
    match (← get).rest with
    | [] => return withPlain []
    | '\\' :: 'E' :: cs =>
      goOn cs
      if isInside then return withPlain [] else partsOf inner isPattern isInside n plain
    | '\\' :: 'Q' :: cs =>
      goOn cs
      changed "quotemeta"
    | '\\' :: 'U' :: cs =>
      goOn cs
      changed "uc"
    | '\\' :: 'L' :: cs =>
      goOn cs
      changed "lc"
    | '\\' :: c :: cs =>
      if isPattern then
        goOn cs
        partsOf inner isPattern isInside n (c :: '\\' :: plain)
      else if c == 'u' || c == 'l' then
        goOn cs
        changedFirst (if c == 'u' then "ucfirst" else "lcfirst")
      else
        let (chars, rest) := escapeAtStart (c :: cs)
        goOn rest
        partsOf inner isPattern isInside n (chars.reverse ++ plain)
    | '$' :: '#' :: cs =>
      goOn cs
      if startsArray cs then
        let last := .lastIndex (← variableOf .array (← subject inner (cs.length + 1)))
        return withPlain (last :: (← partsOf inner isPattern isInside n []))
      else partsOf inner isPattern isInside n ('#' :: '$' :: plain)
    | '$' :: cs =>
      goOn cs
      if startsVariable isPattern cs then
        let first ← scalarBehind inner (startsSubscript isPattern)
        let e ← subscriptsInText inner isPattern (cs.length + 1) first
        return withPlain (e :: (← partsOf inner isPattern isInside n []))
      else partsOf inner isPattern isInside n ('$' :: plain)
    | '@' :: cs =>
      goOn cs
      if startsArray cs then
        let e ← arrayBehind inner
        return withPlain (.spread e :: (← partsOf inner isPattern isInside n []))
      else partsOf inner isPattern isInside n ('@' :: plain)
    | c :: cs =>
      goOn cs
      partsOf inner isPattern isInside n (c :: plain)

/-- Reads something from a text of its own. -/
def within {α : Type} (text : List Char) (reading : Reading α) : Reading α := do
  let s ← get
  set { s with rest := text }
  let found ← reading
  modify fun inside => { inside with rest := s.rest, line := s.line, skipped := s.skipped }
  return found

/-- A text in which variables stand for their values. -/
def interpolated (inner : Inner) (isPattern : Bool) (text : List Char) : Reading Expr := do
  match ← within text (partsOf inner isPattern false (text.length + 1) []) with
  | [] => return .text ""
  | [.text s] => return .text s
  | parts => return .joined parts

end PointerTagging.Host.Scripting
