import PointerTagging.Host.Shell.Arithmetic
import PointerTagging.Host.Shell.Grammar
/-!
# Arithmetic expressions of the extended dialect

Arithmetic with operators that step a variable, powers, lists of expressions, elements of arrays and
numbers of any base. Complaints show the rest of the expression from the token that is wrong.
-/

namespace PointerTagging.Host.Shell

/-- What an expression can set: a variable or an element of an array. -/
structure Place where
  name : String
  /-- The key of the element as it is written. -/
  key : Option String
  deriving DecidableEq, Repr

/-- An arithmetic expression of the extended dialect. The text behind an operator is kept where it
can be wrong. -/
inductive Computation where
  | number (n : Int)
  | read (place : Place)
  | negative (e : Computation)
  | isZero (e : Computation)
  | complement (e : Computation)
  | binary (operator : Binary) (a b : Computation) (behind : String)
  | power (a b : Computation) (behind : String)
  | both (a b : Computation)
  | either (a b : Computation)
  | choose (test a b : Computation)
  | sequence (a b : Computation)
  | assign (place : Place) (e : Computation)
  | update (operator : Binary) (place : Place) (e : Computation) (behind : String)
  /-- Adds a number to a variable; the value is that before or after it. -/
  | step (place : Place) (change : Int) (isBefore : Bool)
  deriving Repr

namespace Computation

/-- What is wrong with an expression. -/
structure Refusal where
  /-- The expression as the complaint shows it. -/
  expression : String
  complaint : String
  /-- The rest of the expression from what is wrong. -/
  rest : String

/-- The text of a complaint. -/
def Refusal.message (r : Refusal) : String :=
  r.expression ++ ": " ++ r.complaint ++ " (error token is \"" ++ r.rest ++ "\")"

/-! ## Tokens -/

/-- A token of an expression. -/
inductive Token where
  | number (n : Int)
  | place (place : Place)
  | sign (text : String)
  /-- A number that is none, and why. -/
  | invalid (written complaint : String)
  deriving DecidableEq, Repr

/-- All signs, each before those that it begins with. -/
def signs : List String :=
  ["<<=", ">>=", "**", "*=", "/=", "%=", "+=", "-=", "&=", "^=", "|=", "<<", ">>", "<=", ">=", "==",
    "!=", "&&", "||", "<", ">", "=", "!", "~", "*", "/", "%", "+", "-", "&", "^", "|", "(", ")",
    "?", ":", ","]

/-- The value of a digit of a base. -/
def digitValue? (base : Nat) (c : Char) : Option Nat :=
  let value : Option Nat :=
    if c.isDigit then some (c.toNat - '0'.toNat)
    else if 'a' ≤ c && c ≤ 'z' then some (c.toNat - 'a'.toNat + 10)
    else if 'A' ≤ c && c ≤ 'Z' then some (c.toNat - 'A'.toNat + if base ≤ 36 then 10 else 36)
    else if c == '@' then some 62
    else if c == '_' then some 63
    else none
  value.filter fun n => n < base

/-- The number of digits of a base. -/
def digitsOf? (base : Nat) (cs : List Char) : Option Int :=
  (cs.mapM (digitValue? base)).map fun digits =>
    wrapNumber ((digits.foldl (fun n d => base * n + d) 0 : Nat) : Int)

/-- The number that a text is which begins with a digit. -/
def numberToken (text : List Char) : Token :=
  let written := String.ofList text
  let ofBase (base : Nat) (digits : List Char) : Token :=
    match digitsOf? base digits with
    | some n => .number n
    | none => .invalid written "value too great for base"
  let head := text.takeWhile (· != '#')
  match text.drop head.length, text with
  | _ :: digits, _ =>
    match (String.ofList head).toNat? with
    | some base =>
      if base < 2 || 64 < base then .invalid written "invalid arithmetic base"
      else if digits.isEmpty then .invalid written "invalid integer constant"
      else ofBase base digits
    | none => .invalid written "invalid number"
  | [], '0' :: 'x' :: digits => ofBase 16 digits
  | [], '0' :: 'X' :: digits => ofBase 16 digits
  | [], '0' :: digits => ofBase 8 digits
  | [], digits => ofBase 10 digits

/-- The text up to the bracket that closes its start, and the rest behind it. -/
def splitKey : (depth : Nat) → List Char → Option (List Char × List Char)
  | _, [] => none
  | 0, ']' :: cs => some ([], cs)
  | depth, c :: cs =>
    let next := if c == '[' then depth + 1 else if c == ']' then depth - 1 else depth
    (splitKey next cs).map fun (key, rest) => (c :: key, rest)

/-- The token at the start of a text, and the rest. `afterPlace` says that a variable stands
before. -/
def tokenAtStart (afterPlace : Bool) (cs : List Char) : Token × List Char :=
  let isNumberChar (c : Char) : Bool := c.isAlphanum || c == '#' || c == '@' || c == '_'
  let c := cs.headD ' '
  if c.isDigit then (numberToken (cs.takeWhile isNumberChar), cs.dropWhile isNumberChar)
  else if isNameStart c then
    let name := String.ofList (cs.takeWhile isNameChar)
    let rest := cs.dropWhile isNameChar
    match rest with
    | '[' :: inner =>
      match splitKey 0 inner with
      | some (key, rest) => (.place ⟨name, some (String.ofList key)⟩, rest)
      | none => (.place ⟨name, none⟩, rest)
    | rest => (.place ⟨name, none⟩, rest)
  else
    let isStep := ["++".toList, "--".toList].contains (cs.take 2)
    let next := ((cs.drop 2).dropWhile Char.isWhitespace).headD ' '
    if isStep && (afterPlace || isNameStart next) then
      (.sign (String.ofList (cs.take 2)), cs.drop 2)
    else
      match signs.find? fun s => s.toList.isPrefixOf cs with
      | some sign => (.sign sign, cs.drop sign.length)
      | none => (.sign (String.ofList [c]), cs.drop 1)

/-- The tokens of an expression, each with the text from its start. -/
def tokens : Nat → (afterPlace : Bool) → List Char → List (Token × String)
  | 0, _, _ => []
  | _, _, [] => []
  | n + 1, afterPlace, c :: cs =>
    if c == ' ' || c == '\t' || c == '\n' then tokens n afterPlace cs
    else
      let (token, rest) := tokenAtStart afterPlace (c :: cs)
      let isPlace :=
        match token with
        | .place _ => true
        | _ => false
      (token, String.ofList (c :: cs)) :: tokens n isPlace rest

/-! ## Reading -/

/-- Where a reader of expressions stands. -/
structure Source where
  expression : String
  rest : List (Token × String)
  /-- The text from the latest token. -/
  latest : String

/-- Reading an expression. -/
abbrev Reading := ExceptT Refusal (StateM Source)

/-- The next token, which is not taken. -/
def peek : Reading (Option Token) := do return ((← get).rest.head?).map (·.1)

/-- Drops the next token. -/
def skip : Reading Unit :=
  modify fun source =>
    { source with
      rest := source.rest.tail
      latest := (source.rest.head?.map (·.2)).getD source.latest }

/-- Refuses the expression at the next token, or at the latest one if there is no other. -/
def refuse (complaint : String) : Reading α := do
  let source ← get
  match source.rest with
  | (.invalid written complaint, rest) :: _ =>
    let length := source.expression.length - rest.length
    let before := String.ofList (source.expression.toList.take length)
    throw ⟨before ++ written, complaint, written⟩
  | (_, rest) :: _ => throw ⟨source.expression, complaint, rest⟩
  | [] => throw ⟨source.expression, complaint, source.latest⟩

/-- Takes the next token if it is a given sign. -/
def accept (sign : String) : Reading Bool := do
  if (← peek) == some (.sign sign) then
    skip
    return true
  return false

/-- The text behind the latest token without blanks at its start. -/
def behind : Reading String := do return (((← get).rest.head?).map (·.2)).getD ""

/-- The number that a sign adds to a variable. -/
def change? (sign : String) : Option Int :=
  match sign with
  | "++" => some 1
  | "--" => some (-1)
  | _ => none

/-- Reads a variable and a sign behind it that steps it. -/
def stepped (place : Place) : Reading Computation := do
  match ← peek with
  | some (.sign sign) =>
    match change? sign with
    | some change =>
      skip
      return .step place change true
    | none => return .read place
  | _ => return .read place

/-- Reads a number, a variable, something in parentheses, or one of these behind signs; `whole`
reads an expression one level below. -/
def primary (whole : Reading Computation) : Nat → Reading Computation
  | 0 => refuse "syntax error: operand expected"
  | n + 1 => do
    match ← peek with
    | some (.number value) =>
      skip
      return .number value
    | some (.place place) =>
      skip
      stepped place
    | some (.sign sign) =>
      match sign, change? sign with
      | "(", _ =>
        skip
        let e ← whole
        if ← accept ")" then return e else refuse "missing \x60)'"
      | "+", _ =>
        skip
        primary whole n
      | "-", _ =>
        skip
        return .negative (← primary whole n)
      | "!", _ =>
        skip
        return .isZero (← primary whole n)
      | "~", _ =>
        skip
        return .complement (← primary whole n)
      | _, some change =>
        skip
        match ← peek with
        | some (.place place) =>
          skip
          return .step place change false
        | _ => refuse "syntax error: operand expected"
      | _, none => refuse "syntax error: operand expected"
    | _ => refuse "syntax error: operand expected"

/-- Reads powers, the last of them first. -/
def powers (operand : Reading Computation) : Nat → Reading Computation
  | 0 => operand
  | n + 1 => do
    let a ← operand
    if ← accept "**" then
      let text ← behind
      return .power a (← powers operand n) text
    return a

/-- Reads on behind an operand: the operators of a level and their operands. -/
def chain (operators : List (String × Binary)) (operand : Reading Computation) :
    Nat → Computation → Reading Computation
  | 0, a => return a
  | n + 1, a => do
    match ← peek with
    | some (.sign sign) =>
      match operators.find? fun o => o.1 == sign with
      | some (_, operator) =>
        skip
        let text ← behind
        let b ← operand
        chain operators operand n (.binary operator a b text)
      | none => return a
    | _ => return a

/-- Reads operands and the operators of the given levels, the loosest of them first. -/
def operations (whole : Reading Computation) (room : Nat) :
    List (List (String × Binary)) → Reading Computation
  | [] => powers (primary whole room) room
  | level :: levels => do
    let operand := operations whole room levels
    chain level operand room (← operand)

/-- Reads operands that are linked by a logical operator. -/
def logical (sign : String) (link : Computation → Computation → Computation)
    (operand : Reading Computation) : Nat → Reading Computation
  | 0 => operand
  | n + 1 => do
    let a ← operand
    if ← accept sign then return link a (← logical sign link operand n) else return a

/-- Reads a choice, or what can stand for its test. -/
def choice (whole : Reading Computation) (room : Nat) : Nat → Reading Computation
  | 0 => refuse "syntax error: operand expected"
  | n + 1 => do
    let conjunction := logical "&&" .both (operations whole room Expression.levels.reverse) room
    let test ← logical "||" .either conjunction room
    if ← accept "?" then
      let a ← whole
      if ← accept ":" then return .choose test a (← choice whole room n)
      else refuse "\x60:' expected for conditional expression"
    else return test

/-- Reads an assignment, or what can stand in one; `below` reads one a level below. -/
def assignment (below whole : Reading Computation) (room : Nat) : Reading Computation := do
  match (← get).rest with
  | (.place place, _) :: (.sign sign, _) :: _ =>
    match Expression.assignments.find? fun a => a.1 == sign with
    | some (_, operator) =>
      skip
      skip
      let text ← behind
      let e ← below
      return match operator with
        | none => .assign place e
        | some operator => .update operator place e text
    | none => choice whole room room
  | _ =>
    let e ← choice whole room room
    match ← peek with
    | some (.sign sign) =>
      if Expression.assignments.any fun a => a.1 == sign then
        refuse "attempted assignment to non-variable"
      return e
    | _ => return e

/-- Reads expressions behind one another, with at most as many levels inside. -/
def expressions : Nat → Reading Computation
  | 0 => refuse "syntax error: operand expected"
  | n + 1 => do
    let room := (← get).rest.length + 1
    let rec assignments : Nat → Reading Computation
      | 0 => refuse "syntax error: operand expected"
      | k + 1 => assignment (assignments k) (expressions n) room
    let first ← assignments room
    if ← accept "," then return .sequence first (← expressions n) else return first

/-- The expression that a text is; an empty one is zero. -/
def read? (text : String) : Except Refusal Computation :=
  let ts := tokens (text.length + 1) false text.toList
  if ts.isEmpty then .ok (.number 0)
  else
    let text := String.ofList (text.toList.dropWhile Char.isWhitespace)
    let whole : Reading Computation := do
      let e ← expressions (ts.length + 1)
      if (← get).rest.isEmpty then return e
      refuse "syntax error in expression"
    (whole.run ⟨text, ts, ""⟩).1

/-! ## Computing -/

/-- A power. -/
def powerOf (a : Int) (b : Nat) : Int :=
  let rec go : Nat → (base result : Int) → Nat → Int
    | 0, _, result, _ => result
    | n + 1, base, result, b =>
      if b == 0 then result
      else
        let result := if b % 2 == 1 then wrapNumber (result * base) else result
        go n (wrapNumber (base * base)) result (b / 2)
  go 64 a 1 b

/-- What an expression is computed with. -/
structure Access (m : Type → Type) where
  lookup : Place → m Int
  assign : Place → Int → m Unit
  /-- Takes a complaint and the text from what is wrong. -/
  refuse : (complaint behind : String) → m Int

/-- What an operator gives. -/
def operate {m : Type → Type} [Monad m] (access : Access m) (operator : Binary) (a b : Int)
    (behind : String) : m Int :=
  match Expression.Binary.apply operator a b with
  | .ok n => return n
  | .error _ => access.refuse "division by 0" behind

/-- Computes an expression. -/
def value {m : Type → Type} [Monad m] (access : Access m) : Computation → m Int
  | .number n => return n
  | .read place => access.lookup place
  | .negative e => do return wrapNumber (-(← value access e))
  | .isZero e => do return Expression.ofBool ((← value access e) == 0)
  | .complement e => do return -(← value access e) - 1
  | .binary operator a b behind => do
    let a ← value access a
    let b ← value access b
    operate access operator a b behind
  | .power a b behind => do
    let a ← value access a
    let b ← value access b
    if b < 0 then
      let rest := (behind.toList.dropWhile fun c => c == '-' || c.isWhitespace)
      access.refuse "exponent less than 0" (String.ofList rest)
    else return powerOf a b.toNat
  | .both a b => do
    if (← value access a) == 0 then return 0
    else return Expression.ofBool ((← value access b) != 0)
  | .either a b => do
    if (← value access a) != 0 then return 1
    else return Expression.ofBool ((← value access b) != 0)
  | .choose test a b => do
    if (← value access test) != 0 then value access a else value access b
  | .sequence a b => do
    let _ ← value access a
    value access b
  | .assign place e => do
    let n ← value access e
    access.assign place n
    return n
  | .update operator place e behind => do
    let a ← access.lookup place
    let b ← value access e
    let n ← operate access operator a b behind
    access.assign place n
    return n
  | .step place change isBefore => do
    let old ← access.lookup place
    let new := wrapNumber (old + change)
    access.assign place new
    return if isBefore then old else new

end Computation

end PointerTagging.Host.Shell
