import PointerTagging.Host.Escape
import PointerTagging.Host.Regex.Reading
import PointerTagging.Host.Utility.View
/-!
# Calculating

The expressions that `expr` computes from its arguments. Values are texts, some of which are whole
numbers of any size.
-/

namespace PointerTagging.Host.Tool

open Text

namespace Calculation

/-- What is left of the words, behind the last one that has been taken. -/
structure Words where
  previous : String
  rest : List String
  /-- What is read does not count, and is not computed. -/
  isIdle : Bool

/-- Reading an expression from its words; what fails is a complaint. -/
abbrev Reading := ExceptT String (StateM Words)

/-- The number that a value is. -/
def number? (value : String) : Option Int :=
  let (negative, digits) :=
    match value.toList with
    | '-' :: cs => (true, cs)
    | cs => (false, cs)
  if digits.isEmpty then none
  else (Numeral.valueFrom 10 0 digits).map fun n => if negative then -(n : Int) else n

/-- The number that a value has to be. -/
def integer (value : String) : Reading Int := do
  match number? value with
  | some n => return n
  | none => throw "non-integer argument"

/-- True of a value that counts as false. -/
def isNull (value : String) : Bool := value.isEmpty || number? value == some 0

/-- What a text matches at its start: what the group of the pattern has matched if it has one, else
the length of the match. -/
def matchStart (text pattern : String) : Reading String := do
  if (← get).isIdle then return ""
  match Regex.parse .basic pattern with
  | .error error => throw error.message
  | .ok (regex, _) =>
    let hasGroup := regex.groupCount > 0
    let start := Regex.Place.start text
    return match Regex.matchAt? ⟨false, true⟩ regex start with
      | some ending =>
        if hasGroup then (ending.group? 1).getD "" else Numeral.decimal ending.index
      | none => if hasGroup then "" else "0"

/-- What an operator makes of two values. -/
def combine (operator a b : String) : Reading String := do
  let numbers (f : Int → Int → Int) : Reading String := do
    return toString (f (← integer a) (← integer b))
  let divided (f : Int → Int → Int) : Reading String := do
    let _ ← integer a
    if (← integer b) == 0 then throw "division by zero"
    numbers f
  let compared (ofInts : Int → Int → Bool) (ofTexts : String → String → Bool) :
      Reading String :=
    let result :=
      match number? a, number? b with
      | some a, some b => ofInts a b
      | _, _ => ofTexts a b
    return if result then "1" else "0"
  if (← get).isIdle then return ""
  match operator with
  | "|" => return if isNull a then (if isNull b then "0" else b) else a
  | "&" => return if isNull a || isNull b then "0" else a
  | "=" => compared (· == ·) (· == ·)
  | "==" => compared (· == ·) (· == ·)
  | "!=" => compared (· != ·) (· != ·)
  | "<" => compared (· < ·) (· < ·)
  | "<=" => compared (· ≤ ·) (· ≤ ·)
  | ">" => compared (· > ·) (fun a b => b < a)
  | ">=" => compared (· ≥ ·) (fun a b => b ≤ a)
  | "+" => numbers (· + ·)
  | "-" => numbers (· - ·)
  | "*" => numbers (· * ·)
  | "/" => divided Int.tdiv
  | "%" => divided Int.tmod
  | _ => matchStart a b

/-- The operators from the one that binds loosest, by levels. -/
def levels : List (List String) :=
  [["|"], ["&"], ["=", "==", "!=", "<", "<=", ">", ">="], ["+", "-"], ["*", "/", "%"], [":"]]

/-- Takes the next word; there has to be one. -/
def next : Reading String := do
  let words ← get
  match words.rest with
  | [] => throw ("syntax error: missing argument after " ++ quotation words.previous)
  | word :: rest =>
    set { words with previous := word, rest }
    return word

/-- Takes the next word if it is the given one. -/
def accept (word : String) : Reading Bool := do
  if (← get).rest.head? == some word then
    let _ ← next
    return true
  return false

/-- A part of a text, from a position that counts from one. -/
def portion (text : String) (position length : Option Int) : String :=
  match position, length with
  | some position, some length =>
    if position ≤ 0 || length ≤ 0 then ""
    else ((text.drop (position.toNat - 1)).take length.toNat).toString
  | _, _ => ""

/-- The position of the first character that is one of some others, 0 if there is none. -/
def position (text others : String) : Nat :=
  let before := text.toList.takeWhile (!others.toList.contains ·)
  if before.length == text.length then 0 else before.length + 1

/-- Reads a word, or an expression in parentheses. -/
def primary (whole : Reading String) : Reading String := do
  if ← accept "(" then
    let value ← whole
    let words ← get
    match words.rest with
    | [] => throw ("syntax error: expecting ')' after " ++ quotation words.previous)
    | word :: _ =>
      if word != ")" then
        throw ("syntax error: expecting ')' instead of " ++ quotation word)
      let _ ← next
      return value
  if (← get).rest.head? == some ")" then throw "syntax error: unexpected ')'"
  next

/-- Reads an operation that is named by a word in front, or what binds tighter. -/
def named (whole : Reading String) : Nat → Reading String
  | 0 => primary whole
  | n + 1 => do
    if ← accept "+" then next
    else if ← accept "length" then
      return Numeral.decimal (← named whole n).length
    else if ← accept "match" then
      let text ← named whole n
      matchStart text (← named whole n)
    else if ← accept "index" then
      let text ← named whole n
      return Numeral.decimal (position text (← named whole n))
    else if ← accept "substr" then
      let text ← named whole n
      let start ← named whole n
      return portion text (number? start) (number? (← named whole n))
    else primary whole

/-- Reads on behind a value: the operators of a level and what follows them. What follows a value
that decides the result is read, but not computed. -/
def chain (operators : List String) (operand : Reading String) : Nat → String → Reading String
  | 0, a => return a
  | n + 1, a => do
    match (← get).rest with
    | operator :: _ =>
      if !operators.contains operator then return a
      let _ ← next
      let isDecided := (operator == "|" && !isNull a) || (operator == "&" && isNull a)
      let isIdle := (← get).isIdle
      modify fun words => { words with isIdle := isIdle || isDecided }
      let b ← operand
      modify fun words => { words with isIdle }
      chain operators operand n (← combine operator a b)
    | [] => return a

/-- Reads values and the operators of the given levels. -/
def operations (whole : Reading String) (room : Nat) : List (List String) → Reading String
  | [] => named whole room
  | level :: levels => do
    let operand := operations whole room levels
    chain level operand room (← operand)

/-- Reads an expression with at most as many levels. -/
def expression : Nat → Reading String
  | 0 => throw "syntax error"
  | n + 1 => do operations (expression n) ((← get).rest.length + 1) levels

end Calculation

open Calculation in
/-- Computes an expression. -/
def expr (view : View) : Outcome :=
  let words := if view.arguments.head? == some "--" then view.arguments.drop 1 else view.arguments
  if words.isEmpty then view.misused 2 "missing operand"
  else
    match (expression (words.length + 1)).run ⟨"", words, false⟩ with
    | (.error complaint, _) => view.failing 2 complaint
    | (.ok value, left) =>
      match left.rest with
      | [] => { Outcome.printing (value ++ "\n") with code := if isNull value then 1 else 0 }
      | word :: _ => view.failing 2 ("syntax error: unexpected argument " ++ quotation word)

end PointerTagging.Host.Tool
