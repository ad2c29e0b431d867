import PointerTagging.Host.Escape
import PointerTagging.Host.Shell.Arithmetic
import PointerTagging.Host.Tree
/-!
# Conditions

What `test` computes: comparisons of texts and numbers, questions about files, and their
combinations. Words are read from the left; a word is an operator only where the words around it
leave it a use.
-/

namespace PointerTagging.Host

open Shell

namespace Condition

/-- The operators with two operands. -/
def binaryOperators : List String :=
  ["=", "!=", "<", ">", "-eq", "-ne", "-lt", "-le", "-gt", "-ge", "-nt", "-ot", "-ef"]

/-- The operators in front of a single operand. -/
def unaryOperators : List String :=
  ["-r", "-w", "-x", "-e", "-f", "-d", "-c", "-b", "-p", "-u", "-g", "-k", "-s", "-t", "-z", "-n",
    "-h", "-O", "-G", "-L", "-S"]

/-- The other words with a meaning. -/
def linkOperators : List String := ["!", "-a", "-o", "(", ")"]

/-- How a word is understood. -/
inductive Role where
  /-- There is no word. -/
  | missing
  | operand
  | operator (text : String)
  deriving DecidableEq, Repr

/-- True of words whose first one is an operand although it is spelled like a unary operator: the
last word, or one before a binary operator with something behind it. -/
def isOperand : List String → Bool
  | _ :: operator :: _ :: _ => binaryOperators.contains operator
  | _ :: _ :: _ => false
  | _ => true

/-- The role of the first of some words. -/
def role : List String → Role
  | [] => .missing
  | word :: words =>
    if unaryOperators.contains word then
      if isOperand (word :: words) then .operand else .operator word
    else if word == "(" && words.isEmpty then .operand
    else if binaryOperators.contains word || linkOperators.contains word then .operator word
    else .operand

/-- Why a condition is refused. -/
inductive Complaint where
  | notANumber (operand : String)
  | missingBracket
  | missingParenthesis
  | missingOperand (operator : String)
  | unexpected (word : String)
  deriving DecidableEq, Repr

/-- The text of a complaint as each program words it. -/
def Complaint.message (printer : Printer) : Complaint → String
  | .notANumber operand =>
    match printer with
    | .builtin => "Illegal number: " ++ operand
    | _ => "invalid integer " ++ quotation operand
  | .missingBracket =>
    match printer with
    | .builtin => "missing ]"
    | _ => "missing ']'"
  | .missingParenthesis =>
    match printer with
    | .builtin => "closing paren expected"
    | _ => "')' expected"
  | .missingOperand operator =>
    match printer with
    | .builtin => operator ++ ": argument expected"
    | _ => "missing argument after " ++ quotation operator
  | .unexpected word =>
    match printer with
    | .builtin => if word.isEmpty then "unexpected operator" else word ++ ": unexpected operator"
    | _ => "extra argument " ++ quotation word

/-- Where questions about files are asked. -/
structure Scene where
  tree : Tree
  place : List String

/-- The answer to a question about a file or a text. -/
def Scene.unary (scene : Scene) (operator operand : String) : Bool :=
  let file : Option File := ((scene.tree.locate scene.place operand).toOption).map (·.2)
  match operator with
  | "-z" => operand.isEmpty
  | "-n" => !operand.isEmpty
  | "-t" => false
  | "-e" => file.isSome
  | "-r" => file.isSome
  | "-w" => file.isSome
  | "-O" => file.isSome
  | "-G" => file.isSome
  | "-f" => scene.tree.isFile scene.place operand
  | "-d" => file == some .directory
  | "-h" => scene.tree.isLink scene.place operand
  | "-L" => scene.tree.isLink scene.place operand
  | "-c" => [some .nothing, some .zeros, some .full, some .device].contains file
  | "-x" =>
    match file with
    | some .directory => true
    | some (.program _) => true
    | some (.ordinary _ mode) => Tree.isRunnable mode
    | _ => false
  | "-s" =>
    match file with
    | some (.ordinary text _) => !text.isEmpty
    | some .directory => true
    | some (.program _) => true
    | _ => false
  | _ => false

/-- The number that an operand is. -/
def number (operand : String) : Except Complaint Int :=
  match numberOf? false operand with
  | some n => .ok n
  | none => .error (.notANumber operand)

/-- The answer to a comparison. -/
def Scene.binary (scene : Scene) (operator a b : String) : Except Complaint Bool :=
  let numbers (compare : Int → Int → Bool) : Except Complaint Bool := do
    return compare (← number a) (← number b)
  match operator with
  | "=" => .ok (a == b)
  | "!=" => .ok (a != b)
  | "<" => .ok (a < b)
  | ">" => .ok (b < a)
  | "-eq" => numbers fun a b => a == b
  | "-ne" => numbers fun a b => a != b
  | "-lt" => numbers fun a b => a < b
  | "-le" => numbers fun a b => a ≤ b
  | "-gt" => numbers fun a b => a > b
  | "-ge" => numbers fun a b => a ≥ b
  | "-ef" =>
    match scene.tree.locate scene.place a, scene.tree.locate scene.place b with
    | .ok (p, _), .ok (q, _) => .ok (p == q)
    | _, _ => .ok false
  | _ => .ok false

/-- A reader of words. The first word that is left is the last one read. -/
abbrev Reader := StateT (List String) (Except Complaint)

/-- The role of the word `n` words on. -/
def roleAt (n : Nat) : Reader Role := do return role ((← get).drop n)

/-- Goes on by some words. -/
def advance (n : Nat) : Reader Unit := modify (List.drop n)

/-- The word that is read now. -/
def word : Reader String := do return (← get).headD ""

/-- What a single operand or an operator with its operands says; `whole` reads what is inside
parentheses. -/
def primary (scene : Scene) (whole : Role → Reader Bool) (first : Role) : Reader Bool := do
  match first with
  | .missing => return false
  | .operator "(" =>
    advance 1
    match ← roleAt 0 with
    | .operator ")" => return false
    | next =>
      let result ← whole next
      advance 1
      match ← roleAt 0 with
      | .operator ")" => return result
      | _ => throw .missingParenthesis
  | first =>
    let a ← word
    let isUnary :=
      match first with
      | .operator operator => unaryOperators.contains operator
      | _ => false
    if isUnary then
      advance 1
      if (← get).isEmpty then throw (.missingOperand a)
      return scene.unary a (← word)
    match ← roleAt 1 with
    | .operator operator =>
      if binaryOperators.contains operator then
        advance 2
        if (← get).isEmpty then throw (.missingOperand operator)
        scene.binary operator a (← word)
      else return !a.isEmpty
    | _ => return !a.isEmpty

/-- What an operand says, turned round behind `!`. -/
def negation (scene : Scene) (whole : Role → Reader Bool) : Nat → Role → Reader Bool
  | 0, _ => return false
  | n + 1, first => do
    if first == .operator "!" then
      let next ← roleAt 1
      if next != .missing then advance 1
      return !(← negation scene whole n next)
    else primary scene whole first

/-- What operands say that are linked by an operator, combined by `link`. -/
def chain (operator : String) (link : Bool → Bool → Bool) (operand : Role → Reader Bool) :
    Nat → Role → Reader Bool
  | 0, first => operand first
  | n + 1, first => do
    let a ← operand first
    if (← roleAt 1) == .operator operator then
      advance 2
      return link a (← chain operator link operand n (← roleAt 0))
    else return a

/-- What a condition says that has at most as many levels. -/
def disjunction (scene : Scene) : Nat → Role → Reader Bool
  | 0, _ => return false
  | n + 1, first => do
    let room := (← get).length + 1
    let operand := negation scene (disjunction scene n) room
    chain "-o" or (chain "-a" and operand room) room first

/-- Reads a condition from its start. -/
def evaluate (scene : Scene) (words : List String) (first : Role) : Except Complaint Bool := do
  let (result, rest) ← (disjunction scene (words.length + 1) first).run words
  match rest with
  | word :: _ :: _ => .error (.unexpected word)
  | _ => .ok result

/-- What a condition says; the number of its words decides how they are understood. -/
def holds (scene : Scene) : Nat → List String → Except Complaint Bool
  | _, [] => .ok false
  | 0, words => evaluate scene words (role words)
  | n + 1, words =>
    match words with
    | [_, operator, _] =>
      if binaryOperators.contains operator then evaluate scene words .operand
      else bracketed n words
    | [_, _, _, _] => bracketed n words
    | words => evaluate scene words (role words)
where
  /-- A condition of three or four words that begins with a parenthesis or a negation. -/
  bracketed (n : Nat) (words : List String) : Except Complaint Bool :=
    match words with
    | "!" :: rest => (holds scene n rest).map not
    | "(" :: rest =>
      if rest.getLast? == some ")" then evaluate scene rest.dropLast (role rest.dropLast)
      else evaluate scene words (role words)
    | words => evaluate scene words (role words)

/-- What `test` computes from its arguments; under the name `[` the last one closes the brackets.
-/
def test (scene : Scene) (name : String) (arguments : List String) : Except Complaint Bool :=
  if name == "[" then
    if arguments.getLast? == some "]" then holds scene 4 arguments.dropLast
    else .error .missingBracket
  else holds scene 4 arguments

end Condition

end PointerTagging.Host
