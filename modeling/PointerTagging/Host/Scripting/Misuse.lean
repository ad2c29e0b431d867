import PointerTagging.Host.Scripting.Calling
/-!
# Values that are misused

What is said of values that are missing where they are used, and of texts that are used as numbers.
-/

namespace PointerTagging.Host.Scripting

/-- What an operator is called in messages. -/
def Operator.title : Operator → String
  | .add => "addition (+)"
  | .subtract => "subtraction (-)"
  | .multiply => "multiplication (*)"
  | .divide => "division (/)"
  | .remainder => "modulus (%)"
  | .power => "exponentiation (**)"
  | .concatenate => "concatenation (.) or string"
  | .duplicate => "repeat (x)"
  | .shiftLeft => "left bitshift (<<)"
  | .shiftRight => "right bitshift (>>)"
  | .bitAnd => "bitwise and (&)"
  | .bitOr => "bitwise or (|)"
  | .bitXor => "bitwise xor (^)"
  | .equal => "numeric eq (==)"
  | .different => "numeric ne (!=)"
  | .less => "numeric lt (<)"
  | .greater => "numeric gt (>)"
  | .atMost => "numeric le (<=)"
  | .atLeast => "numeric ge (>=)"
  | .compare => "numeric comparison (<=>)"
  | .sameText => "string eq"
  | .otherText => "string ne"
  | .before => "string lt"
  | .behind => "string gt"
  | .notBehind => "string le"
  | .notBefore => "string ge"
  | .compareText => "string comparison (cmp)"
  | .exclusive => "logical xor"

/-- True of an operator that works on texts. -/
def Operator.isTextual : Operator → Bool
  | .concatenate => true
  | .sameText => true
  | .otherText => true
  | .before => true
  | .behind => true
  | .notBehind => true
  | .notBefore => true
  | .compareText => true
  | _ => false

/-- How an operand is shown in messages, with a blank before it. -/
def operandText : Expr → String
  | .named .scalar name => " $" ++ name
  | .declared _ [(.scalar, name)] _ => " $" ++ name
  | .entry (.named .hash name) (.text key) => " $" ++ name ++ "\x7b\"" ++ key ++ "\"\x7d"
  | .item (.named .array name) (.whole n) => " $" ++ name ++ "[" ++ toString n ++ "]"
  | _ => ""

/-- Says that a value is missing; `operand` shows where it comes from. -/
def warnMissing (run : Interpreter) (operand title : String) : Action Unit := do
  warn run ("Use of uninitialized value" ++ operand ++ " in " ++ title ++ (← placeText))

/-- Looks at the operand of an operator. -/
def checkOperand (run : Interpreter) (operator : Operator) (isNumber : Bool) (e : Expr)
    (value : Value) : Action Unit := do
  match value with
  | .missing => warnMissing run (operandText e) operator.title
  | .text s =>
    if isNumber && !value.looksNumeric then
      let shown := "\"" ++ (s.replace "\n" "\\n") ++ "\""
      warn run ("Argument " ++ shown ++ " isn't numeric in " ++ operator.title ++ (← placeText))
  | _ => return

/-- Looks at the operands of an operator. -/
def checkOperands (run : Interpreter) (operator : Operator) (a b : Expr) (x y : Value) :
    Action Unit := do
  if (← get).source.warns && operator != .exclusive then
    if operator.isTextual then
      checkOperand run operator false a x
      checkOperand run operator false b y
    else
      checkOperand run operator true b y
      checkOperand run operator (operator != .duplicate) a x

/-- Looks at the values that a function works on, and at what it is given for them. -/
def checkValues (run : Interpreter) (title : String) (items : List Expr) (values : List Value) :
    Action Unit := do
  if (← get).source.warns then
    for (value, i) in values.zipIdx do
      match value, items[i]? with
      | .missing, some (.named .scalar name) => warnMissing run (" $" ++ name) title
      | .missing, _ => warnMissing run "" title
      | _, _ => pure ()

/-- Looks at the parts of a text. -/
def checkParts (run : Interpreter) (parts : List Expr) (values : List Value) : Action Unit := do
  if (← get).source.warns then
    let title := if parts.length == 1 then "string" else Operator.concatenate.title
    for (value, part) in values.zip parts do
      match value with
      | .missing => warnMissing run (operandText part) title
      | _ => pure ()

end PointerTagging.Host.Scripting
