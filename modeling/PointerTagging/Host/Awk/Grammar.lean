import PointerTagging.Host.Regex
/-!
# Programs that scan records

The expressions and the commands of programs that are run for each record of their input.
-/

namespace PointerTagging.Host.Awk

/-- The operators of arithmetic. -/
inductive Operator where
  | plus
  | minus
  | times
  | divide
  | modulo
  | power
  deriving DecidableEq, Repr

/-- The comparisons. -/
inductive Comparison where
  | less
  | atMost
  | equal
  | different
  | greater
  | atLeast
  deriving DecidableEq, Repr

/-- Where a line is read from. -/
inductive Source where
  | main
  | file
  | command
  deriving DecidableEq, Repr

/-- An expression. -/
inductive Expr where
  | number (value : Float)
  | text (value : String)
  | regex (regex : Regex)
  | name (name : String)
  | field (index : Expr)
  | element (array : String) (indices : List Expr)
  | assign (operator : Option Operator) (target value : Expr)
  | choose (condition whenTrue whenFalse : Expr)
  | both (a b : Expr)
  | either (a b : Expr)
  | not (a : Expr)
  | negate (a : Expr)
  | plus (a : Expr)
  | arithmetic (operator : Operator) (a b : Expr)
  | compare (comparison : Comparison) (a b : Expr)
  | join (a b : Expr)
  | «match» (negated : Bool) (a b : Expr)
  | member (indices : List Expr) (array : String)
  /-- The target with one more or one less; the value is the new one if `isBefore`. -/
  | step (isBefore : Bool) (operator : Operator) (target : Expr)
  | call (function : String) (arguments : List Expr)
  | builtin (name : String) (arguments : List Expr)
  | getline (source : Source) (from? : Option Expr) (target : Option Expr)
  /-- Expressions in parentheses that are no single one. -/
  | group (members : List Expr)
  deriving Repr

/-- Where output goes. -/
inductive Direction where
  | file (appends : Bool)
  | command
  deriving DecidableEq, Repr

/-- A command. -/
inductive Statement where
  | block (statements : List Statement)
  | expression (expr : Expr)
  | print (arguments : List Expr) (target : Option (Direction × Expr))
  | printf (arguments : List Expr) (target : Option (Direction × Expr))
  | ifElse (condition : Expr) (whenTrue : Statement) (whenFalse : Option Statement)
  | while (condition : Expr) (body : Statement)
  | doWhile (body : Statement) (condition : Expr)
  | for (start : Option Statement) (condition : Option Expr) (step : Option Statement)
      (body : Statement)
  | forIn (name array : String) (body : Statement)
  | next
  | nextFile
  | exit (code : Option Expr)
  | return (value : Option Expr)
  | break
  | continue
  | delete (array : String) (indices : List Expr)
  deriving Repr

/-- When a rule is applied. -/
inductive Pattern where
  | begin
  | ending
  | always
  | when (condition : Expr)
  | range (first last : Expr)
  deriving Repr

/-- A rule; without an action it prints the record. -/
structure Rule where
  pattern : Pattern
  action : Option Statement
  deriving Repr

/-- A function. -/
structure Function where
  name : String
  parameters : List String
  body : Statement
  deriving Repr

/-- A program. -/
structure Program where
  rules : List Rule
  functions : List Function
  deriving Repr

end PointerTagging.Host.Awk
