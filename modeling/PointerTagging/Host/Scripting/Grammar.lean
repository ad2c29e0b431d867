import PointerTagging.Host.Regex
/-!
# Scripts

The expressions and the statements of scripts: programs that work on variables for single values,
for arrays and for tables, with references between them.
-/

namespace PointerTagging.Host.Scripting

/-- What a name may stand for. -/
inductive Kind where
  | scalar
  | array
  | hash
  | code
  deriving DecidableEq, Repr

/-- The sign that stands before names of a kind. -/
def Kind.sign : Kind → Char
  | .scalar => '$'
  | .array => '@'
  | .hash => '%'
  | .code => '&'

/-- The operators that work on the values of both operands. -/
inductive Operator where
  | add
  | subtract
  | multiply
  | divide
  | remainder
  | power
  | concatenate
  /-- A text, or a list, several times. -/
  | duplicate
  | shiftLeft
  | shiftRight
  | bitAnd
  | bitOr
  | bitXor
  | equal
  | different
  | less
  | greater
  | atMost
  | atLeast
  | compare
  | sameText
  | otherText
  | before
  | behind
  | notBehind
  | notBefore
  | compareText
  | exclusive
  deriving DecidableEq, Repr

/-- The operators that evaluate their second operand only if the first one leaves it open. -/
inductive Choice where
  | both
  | either
  /-- The second operand is taken if the first one has no value. -/
  | otherwise
  deriving DecidableEq, Repr

/-- The signs before an operand. -/
inductive Sign where
  | plus
  | minus
  | not
  | complement
  deriving DecidableEq, Repr

/-- How values are printed. -/
inductive Printing where
  | plain
  | line
  | formatted
  deriving DecidableEq, Repr

mutual

/-- An expression. -/
inductive Expr where
  | whole (n : Int)
  | real (x : Float)
  | text (s : String)
  /-- The texts of some expressions one behind the other. -/
  | joined (parts : List Expr)
  /-- The texts of a list with the separator of lists between them. -/
  | spread (list : Expr)
  /-- A variable. -/
  | named (kind : Kind) (name : String)
  /-- New variables: those of the block, or those that are known everywhere. -/
  | declared (isLexical : Bool) (targets : List (Kind × String)) (isList : Bool)
  /-- A variable that is set back at the end of the block. -/
  | localized (target : Expr)
  /-- What a reference leads to. -/
  | target (kind : Kind) (reference : Expr)
  | item (array index : Expr)
  | entry (hash key : Expr)
  | someItems (array indices : Expr)
  | someEntries (hash keys : Expr)
  | someOf (list indices : Expr)
  | lastIndex (array : Expr)
  | call (code : Expr) (arguments : List Expr)
  /-- A function with the arguments that the calling one has been given. -/
  | callOn (code : Expr)
  /-- A function of the language, or one of the script if there is none of that name. -/
  | function (name : String) (arguments : List Expr)
  | method (receiver : Expr) (name : String) (arguments : List Expr)
  /-- A function of the language that runs a block for the members of a list. -/
  | through (name : String) (body : List Statement) (list : List Expr)
  /-- A list in an order that a function gives. -/
  | sorted (order : Option Expr) (list : List Expr)
  | operation (operator : Operator) (a b : Expr)
  | choice (choice : Choice) (a b : Expr)
  | signed (sign : Sign) (a : Expr)
  /-- One more or one less; the value is the new one if `isBefore`. -/
  | step (isBefore isUp : Bool) (target : Expr)
  | condition (test whenTrue whenFalse : Expr)
  | assign (target value : Expr)
  | update (operator : Operator) (target value : Expr)
  | updateIf (choice : Choice) (target value : Expr)
  | list (items : List Expr)
  | newArray (items : List Expr)
  | newHash (items : List Expr)
  | reference (target : Expr)
  | newCode (body : List Statement)
  | block (body : List Statement)
  /-- A block whose errors end only itself. -/
  | guarded (body : List Statement)
  /-- True if a pattern is found. -/
  | found (target : Option Expr) (pattern : Expr) (flags : String)
  | notFound (target : Option Expr) (pattern : Expr) (flags : String)
  | substitute (target : Option Expr) (pattern replacement : Expr) (flags : String)
  | transliterate (target : Option Expr) (source replacement : List Char) (flags : String)
  | pattern (pattern : Expr) (flags : String)
  | readLine (handle : Expr)
  | command (text : Expr)
  | fileTest (letter : Char) (file : Expr)
  /-- All values from one to another one, or whether the time between two tests runs; ranges are
  told apart by their numbers. -/
  | range (n : Nat) (a b : Expr)
  | print (printing : Printing) (handle : Option Expr) (items : List Expr)

/-- A statement. -/
inductive Statement where
  | expression (line : Nat) (e : Expr)
  /-- The block of the first test that is passed, or the last one. -/
  | choose (line : Nat) (branches : List (Expr × List Statement)) (other : List Statement)
  /-- A loop with a test before each round and a step behind it. -/
  | loop (line : Nat) (label : String) (test : Option Expr) (body : List Statement)
    (step : Option Expr)
  /-- A block that is run once more as long as a test is passed. -/
  | again (line : Nat) (body : List Statement) (test : Expr)
  /-- A loop over the members of a list; `isLexical` says that the variable is one of the block. -/
  | each (line : Nat) (label : String) (isLexical : Bool) (name : String) (list : Expr)
    (body : List Statement)
  | block (label : String) (body : List Statement)
  | function (name : String) (body : List Statement)

end

/-- The statements of a block. -/
abbrev Block := List Statement

/-- A script. -/
structure Script where
  body : Block
  /-- The blocks to run at the end, the last one first. -/
  ending : List Block
  /-- The text behind the mark that ends the script. -/
  data : Option String

end PointerTagging.Host.Scripting
