import PointerTagging.Host.Awk.Grammar
import PointerTagging.Host.Awk.Lexer
import PointerTagging.Host.Regex.Reading
/-!
# Reading programs that scan records

The rules and the functions of a program, read from its words. Expressions are read level by level,
from the operators that bind loosest.
-/

namespace PointerTagging.Host.Awk

/-- What a reader holds: the words that are left, and what stands around them. -/
structure Reader where
  tokens : List PlacedToken
  /-- The parameters of the function that is read. -/
  locals : List String
  /-- The variables that have been seen; true of arrays. -/
  kinds : List (String × Bool)
  /-- The functions that are called, with the numbers of arguments and the lines. -/
  calls : List (String × Nat × Nat)
  /-- How many loops are open. -/
  loops : Nat
  isInFunction : Bool
  /-- The words are those of a rule for the start or the end. -/
  isOutside : Bool

/-- Reading a program. -/
abbrev Reading := StateT Reader (Except (List Refusal))

/-- The form of expressions. -/
def dialect : Regex.Dialect :=
  { Regex.Dialect.extended with hasEscapes := true, brackets := .all }

/-- What is said of an expression that is none. -/
def regexComplaint (error : Regex.Error) (text : String) : String :=
  let reason :=
    match error with
    | .unmatchedOpen => "missing ')'"
    | .unmatchedClose => "missing '('"
    | .unmatchedBracket => "bad class -- [], [^] or ["
    | _ => "missing operand"
  "regular expression compile failed (" ++ reason ++ ")\n" ++ text

/-- The next word, which is not taken. -/
def peek : Reading Token := do return (((← get).tokens.head?).map (·.token)).getD .ending

/-- The line of the next word. -/
def line : Reading Nat := do return (((← get).tokens.head?).map (·.line)).getD 1

/-- Takes the next word. -/
def advance : Reading Unit := modify fun r => { r with tokens := r.tokens.drop 1 }

/-- Refuses the program because of what stands in a line. -/
def refuseAt {α : Type} (place : Nat) (message : String) : Reading α := throw [⟨place, message⟩]

/-- Refuses the program. -/
def refuse {α : Type} (message : String) : Reading α := do refuseAt (← line) message

/-- Refuses the next word. -/
def unexpected {α : Type} : Reading α := do
  let isEnclosed := (← get).tokens.head?.any (·.isEnclosed)
  match ← peek with
  | .ending => refuse "missing \x7d near end of file"
  | .extra sign => refuse ("extra '" ++ sign ++ "'")
  | token =>
    let isBreak :=
      match token with
      | .newline => true
      | .sign sign => sign == ";" || sign == "\x7d"
      | _ => false
    if isEnclosed && isBreak then refuse ("missing ) near " ++ token.shown)
    else refuse ("syntax error at or near " ++ token.shown)

/-- Notes that a variable is an array, or that it is none. -/
def noteKind (name : String) (isArray : Bool) : Reading Unit := do
  let r ← get
  if r.locals.contains name then return
  match r.kinds.find? fun k => k.1 == name with
  | none => set { r with kinds := (name, isArray) :: r.kinds }
  | some (_, wasArray) =>
    if wasArray != isArray then
      let kind := if wasArray then "array " else "variable "
      refuse ("illegal reference to " ++ kind ++ name)

/-- True if a sign comes next. -/
def isSign (sign : String) : Reading Bool := do
  match ← peek with
  | .sign text => return text == sign
  | _ => return false

/-- True if a word with a meaning of its own comes next. -/
def isWord (word : String) : Reading Bool := do
  match ← peek with
  | .word text => return text == word
  | _ => return false

/-- Takes a sign if it comes next. -/
def accept (sign : String) : Reading Bool := do
  if ← isSign sign then
    advance
    return true
  return false

/-- Takes a word with a meaning of its own if it comes next. -/
def acceptWord (word : String) : Reading Bool := do
  if ← isWord word then
    advance
    return true
  return false

/-- Takes a sign, which has to come next. -/
def expect (sign : String) : Reading Unit := do
  unless ← accept sign do unexpected

/-- Takes line ends. -/
def skipLines : Reading Unit :=
  modify fun r =>
    { r with tokens := r.tokens.dropWhile fun t => match t.token with
      | .newline => true
      | _ => false }

/-- Takes line ends and semicolons. -/
def skipSeparators : Reading Unit :=
  modify fun r =>
    { r with tokens := r.tokens.dropWhile fun t => match t.token with
      | .newline => true
      | .sign text => text == ";"
      | _ => false }

/-- How expressions are read: without the sign that redirects output, and without `in`. -/
structure Mode where
  noGreater : Bool
  noIn : Bool

/-- The readers of whole expressions and of statements, which hold each other. -/
structure Readers where
  expression : Mode → Reading Expr
  statement : Reading Statement

/-- Everything is allowed. -/
def Mode.free : Mode := ⟨false, false⟩

/-- True of expressions that can be assigned to. -/
def isTarget : Expr → Bool
  | .name _ => true
  | .field _ => true
  | .element .. => true
  | _ => false

/-- Reads expressions that commas separate, up to a sign, which is taken. -/
def listUpTo (readers : Readers) (closing : String) : Nat → Reading (List Expr)
  | 0 => return []
  | n + 1 => do
    let first ← readers.expression .free
    if ← accept "," then
      skipLines
      return first :: (← listUpTo readers closing n)
    expect closing
    return [first]

/-- The expression that a text is. -/
def regexOf (text : String) : Reading Regex := do
  match Regex.parse dialect text with
  | .ok (regex, _) => return regex
  | .error error => refuse (regexComplaint error text)

/-- How many arguments the functions that every program has can take. -/
def arity (name : String) : Nat × Nat :=
  match name with
  | "length" => (0, 1)
  | "substr" => (2, 3)
  | "index" => (2, 2)
  | "split" => (2, 3)
  | "sub" => (2, 3)
  | "gsub" => (2, 3)
  | "match" => (2, 2)
  | "sprintf" => (1, 100000)
  | "atan2" => (2, 2)
  | "rand" => (0, 0)
  | "srand" => (0, 1)
  | "fflush" => (0, 1)
  | "systime" => (0, 0)
  | "strftime" => (0, 3)
  | _ => (1, 1)

/-- True if the next word can begin an operand of a concatenation. -/
def beginsOperand : Reading Bool := do
  match ← peek with
  | .number .. => return true
  | .text .. => return true
  | .regex _ => return true
  | .function _ => return true
  | .name _ => return true
  | .builtin _ => return true
  | .sign text => return ["$", "!", "(", "-", "+", "++", "--"].contains text
  | _ => return false

/-- How many words are left, and one more. -/
def room : Reading Nat := do return (← get).tokens.length + 1

/-- Reads an operand that is no operation; `target` reads one that can be assigned to. -/
def operand (readers : Readers) (target : Reading Expr) : Reading Expr := do
  match ← peek with
  | .number value _ =>
    advance
    return .number value
  | .text value _ =>
    advance
    return .text value
  | .regex body =>
    let regex ← regexOf body
    advance
    return .regex regex
  | .name name =>
    advance
    if ← accept "[" then
      noteKind name true
      return .element name (← listUpTo readers "]" (← room))
    if !(← isSign ",") && !(← isSign ")") then noteKind name false
    return .name name
  | .function name =>
    let place ← line
    advance
    expect "("
    let arguments ← if ← accept ")" then pure [] else listUpTo readers ")" (← room)
    modify fun r => { r with calls := (name, arguments.length, place) :: r.calls }
    return .call name arguments
  | .builtin name =>
    let place ← line
    advance
    let arguments ←
      if ← accept "(" then
        if ← accept ")" then pure [] else listUpTo readers ")" (← room)
      else if name == "length" then pure []
      else unexpected
    let (least, most) := arity name
    if arguments.length < least || arguments.length > most then
      refuseAt place ("wrong number of arguments in call to " ++ name)
    return .builtin name arguments
  | .sign "$" =>
    advance
    if ← accept "++" then return .field (.step true .plus (← target))
    if ← accept "--" then return .field (.step true .minus (← target))
    if ← accept "-" then return .field (.negate (← target))
    return .field (← target)
  | .sign "(" =>
    advance
    let members ← listUpTo readers ")" (← room)
    match members with
    | [a] => return .group [a]
    | members =>
      if ← isWord "in" then
        advance
        match ← peek with
        | .name array =>
          advance
          noteKind array true
          return .group [.member members array]
        | _ => unexpected
      return .group members
  | .word "getline" =>
    advance
    let target? ← lvalue?
    if ← accept "<" then
      let file ← target
      return .getline .file (some file) target?
    return .getline .main none target?
  | _ => unexpected
where
  /-- Takes what a line is read into, if there is something. -/
  lvalue? : Reading (Option Expr) := do
    match ← peek with
    | .name _ => return some (← target)
    | .sign "$" => return some (← target)
    | _ => return none

/-- Reads an operand, with as many levels inside. -/
def primary (readers : Readers) : Nat → Reading Expr
  | 0 => unexpected
  | n + 1 => operand readers (primary readers n)

/-- Reads an operand with the signs that step it, and what it is read from. -/
def stepped (readers : Readers) : Reading Expr := do
  let n ← room
  if ← accept "++" then return .step true .plus (← primary readers n)
  if ← accept "--" then return .step true .minus (← primary readers n)
  let a ← primary readers n
  let a ←
    if isTarget a then
      if ← accept "++" then pure (.step false .plus a)
      else if ← accept "--" then pure (.step false .minus a)
      else pure a
    else pure a
  piped a n
where
  /-- Goes on behind a command that lines are read from. -/
  piped (a : Expr) : Nat → Reading Expr
    | 0 => return a
    | n + 1 => do
      match (← get).tokens.map PlacedToken.token with
      | .sign "|" :: .word "getline" :: _ =>
        advance
        advance
        let target ←
          match ← peek with
          | .name _ => do pure (some (← primary readers (← room)))
          | .sign "$" => do pure (some (← primary readers (← room)))
          | _ => pure none
        piped (.getline .command (some a) target) n
      | _ => return a

/-- Reads a power and the signs in front of one. -/
def signed (readers : Readers) : Nat → Reading Expr
  | 0 => unexpected
  | n + 1 => do
    if ← accept "!" then return .not (← signed readers n)
    if ← accept "-" then return .negate (← signed readers n)
    if ← accept "+" then return .plus (← signed readers n)
    let base ← stepped readers
    if ← accept "^" then return .arithmetic .power base (← signed readers n)
    return base

/-- Reads on behind an operand: operators of one level and their operands. -/
def chain (operators : List (String × (Expr → Expr → Expr))) (operand : Reading Expr) :
    Nat → Expr → Reading Expr
  | 0, a => return a
  | n + 1, a => do
    match ← peek with
    | .sign text =>
      match operators.find? fun o => o.1 == text with
      | some (_, make) =>
        advance
        if text == "&&" || text == "||" then skipLines
        chain operators operand n (make a (← operand))
      | none => return a
    | _ => return a

/-- Reads operands and the operators of one level between them. -/
def level (operators : List (String × (Expr → Expr → Expr))) (operand : Reading Expr) :
    Reading Expr := do chain operators operand (← room) (← operand)

/-- Reads products. -/
def product (readers : Readers) : Reading Expr := do
  level [("*", .arithmetic .times), ("/", .arithmetic .divide), ("%", .arithmetic .modulo)]
    (signed readers (← room))

/-- Reads sums. -/
def sum (readers : Readers) : Reading Expr :=
  level [("+", .arithmetic .plus), ("-", .arithmetic .minus)] (product readers)

/-- Reads on behind a text: what follows it without a sign. -/
def joined (readers : Readers) : Nat → Expr → Reading Expr
  | 0, a => return a
  | n + 1, a => do
    if (← beginsOperand) && !(← isSign "-") && !(← isSign "+") then
      joined readers n (.join a (← sum readers))
    else return a

/-- Reads a comparison. -/
def comparison (readers : Readers) (mode : Mode) : Reading Expr := do
  let a ← joined readers (← room) (← sum readers)
  let signs : List (String × Comparison) :=
    [("<", .less), ("<=", .atMost), ("==", .equal), ("!=", .different), (">=", .atLeast)] ++
      if mode.noGreater then [] else [(">", .greater)]
  match ← peek with
  | .sign text =>
    match signs.find? fun s => s.1 == text with
    | some (_, kind) =>
      advance
      return .compare kind a (← joined readers (← room) (← sum readers))
    | none => return a
  | _ => return a

/-- Reads on behind an operand: matches and memberships. -/
def tests (readers : Readers) (mode : Mode) : Nat → Expr → Reading Expr
  | 0, a => return a
  | n + 1, a => do
    if ← accept "~" then tests readers mode n (.match false a (← comparison readers mode))
    else if ← accept "!~" then tests readers mode n (.match true a (← comparison readers mode))
    else if !mode.noIn && (← isWord "in") then
      advance
      match ← peek with
      | .name array =>
        advance
        noteKind array true
        tests readers mode n (.member [a] array)
      | _ => unexpected
    else return a

/-- Reads expressions that both hold. -/
def conjunction (readers : Readers) (mode : Mode) : Reading Expr :=
  level [("&&", .both)] do tests readers mode (← room) (← comparison readers mode)

/-- Reads expressions of which one holds. -/
def disjunction (readers : Readers) (mode : Mode) : Reading Expr :=
  level [("||", .either)] (conjunction readers mode)

/-- The operators of assignments. -/
def assignments : List (String × Option Operator) :=
  [("=", none), ("+=", some .plus), ("-=", some .minus), ("*=", some .times), ("/=", some .divide),
    ("%=", some .modulo), ("^=", some .power)]

/-- The expression whose last operand is changed, if that can be assigned to. What is assigned binds
only to the operand before the sign. -/
def atLastOperand (make : Expr → Expr) : Expr → Option Expr
  | .name name => some (make (.name name))
  | .field index => some (make (.field index))
  | .element array indices => some (make (.element array indices))
  | .both a b => (atLastOperand make b).map (.both a)
  | .either a b => (atLastOperand make b).map (.either a)
  | .not a => (atLastOperand make a).map .not
  | .negate a => (atLastOperand make a).map .negate
  | .join a b => (atLastOperand make b).map (.join a)
  | .compare kind a b => (atLastOperand make b).map (.compare kind a)
  | .match negated a b => (atLastOperand make b).map (.match negated a)
  | .arithmetic operator a b => (atLastOperand make b).map (.arithmetic operator a)
  | _ => none

/-- Reads an expression with at most as many levels. -/
def expressionWith (readers : Readers) (mode : Mode) : Reading Expr := do
  let a ← disjunction readers mode
  match ← peek with
  | .sign "?" =>
    advance
    skipLines
    let b ← readers.expression mode
    skipLines
    unless ← accept ":" do unexpected
    skipLines
    return .choose a b (← readers.expression mode)
  | .sign text =>
    match assignments.find? fun s => s.1 == text with
    | none => return a
    | some (_, operator) =>
      if (atLastOperand id a).isNone then unexpected
      advance
      skipLines
      let value ← readers.expression mode
      match atLastOperand (fun target => .assign operator target value) a with
      | some whole => return whole
      | none => return a
  | _ => return a

/-! ## Statements -/

/-- Takes the end of a simple statement. -/
def endStatement : Reading Unit := do
  match ← peek with
  | .newline => advance
  | .sign ";" => advance
  | .sign "\x7d" => return
  | .ending => return
  | _ => unexpected

/-- True if a simple statement ends here. -/
def isEnd : Reading Bool := do
  match ← peek with
  | .newline => return true
  | .ending => return true
  | .sign text => return [";", "\x7d", ">", ">>", "|"].contains text
  | _ => return false

/-- Reads expressions that commas separate. -/
def arguments (readers : Readers) : Nat → Reading (List Expr)
  | 0 => return []
  | n + 1 => do
    let first ← readers.expression ⟨true, false⟩
    if ← accept "," then
      skipLines
      return first :: (← arguments readers n)
    return [first]

/-- Reads what is printed, and where it goes. -/
def printed (readers : Readers) : Reading (List Expr × Option (Direction × Expr)) := do
  let all ← if ← isEnd then pure [] else arguments readers (← room)
  let all :=
    match all with
    | [.group members] => members
    | all => all
  let to? : Option Direction ←
    if ← accept ">" then pure (some (.file false))
    else if ← accept ">>" then pure (some (.file true))
    else if ← accept "|" then pure (some .command)
    else pure none
  match to? with
  | none => return (all, none)
  | some direction => return (all, some (direction, ← readers.expression ⟨true, false⟩))

/-- Reads a simple statement. -/
def simple (readers : Readers) : Reading Statement := do
  let place ← line
  if ← acceptWord "print" then
    let (all, target) ← printed readers
    return .print all target
  if ← acceptWord "printf" then
    let (all, target) ← printed readers
    if all.isEmpty then refuseAt place "no arguments in call to printf"
    return .printf all target
  if ← acceptWord "delete" then
    match ← peek with
    | .name array =>
      advance
      noteKind array true
      if ← accept "[" then return .delete array (← listUpTo readers "]" (← room))
      return .delete array []
    | _ => unexpected
  return .expression (← readers.expression .free)

/-- Reads the statement that a loop repeats. -/
def loopBody (readers : Readers) : Reading Statement := do
  skipLines
  modify fun r => { r with loops := r.loops + 1 }
  let body ← if ← accept ";" then pure (Statement.block []) else readers.statement
  modify fun r => { r with loops := r.loops - 1 }
  return body

/-- Reads a loop behind `for`. -/
def forLoop (readers : Readers) : Reading Statement := do
  expect "("
  match (← get).tokens.map PlacedToken.token with
  | .name name :: .word "in" :: .name array :: .sign ")" :: _ =>
    for _ in [0, 1, 2, 3] do advance
    noteKind array true
    return .forIn name array (← loopBody readers)
  | _ =>
    let start ← if ← isSign ";" then pure none else do pure (some (← simple readers))
    expect ";"
    skipLines
    let condition ←
      if ← isSign ";" then pure none else do pure (some (← readers.expression .free))
    expect ";"
    skipLines
    let step ← if ← isSign ")" then pure none else do pure (some (← simple readers))
    expect ")"
    return .for start condition step (← loopBody readers)

/-- Reads statements up to the closing brace, which is taken. -/
def statements (readers : Readers) : Nat → Reading (List Statement)
  | 0 => return []
  | n + 1 => do
    skipSeparators
    if ← accept "\x7d" then return []
    let first ← readers.statement
    return first :: (← statements readers n)

/-- Reads a statement. -/
def statementWith (readers : Readers) : Reading Statement := do
  let place ← line
  let simply (statement : Statement) : Reading Statement := do
    endStatement
    return statement
  let argument? : Reading (Option Expr) := do
    if ← isEnd then return none
    return some (← readers.expression .free)
  if ← accept "\x7b" then return .block (← statements readers (← room))
  if ← accept ";" then return .block []
  if ← acceptWord "if" then
    expect "("
    let condition ← readers.expression .free
    expect ")"
    skipLines
    let whenTrue ← if ← accept ";" then pure (Statement.block []) else readers.statement
    let before ← get
    skipSeparators
    if ← acceptWord "else" then
      skipLines
      let whenFalse ← if ← accept ";" then pure (Statement.block []) else readers.statement
      return .ifElse condition whenTrue (some whenFalse)
    set before
    return .ifElse condition whenTrue none
  if ← acceptWord "while" then
    expect "("
    let condition ← readers.expression .free
    expect ")"
    return .while condition (← loopBody readers)
  if ← acceptWord "do" then
    let body ← loopBody readers
    skipSeparators
    unless ← acceptWord "while" do unexpected
    expect "("
    let condition ← readers.expression .free
    expect ")"
    simply (.doWhile body condition)
  else if ← acceptWord "for" then forLoop readers
  else if ← acceptWord "next" then
    if (← get).isOutside || (← get).isInFunction then refuseAt place "improper use of next"
    simply .next
  else if ← acceptWord "nextfile" then
    if (← get).isOutside then refuseAt place "improper use of nextfile"
    simply .nextFile
  else if ← acceptWord "exit" then simply (.exit (← argument?))
  else if ← acceptWord "return" then
    if !(← get).isInFunction then refuseAt place "return outside function body"
    simply (.return (← argument?))
  else if ← acceptWord "break" then
    if (← get).loops == 0 then refuseAt place "break statement outside of loop"
    simply .break
  else if ← acceptWord "continue" then
    if (← get).loops == 0 then refuseAt place "continue statement outside of loop"
    simply .continue
  else simply (← simple readers)

/-- The readers with at most as many levels inside each other. -/
def readersOf : Nat → Readers
  | 0 => ⟨fun _ => unexpected, unexpected⟩
  | n + 1 =>
    ⟨fun mode reader => expressionWith (readersOf n) mode reader,
      fun reader => statementWith (readersOf n) reader⟩

/-! ## Programs -/

/-- Reads the action of a rule. -/
def action? (readers : Readers) : Reading (Option Statement) := do
  if ← accept "\x7b" then return some (.block (← statements readers (← room)))
  return none

/-- Reads the names of parameters up to the closing parenthesis, which is taken. -/
def parameters : Nat → Reading (List String)
  | 0 => return []
  | n + 1 => do
    skipLines
    match ← peek with
    | .name name =>
      advance
      skipLines
      if ← accept "," then return name :: (← parameters n)
      expect ")"
      return [name]
    | .sign ")" =>
      advance
      return []
    | _ => unexpected

/-- Reads rules and functions up to the end of the program. -/
def program (readers : Readers) : Nat → Program → Reading Program
  | 0, found => return found
  | n + 1, found => do
    skipSeparators
    let withRule (rule : Rule) : Program := { found with rules := found.rules ++ [rule] }
    match ← peek with
    | .ending => return found
    | .extra sign =>
      let place ← line
      throw [⟨place, "extra '" ++ sign ++ "'"⟩, ⟨place, "syntax error at or near end of line"⟩]
    | .word "BEGIN" =>
      advance
      modify fun r => { r with isOutside := true }
      let action ← action? readers
      if action.isNone then unexpected
      program readers n (withRule ⟨.begin, action⟩)
    | .word "END" =>
      advance
      modify fun r => { r with isOutside := true }
      let action ← action? readers
      if action.isNone then unexpected
      program readers n (withRule ⟨.ending, action⟩)
    | .word word =>
      if word != "function" && word != "func" then
        let rule ← rule
        program readers n (withRule rule)
      else
        let place ← line
        advance
        let name ←
          match ← peek with
          | .function name => pure name
          | .name name => pure name
          | _ => unexpected
        advance
        if found.functions.any fun f => f.name == name then
          refuseAt place ("redefinition of " ++ name)
        expect "("
        let parameters ← parameters (← room)
        skipLines
        unless ← accept "\x7b" do unexpected
        modify fun r => { r with isInFunction := true, isOutside := false, locals := parameters }
        let body ← statements readers (← room)
        modify fun r => { r with isInFunction := false, locals := [] }
        let function : Function := ⟨name, parameters, .block body⟩
        program readers n { found with functions := found.functions ++ [function] }
    | _ =>
      let rule ← rule
      program readers n (withRule rule)
where
  /-- Reads a rule that is applied to records. -/
  rule : Reading Rule := do
    modify fun r => { r with isOutside := false }
    if ← isSign "\x7b" then return ⟨.always, ← action? readers⟩
    let first ← readers.expression .free
    let pattern ←
      if ← accept "," then
        skipLines
        pure (Pattern.range first (← readers.expression .free))
      else pure (Pattern.when first)
    match ← action? readers with
    | some action => return ⟨pattern, some action⟩
    | none =>
      match ← peek with
      | .newline => return ⟨pattern, none⟩
      | .sign ";" => return ⟨pattern, none⟩
      | .ending => return ⟨pattern, none⟩
      | _ => unexpected

/-- True if braces are left open. -/
def isLeftOpen (tokens : List PlacedToken) : Bool :=
  let count (sign : String) : Nat := tokens.countP fun t => match t.token with
    | .sign text => text == sign
    | _ => false
  count "\x7d" < count "\x7b"

/-- The program that a text is. -/
def parse (text : String) : Except (List Refusal) Program := do
  let tokens ←
    match tokenize text with
    | .ok tokens => pure tokens
    | .error refusal => throw [refusal]
  let last := (tokens.getLast?.map (·.line)).getD 1
  let readers := readersOf (tokens.length + 1)
  let reader : Reader := ⟨tokens, [], [], [], 0, false, false⟩
  match (program readers (tokens.length + 1) ⟨[], []⟩).run reader with
  | .error refusals =>
    let missing : Refusal := ⟨last, "missing \x7d near end of file"⟩
    if isLeftOpen tokens && refusals.all fun r => r.message != missing.message then
      throw (refusals ++ [missing])
    throw refusals
  | .ok (found, reader) =>
    for (name, count, place) in reader.calls.reverse do
      match found.functions.find? fun f => f.name == name with
      | none => throw [⟨last, "function " ++ name ++ " never defined"⟩]
      | some function =>
        if count > function.parameters.length then
          throw [⟨place, "too many arguments in call to " ++ name⟩]
    return found

end PointerTagging.Host.Awk
