import PointerTagging.Host.Scripting.Interpolation
/-!
# Reading expressions

The operators by how strongly they bind, the functions by the arguments they take, and the
expressions that are built from them.
-/

namespace PointerTagging.Host.Scripting

open Text

/-! ## Operators -/

/-- What stands between two operands. -/
inductive Infix where
  | operator (operator : Operator)
  | update (operator : Operator)
  | choice (choice : Choice)
  | updateIf (choice : Choice)
  | assign
  | condition
  | range
  | comma
  | binding (isNegated : Bool)

/-- The operators that are signs, with how strongly they bind; those that others begin with come
behind these. -/
def signs : List (String × Nat × Infix) :=
  [("**=", 5, .update .power), ("||=", 5, .updateIf .either), ("&&=", 5, .updateIf .both),
    ("//=", 5, .updateIf .otherwise), ("<=>", 12, .operator .compare),
    ("<<=", 5, .update .shiftLeft), (">>=", 5, .update .shiftRight), ("...", 7, .range),
    ("=>", 4, .comma), ("**", 20, .operator .power), ("=~", 18, .binding false),
    ("!~", 18, .binding true), ("==", 12, .operator .equal), ("!=", 12, .operator .different),
    ("<=", 13, .operator .atMost), (">=", 13, .operator .atLeast), ("&&", 9, .choice .both),
    ("||", 8, .choice .either), ("//", 8, .choice .otherwise), ("..", 7, .range),
    ("+=", 5, .update .add), ("-=", 5, .update .subtract), ("*=", 5, .update .multiply),
    ("/=", 5, .update .divide), (".=", 5, .update .concatenate), ("%=", 5, .update .remainder),
    ("x=", 5, .update .duplicate), ("&=", 5, .update .bitAnd), ("|=", 5, .update .bitOr),
    ("^=", 5, .update .bitXor), ("<<", 15, .operator .shiftLeft),
    (">>", 15, .operator .shiftRight), ("=", 5, .assign), ("<", 13, .operator .less),
    (">", 13, .operator .greater), ("+", 16, .operator .add), ("-", 16, .operator .subtract),
    ("*", 17, .operator .multiply), ("/", 17, .operator .divide), ("%", 17, .operator .remainder),
    (".", 16, .operator .concatenate), ("&", 11, .operator .bitAnd), ("|", 10, .operator .bitOr),
    ("^", 10, .operator .bitXor), ("?", 6, .condition), (",", 4, .comma)]

/-- The operators that are words. -/
def wordOperators : List (String × Nat × Infix) :=
  [("x", 17, .operator .duplicate), ("lt", 13, .operator .before), ("gt", 13, .operator .behind),
    ("le", 13, .operator .notBehind), ("ge", 13, .operator .notBefore),
    ("eq", 12, .operator .sameText), ("ne", 12, .operator .otherText),
    ("cmp", 12, .operator .compareText), ("and", 2, .choice .both), ("or", 1, .choice .either),
    ("xor", 1, .operator .exclusive)]

/-- The operator at the start of some characters. -/
def infixAtStart (cs : List Char) : Option (String × Nat × Infix) :=
  let word := cs.takeWhile isNameChar
  if word.isEmpty then signs.find? fun s => s.1.toList.isPrefixOf cs
  else if word == ['x'] && (cs.drop 1).head? == some '=' && (cs.drop 2).head? != some '=' then
    signs.find? fun s => s.1 == "x="
  else
    let word := if (word.drop 1).all Char.isDigit then word.take 1 else word
    wordOperators.find? fun s => s.1.toList == word

/-- The words that end an expression. -/
def closingWords : List String :=
  ["if", "unless", "while", "until", "for", "foreach"] ++ wordOperators.map (·.1)

/-- True if an operand begins at some characters, where one may be missing. -/
def startsOperand (cs : List Char) : Bool :=
  match cs with
  | [] => false
  | c :: rest =>
    if isNameStart c then !closingWords.contains (String.ofList (cs.takeWhile isNameChar))
    else if c == '&' then rest.head? != some '&'
    else if c == '%' then rest.head?.any fun d => isNameStart d || "$\x7b+".toList.contains d
    else if c == '!' then rest.head? != some '=' && rest.head? != some '~'
    else if c == '<' then
      rest.head?.any fun d => isNameStart d || "$<>\"'~".toList.contains d
    else if c == '.' then rest.head?.any Char.isDigit
    else !(")]\x7d;:,=?*|>^".toList.contains c)

/-- True if the argument of a function begins that may do without one. -/
def startsArgument (cs : List Char) : Bool :=
  startsOperand cs &&
    match cs with
    | '-' :: c :: _ => !isSpace c && c != '='
    | '+' :: c :: _ => !isSpace c && c != '='
    | '<' :: c :: _ => c == '$' || isNameStart c
    | c :: _ => !("/\x7b.".toList.contains c)
    | [] => false

/-! ## Functions -/

/-- The functions without arguments. -/
def plainFunctions : List String :=
  ["time", "times", "wait", "wantarray", "fork", "getppid", "__PACKAGE__", "__FILE__", "break"]

/-- The functions of one argument; without one they work on the common variable. -/
def commonFunctions : List String :=
  ["lc", "uc", "lcfirst", "ucfirst", "fc", "length", "chr", "ord", "int", "abs", "sqrt", "sin",
    "cos", "exp", "log", "hex", "oct", "chomp", "chop", "quotemeta", "ref", "defined", "rmdir",
    "readlink", "stat", "lstat", "alarm", "eval", "require", "glob", "pos"]

/-- The functions of one argument, which may be missing. -/
def singleFunctions : List String :=
  ["shift", "pop", "exit", "rand", "srand", "sleep", "umask", "caller", "undef", "exists", "delete",
    "each", "keys", "values", "scalar", "close", "closedir", "readdir", "chdir", "localtime",
    "gmtime", "eof", "fileno", "lock", "readline", "next", "last", "redo", "do", "tell", "getc"]

/-- The functions of a list. -/
def listFunctions : List String :=
  ["push", "unshift", "splice", "join", "split", "sprintf", "die", "warn", "reverse", "unlink",
    "system", "exec", "kill", "open", "index", "rindex", "substr", "pack", "unpack", "binmode",
    "seek", "read", "mkdir", "opendir", "select", "chmod", "chown", "utime", "rename", "waitpid",
    "atan2", "return", "pipe", "link", "symlink", "truncate", "sysread", "syswrite", "bless",
    "getpgrp", "setpgrp"]

/-- The functions of modules that run a block for the members of a list. -/
def blockFunctions : List String :=
  ["first", "any", "all", "none", "notall", "reduce", "sum_by", "max_by", "min_by"]

/-- Reads arguments in parentheses behind the opening one. -/
def argumentsBehind (inner : Inner) : Reading (List Expr) := do
  if ← accept ")" then return []
  let e ← inner.expression 0
  expect ")"
  return itemsOf e

/-- Reads the arguments of a function of a list. -/
def listArguments (inner : Inner) : Reading (List Expr) := do
  if ← accept "(" then argumentsBehind inner
  else if startsOperand (← ahead) then return itemsOf (← inner.expression listRank)
  else return []

/-- Reads the argument of a function of one. -/
def singleArgument (inner : Inner) : Reading (List Expr) := do
  if ← accept "(" then argumentsBehind inner
  else if startsArgument (← ahead) then return [← inner.expression functionRank]
  else return []

/-! ## Patterns -/

/-- Reads a pattern behind its opening sign. -/
def patternBehind (inner : Inner) (opening : Char) (what : String) : Reading Expr := do
  let text ← quotedBehind opening what
  if opening == '\'' then return .text (String.ofList text) else interpolated inner true text

/-- Reads the second of two quoted texts. -/
def secondBehind (opening : Char) (what : String) : Reading (Char × List Char) := do
  let opening ← if closingOf opening == opening then pure opening else openingSign
  return (opening, ← quotedBehind opening what)

/-- Reads a substitution behind its first opening sign. -/
def substitutionBehind (inner : Inner) (opening : Char) : Reading Expr := do
  let what := "Substitution pattern"
  let pattern ← patternBehind inner opening what
  let (opening, text) ← secondBehind opening "Substitution replacement"
  let flags ← flagsAhead
  let replacement ←
    if flags.toList.contains 'e' then do
      let body ← within text inner.statements
      let once := Expr.block body
      pure (if (flags.toList.filter (· == 'e')).length > 1 then .function "eval" [once] else once)
    else if opening == '\'' then pure (.text (String.ofList text))
    else interpolated inner false text
  return .substitute none pattern replacement flags

/-- The characters that a list of characters for replacement means. -/
def charactersOf : Nat → List Char → List Char
  | 0, _ => []
  | _, [] => []
  | n + 1, '\\' :: '-' :: cs => '-' :: charactersOf n cs
  | n + 1, '\\' :: cs =>
    let (chars, rest) := escapeAtStart cs
    chars ++ charactersOf n rest
  | n + 1, a :: '-' :: b :: cs =>
    if a ≤ b then
      ((List.range (b.toNat + 1 - a.toNat)).map fun i => Char.ofNat (a.toNat + i)) ++
        charactersOf n cs
    else charactersOf n cs
  | n + 1, c :: cs => c :: charactersOf n cs

/-- Reads a replacement of characters behind its first opening sign. -/
def transliterationBehind (opening : Char) : Reading Expr := do
  let what := "Transliteration pattern"
  let source ← quotedBehind opening what
  let (_, replacement) ← secondBehind opening "Transliteration replacement"
  let chars (cs : List Char) : List Char := charactersOf (cs.length + 1) cs
  return .transliterate none (chars source) (chars replacement) (← flagsAhead)

/-- Words that quoted texts begin with. -/
def quotingWords : List String := ["q", "qq", "qw", "m", "qr", "s", "tr", "y", "qx"]

/-- True if a word begins a quoted text; `rest` is what stands behind it. -/
def isQuoting (word : String) (rest : List Char) : Bool :=
  quotingWords.contains word &&
    match rest.dropWhile isSpace with
    | [] => false
    | c :: _ =>
      if rest.head? == some '#' then true
      else !(",;)=".toList.contains c) && (rest.head?.all (!isSpace ·) || !isNameChar c && c != '#')

/-- Reads a quoted text behind the word that it begins with. -/
def quotedOperand (inner : Inner) (word : String) : Reading Expr := do
  let opening ← openingSign
  match word with
  | "q" => return .text (String.ofList (plainText opening (← quotedBehind opening "")))
  | "qw" => return .list ((wordsOf (← quotedBehind opening "")).map .text)
  | "qq" => interpolated inner false (← quotedBehind opening "")
  | "qx" => return .command (← interpolated inner false (← quotedBehind opening ""))
  | "m" =>
    let pattern ← patternBehind inner opening "Search pattern"
    return .found none pattern (← flagsAhead)
  | "qr" =>
    let pattern ← patternBehind inner opening "Search pattern"
    return .pattern pattern (← flagsAhead)
  | "s" => substitutionBehind inner opening
  | _ => transliterationBehind opening

/-- Reads a text that begins with the next line, behind its sign. -/
def lineText? (inner : Inner) (cs : List Char) : Reading (Option Expr) := do
  let (isIndented, rest) := if cs.head? == some '~' then (true, cs.drop 1) else (false, cs)
  match rest with
  | '"' :: more =>
    let mark := more.takeWhile (· != '"')
    goOn (more.drop (mark.length + 1))
    return some (← interpolated inner false (← textUpTo mark isIndented))
  | '\'' :: more =>
    let mark := more.takeWhile (· != '\'')
    goOn (more.drop (mark.length + 1))
    return some (.text (String.ofList (← textUpTo mark isIndented)))
  | c :: _ =>
    if isNameStart c then
      let mark := rest.takeWhile isNameChar
      goOn (rest.drop mark.length)
      return some (← interpolated inner false (← textUpTo mark isIndented))
    else return none
  | [] => return none

/-! ## Printing -/

/-- True of words that name a stream by their form. -/
def isStreamName (word : String) : Bool :=
  word.toList.all fun c => c.isUpper || c.isDigit || c == '_'

/-- Reads the stream that something is printed to, if one is given. -/
def streamAhead (inner : Inner) : Reading (Option Expr) := do
  let cs ← ahead
  let s ← get
  let startsItem (cs : List Char) : Bool :=
    cs.head?.any isSpace &&
      match cs.dropWhile isSpace with
      | [] => false
      | c :: more =>
        if isNameStart c then startsOperand (c :: more)
        else c.isDigit || "\"'$@\\".toList.contains c || c == '<' && more.head? == some '<'
  match cs with
  | '\x7b' :: rest =>
    goOn rest
    let e ← inner.expression 0
    expect "\x7d"
    return some e
  | '$' :: rest =>
    let name := rest.takeWhile isNameChar
    if !name.isEmpty && startsItem (rest.drop name.length) then
      goOn (rest.drop name.length)
      return some (.named .scalar (String.ofList name))
    return none
  | cs =>
    let word := String.ofList (cs.takeWhile isNameChar)
    let rest := cs.drop word.length
    let isClosed := (rest.dropWhile isSpace).head?.all fun c => c == ';' || c == ')' || c == '\x7d'
    if !word.isEmpty && cs.head?.any isNameStart && isStreamName word &&
        !s.constants.contains word && !s.functions.contains word &&
        rest.head? != some '(' && (startsItem rest || isClosed) then
      goOn rest
      return some (.text word)
    return none

/-- Reads what is printed. -/
def printed (inner : Inner) (printing : Printing) : Reading Expr := do
  let isEnclosed ← accept "("
  let stream ← streamAhead inner
  let items ←
    if startsOperand (← ahead) then
      pure (itemsOf (← inner.expression (if isEnclosed then 0 else listRank)))
    else pure []
  if isEnclosed then expect ")"
  let items := if items.isEmpty && printing != .formatted then [.named .scalar "_"] else items
  return .print printing stream items

/-! ## Words -/

/-- Reads a block in braces. -/
def blockAhead (inner : Inner) : Reading Block := do
  expect "\x7b"
  let declared := (← get).declared
  opened do
    let body ← inner.statements
    expect "\x7d"
    modify fun s => { s with declared }
    return body

/-- Reads the block or the expression of a function that runs one for the members of a list, and the
list. -/
def throughList (inner : Inner) (name : String) : Reading Expr := do
  let isEnclosed ← accept "("
  let body ←
    if (← ahead).head? == some '\x7b' then do
      let body ← blockAhead inner
      let _ ← accept ","
      pure body
    else do
      let line := (← get).line
      let e ← inner.expression assignRank
      expect ","
      pure [Statement.expression line e]
  let list ←
    if startsOperand (← ahead) then inner.expression (if isEnclosed then 0 else listRank)
    else pure (.list [])
  if isEnclosed then expect ")"
  return .through name body (itemsOf list)

/-- Reads a list in an order. -/
def sortedList (inner : Inner) : Reading Expr := do
  let isEnclosed ← accept "("
  let cs ← ahead
  let word ← wordAhead
  let behind := (cs.drop word.length).dropWhile isSpace
  let isName := !word.isEmpty && !isQuoting word (cs.drop word.length) &&
    !(commonFunctions ++ singleFunctions ++ listFunctions ++
      ["map", "grep", "sort", "my"]).contains word && startsOperand behind &&
    !(behind.head?.any fun c => c == '(')
  let order ←
    if cs.head? == some '\x7b' then do
      let body ← blockAhead inner
      let _ ← accept ","
      pure (some (.newCode body))
    else if isName then do
      goOn (cs.drop word.length)
      pure (some (.named .code word))
    else
      match cs with
      | '$' :: rest =>
        let name := rest.takeWhile isNameChar
        let more := rest.drop name.length
        if !name.isEmpty && more.head? == some ' ' &&
            (more.drop 1).head?.any fun c => c == '@' || c == '(' then do
          goOn more
          pure (some (.named .scalar (String.ofList name)))
        else pure none
      | _ => pure none
  let list ←
    if startsOperand (← ahead) then inner.expression (if isEnclosed then 0 else listRank)
    else pure (.list [])
  if isEnclosed then expect ")"
  return .sorted order (itemsOf list)

/-- The kind whose names have a sign. -/
def kindOf? (c : Char) : Option Kind :=
  match c with
  | '$' => some .scalar
  | '@' => some .array
  | '%' => some .hash
  | _ => none

/-- Reads variables with their signs, with commas between them, up to a closing parenthesis. -/
def variablesBehind : Nat → Reading (List (Kind × String))
  | 0 => refuse
  | n + 1 => do
    if ← accept ")" then return []
    match ← ahead with
    | c :: cs =>
      match kindOf? c with
      | some kind =>
        let name := cs.takeWhile isNameChar
        goOn (cs.drop name.length)
        addDeclared kind (String.ofList name)
        let _ ← accept ","
        return (kind, String.ofList name) :: (← variablesBehind n)
      | none =>
        unless ← acceptWord "undef" do refuse
        let _ ← accept ","
        return (.code, "") :: (← variablesBehind n)
    | [] => refuse

/-- Reads the variables that a declaration makes. -/
def declaration (isLexical : Bool) : Reading Expr := do
  if ← accept "(" then return .declared isLexical (← variablesBehind (← get).rest.length) true
  match ← ahead with
  | c :: cs =>
    match kindOf? c with
    | some kind =>
      let name := cs.takeWhile isNameChar
      goOn (cs.drop name.length)
      addDeclared kind (String.ofList name)
      return .declared isLexical [(kind, String.ofList name)] false
    | none => refuse
  | [] => refuse

/-- Reads the body of a function, with the variables for its arguments before it. -/
def functionBody (inner : Inner) : Reading Block := do
  let line := (← get).line
  let parameters ←
    if ← accept "(" then do
      let cs := (← get).rest
      if (cs.takeWhile (· != ')')).any isNameStart then variablesBehind cs.length
      else do
        goOn ((cs.dropWhile (· != ')')).drop 1)
        pure []
    else pure []
  let body ← blockAhead inner
  if parameters.isEmpty then return body
  return .expression line (.assign (.declared true parameters true) (.named .array "_")) :: body

/-- The first argument of a splitting as a pattern. -/
def asSeparator : List Expr → List Expr
  | .found none pattern flags :: rest => .pattern pattern flags :: rest
  | arguments => arguments

/-- Reads an operand that begins with a word. -/
def wordOperand (inner : Inner) (word : String) : Reading Expr := do
  let s ← get
  let rest := s.rest.drop word.length
  let behind := rest.dropWhile isSpace
  goOn rest
  if "=>".toList.isPrefixOf behind then return .text word
  if isQuoting word rest then return ← quotedOperand inner word
  match word with
  | "my" => declaration true
  | "state" => declaration true
  | "our" => declaration false
  | "local" => return .localized (← inner.expression signRank)
  | "sub" => return .newCode (← functionBody inner)
  | "print" => printed inner .plain
  | "printf" => printed inner .formatted
  | "map" => throughList inner word
  | "grep" => throughList inner word
  | "sort" => sortedList inner
  | "not" => return .signed .not (← inner.expression 3)
  | "__LINE__" => return .whole s.line
  | word =>
    let isStream := ["STDOUT", "STDERR"].any fun n => n.toList.isPrefixOf behind
    if word == "say" && (s.hasLines || isStream) then printed inner .line
    else if word == "do" && behind.head? == some '\x7b' then return .block (← blockAhead inner)
    else if word == "eval" && behind.head? == some '\x7b' then
      return .guarded (← blockAhead inner)
    else if ["next", "last", "redo"].contains word then do
      let label ← wordAhead
      if label.isEmpty || closingWords.contains label then return .function word []
      goOn ((← get).rest.drop label.length)
      return .function word [.text label]
    else if s.functions.contains word && blockFunctions.contains word then throughList inner word
    else if plainFunctions.contains word || s.constants.contains word then do
      if ← accept "(" then expect ")"
      return .function word []
    else if commonFunctions.contains word then
      match ← singleArgument inner with
      | [] => return .function word [.named .scalar "_"]
      | arguments => return .function word arguments
    else if singleFunctions.contains word then return .function word (← singleArgument inner)
    else if listFunctions.contains word then do
      let arguments ← listArguments inner
      return .function word (if word == "split" then asSeparator arguments else arguments)
    else if behind.head? == some '(' then do
      let _ ← accept "("
      return .function (ownName word.toList) (← argumentsBehind inner)
    else if s.functions.contains (ownName word.toList) then
      return .function (ownName word.toList) (← listArguments inner)
    else return .text word

/-! ## Operands -/

/-- Reads what stands behind an operand: subscripts, calls, and signs for one more or less. -/
def behindOperand (inner : Inner) : Nat → Expr → Reading Expr
  | 0, e => return e
  | n + 1, e => do
    let next := behindOperand inner n
    match (← get).rest, hasSubscript e with
    | '[' :: cs, true =>
      goOn cs
      next (.item (.target .array e) (← indexBehind inner))
    | '\x7b' :: cs, true =>
      goOn cs
      next (.entry (.target .hash e) (← keyBehind inner))
    | '(' :: cs, true =>
      goOn cs
      next (.call e (← argumentsBehind inner))
    | _, _ =>
      match ← ahead with
      | '+' :: '+' :: cs =>
        goOn cs
        return .step false true e
      | '-' :: '-' :: cs =>
        goOn cs
        return .step false false e
      | '-' :: '>' :: cs =>
        goOn cs
        match ← ahead with
        | '[' :: cs =>
          goOn cs
          next (.item (.target .array e) (← indexBehind inner))
        | '\x7b' :: cs =>
          goOn cs
          next (.entry (.target .hash e) (← keyBehind inner))
        | '(' :: cs =>
          goOn cs
          next (.call e (← argumentsBehind inner))
        | '@' :: '*' :: cs =>
          goOn cs
          return .target .array e
        | '%' :: '*' :: cs =>
          goOn cs
          return .target .hash e
        | '$' :: '*' :: cs =>
          goOn cs
          return .target .scalar e
        | _ =>
          let name ← wordAhead
          if name.isEmpty then refuse
          goOn ((← get).rest.drop name.length)
          let arguments ←
            if (← get).rest.head? == some '(' then do
              let _ ← accept "("
              argumentsBehind inner
            else pure []
          next (.method e name arguments)
      | _ => return e

/-- Reads a function that is called by its sign. -/
def codeBehind (inner : Inner) : Reading Expr := do
  let s ← get
  let code := (← subject inner (s.rest.length + 1)).toExpr .code
  if (← get).rest.head? == some '(' then do
    let _ ← accept "("
    return .call code (← argumentsBehind inner)
  else return .callOn code

/-- The letters of the tests on files. -/
def testLetters : List Char := "edfrwxszlopSbcugktTBM".toList

/-- True if some characters begin a test on a file behind the dash. -/
def startsTest (cs : List Char) : Bool :=
  match cs with
  | letter :: c :: rest =>
    testLetters.contains letter && !isNameChar c &&
      match (c :: rest).dropWhile isSpace with
      | d :: e :: _ => !(d == '=' && e == '>') && (isNameChar d || "$\"'(".toList.contains d)
      | [d] => isNameChar d
      | [] => false
  | _ => false

/-- Reads an operand without what stands behind it. -/
def plainOperand (inner : Inner) : Reading Expr := do
  let cs ← ahead
  let isSubscript (cs : List Char) : Bool := cs.head?.any fun c => c == '[' || c == '\x7b'
  match cs with
  | [] => refuse
  | '$' :: '#' :: c :: rest =>
    if c == '\x7b' || c == '$' || isNameStart c then
      goOn (c :: rest)
      return .lastIndex (← variableOf .array (← subject inner (rest.length + 2)))
    else
      goOn ('#' :: c :: rest)
      scalarBehind inner isSubscript
  | '$' :: rest =>
    goOn rest
    scalarBehind inner isSubscript
  | '@' :: rest =>
    goOn rest
    arrayBehind inner
  | '%' :: rest =>
    goOn rest
    variableOf .hash (← subject inner (rest.length + 1))
  | '&' :: rest =>
    goOn rest
    codeBehind inner
  | '*' :: rest =>
    goOn rest
    let name ← wordAhead
    if name.isEmpty then refuse
    goOn ((← get).rest.drop name.length)
    return .text name
  | '\\' :: rest =>
    goOn rest
    return .reference (← inner.expression signRank)
  | '+' :: '+' :: rest =>
    goOn rest
    return .step true true (← inner.expression 21)
  | '-' :: '-' :: rest =>
    goOn rest
    return .step true false (← inner.expression 21)
  | '-' :: rest =>
    goOn rest
    if startsTest rest then
      goOn (rest.drop 1)
      return .fileTest (rest.headD 'e') (← inner.expression functionRank)
    return .signed .minus (← inner.expression signRank)
  | '+' :: rest =>
    goOn rest
    return .signed .plus (← inner.expression signRank)
  | '!' :: rest =>
    goOn rest
    return .signed .not (← inner.expression signRank)
  | '~' :: rest =>
    goOn rest
    return .signed .complement (← inner.expression signRank)
  | '(' :: rest =>
    goOn rest
    let list := Expr.list (← argumentsBehind inner)
    if (← get).rest.head? == some '[' then
      let _ ← accept "["
      return .someOf list (← indexBehind inner)
    return list
  | '[' :: rest =>
    goOn rest
    if ← accept "]" then return .newArray []
    return .newArray (itemsOf (← indexBehind inner))
  | '\x7b' :: rest =>
    goOn rest
    if ← accept "\x7d" then return .newHash []
    opened do
      let e ← inner.expression 0
      expect "\x7d"
      return .newHash (itemsOf e)
  | '"' :: rest =>
    goOn rest
    interpolated inner false (← quotedBehind '"' "")
  | '\'' :: rest =>
    goOn rest
    return .text (String.ofList (plainText '\'' (← quotedBehind '\'' "")))
  | '\x60' :: rest =>
    goOn rest
    return .command (← interpolated inner false (← quotedBehind '\x60' ""))
  | '/' :: rest =>
    goOn rest
    let pattern ← patternBehind inner '/' "Search pattern"
    return .found none pattern (← flagsAhead)
  | '<' :: '<' :: rest =>
    match ← lineText? inner rest with
    | some e => return e
    | none =>
      unless ">>".toList.isPrefixOf rest do refuse
      goOn (rest.drop 2)
      return .readLine (.text "ARGV")
  | '<' :: rest =>
    let inside := rest.takeWhile (· != '>')
    let more := rest.drop (inside.length + 1)
    goOn more
    if inside.isEmpty then return .readLine (.text "ARGV")
    if inside.all isNameChar then return .readLine (.text (String.ofList inside))
    match inside with
    | '$' :: name =>
      if name.all isNameChar then return .readLine (.named .scalar (String.ofList name))
    | _ => pure ()
    return .function "glob" [← interpolated inner false inside]
  | c :: rest =>
    if c.isDigit || c == '.' && rest.head?.any Char.isDigit then
      let (number, rest) := numberAtStart cs
      goOn rest
      return number
    else if isNameStart c then wordOperand inner (← wordAhead)
    else refuse

/-- Reads an operand. -/
def operand (inner : Inner) : Reading Expr := do
  let e ← plainOperand inner
  match e with
  | .declared .. => return e
  | e => behindOperand inner ((← get).rest.length + 1) e

/-! ## Expressions -/

/-- A match of an operand with what a binding has behind it. -/
def bound (isNegated : Bool) (a b : Expr) : Expr :=
  let plain : Expr :=
    match b with
    | .found none pattern flags => .found (some a) pattern flags
    | .substitute none pattern replacement flags => .substitute (some a) pattern replacement flags
    | .transliterate none source replacement flags =>
      .transliterate (some a) source replacement flags
    | pattern => .found (some a) pattern ""
  if isNegated then
    match plain with
    | .found target pattern flags => .notFound target pattern flags
    | e => .signed .not e
  else plain

/-- Reads what stands behind an operator, and puts both sides together. -/
def combined (inner : Inner) (rank : Nat) (a : Expr) : Infix → Reading Expr
  | .operator .power => return .operation .power a (← inner.expression signRank)
  | .operator operator => return .operation operator a (← inner.expression (rank + 1))
  | .update operator => return .update operator a (← inner.expression assignRank)
  | .choice choice => return .choice choice a (← inner.expression (rank + 1))
  | .updateIf choice => return .updateIf choice a (← inner.expression assignRank)
  | .assign => return .assign a (← inner.expression assignRank)
  | .condition => do
    let whenTrue ← inner.expression assignRank
    expect ":"
    return .condition a whenTrue (← inner.expression assignRank)
  | .range => do
    let n := (← get).rest.length
    return .range n a (← inner.expression (rank + 1))
  | .comma => do
    let cs ← ahead
    if cs.head? == some ',' || !startsOperand cs then return .list (itemsOf a)
    return .list (itemsOf a ++ [← inner.expression assignRank])
  | .binding isNegated => return bound isNegated a (← inner.expression (rank + 1))

/-- Reads the operators behind an operand that bind at least so strongly, with their operands. -/
def climb (inner : Inner) (least : Nat) : Nat → Expr → Reading Expr
  | 0, e => return e
  | n + 1, e => do
    match infixAtStart (← ahead) with
    | none => return e
    | some (text, rank, operator) =>
      if rank < least then return e
      goOn ((← get).rest.drop text.length)
      climb inner least n (← combined inner rank e operator)

/-- Reads an expression whose operators bind at least so strongly. -/
def expressionWith (inner : Inner) (least : Nat) : Reading Expr := do
  let first ← operand inner
  climb inner least ((← get).rest.length + 1) first

end PointerTagging.Host.Scripting
