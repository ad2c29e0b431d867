import PointerTagging.Host.Scripting.Parsing
/-!
# Reading statements

The statements of scripts, the modules that they ask for, and whole scripts.
-/

namespace PointerTagging.Host.Scripting

/-! ## Modules -/

/-- Where modules are looked for. -/
def modulePlaces : List String :=
  ["/etc/perl", "/usr/local/lib/x86_64-linux-gnu/perl/5.36.0", "/usr/local/share/perl/5.36.0",
    "/usr/lib/x86_64-linux-gnu/perl5/5.36", "/usr/share/perl5",
    "/usr/lib/x86_64-linux-gnu/perl-base", "/usr/lib/x86_64-linux-gnu/perl/5.36",
    "/usr/share/perl/5.36", "/usr/local/lib/site_perl"]

/-- The modules that are there, with the functions that they bring along if nothing else is said. -/
def modules : List (String × List String) :=
  [("strict", []), ("warnings", []), ("utf8", []), ("feature", []), ("vars", []), ("lib", []),
    ("integer", []), ("bytes", []), ("locale", []), ("parent", []), ("base", []), ("constant", []),
    ("re", []), ("overload", []), ("fields", []), ("attributes", []), ("Config", []),
    ("Exporter", []), ("Fcntl", []), ("Errno", []), ("Socket", []), ("Symbol", []),
    ("IO::Handle", []), ("IO::File", []), ("IO::Select", []), ("FileHandle", []),
    ("IPC::Open2", []), ("IPC::Open3", []), ("File::Spec", []), ("File::Temp", []),
    ("File::Path", ["mkpath", "rmtree"]), ("File::Glob", []), ("Getopt::Long", []),
    ("Hash::Util", []), ("Text::ParseWords", []), ("Text::Wrap", []), ("Text::Tabs", []),
    ("Carp", ["croak", "carp", "confess"]), ("Cwd", ["getcwd", "cwd"]),
    ("File::Basename", ["basename", "dirname"]), ("List::Util", []), ("Scalar::Util", []),
    ("POSIX", ["floor", "ceil", "fmod", "pow", "strtol", "isatty", "WIFEXITED", "WEXITSTATUS",
      "WIFSIGNALED", "WTERMSIG"])]

/-- The functions of modules that take no arguments. -/
def moduleConstants : List String := ["getcwd", "cwd"]

/-- The name of the file of a module. -/
def moduleFile (name : String) : String := "/".intercalate (name.splitOn "::") ++ ".pm"

/-- What is said of a module that is not there. -/
def noModuleText (name : String) : String :=
  "Can't locate " ++ moduleFile name ++ " in @INC (you may need to install the " ++ name ++
    " module) (@INC contains: " ++ " ".intercalate modulePlaces ++ ")"

/-- The names in a list of texts. -/
def namesOf : Expr → List String
  | .text s => [s]
  | .list items => items.flatMap fun item =>
    match item with
    | .text s => [s]
    | .list inside => inside.filterMap fun e =>
      match e with
      | .text s => some s
      | _ => none
    | _ => []
  | _ => []

/-- The names that a list of names and values defines. -/
def definedNames : List Expr → List String
  | .text s :: _ :: rest => s :: definedNames rest
  | _ => []

/-- Takes what a script asks for of a module. -/
def useModule (line : Nat) (name : String) (arguments : Option Expr) : Reading Block := do
  match modules.find? fun m => m.1 == name with
  | none => throw (.noModule line name)
  | some (_, usual) =>
    let names := (arguments.map namesOf).getD usual
    if name == "constant" then
      match arguments with
      | some (.newHash items) =>
        modify fun s => { s with constants := definedNames items ++ s.constants }
        return (pairsOf items).map fun items =>
          .expression line (.function "constant" items)
      | some e =>
        modify fun s => { s with constants := (definedNames (itemsOf e)).take 1 ++ s.constants }
        return [.expression line (.function "constant" (itemsOf e))]
      | none => return []
    if name == "strict" then modify fun s => { s with isStrict := true }
    if name == "warnings" then modify fun s => { s with warns := true }
    if name == "vars" then modify fun s => { s with declared := names ++ s.declared }
    if name == "feature" && names.any fun n => n == "say" || n.startsWith ":" then
      modify fun s => { s with hasLines := true }
    let names := names.filter fun n => n.toList.head?.any isNameStart
    modify fun s =>
      { s with
        functions := names ++ s.functions
        constants := (names.filter moduleConstants.contains) ++ s.constants }
    return []
where
  /-- The members of a list in pairs. -/
  pairsOf : List Expr → List (List Expr)
    | a :: b :: rest => [a, b] :: pairsOf rest
    | _ => []

/-- Reads what a script asks for of a module or of the language. -/
def usingBehind (inner : Inner) (isUse : Bool) : Reading Block := do
  let line := (← get).line
  let cs ← ahead
  if cs.head? == some 'v' && (cs.drop 1).head?.any Char.isDigit || cs.head?.any Char.isDigit then
    goOn (cs.dropWhile fun c => isNameChar c || c == '.')
    if isUse then modify fun s => { s with hasLines := true }
    let _ ← accept ";"
    return []
  let name ← wordAhead
  if name.isEmpty then refuse
  goOn ((← get).rest.drop name.length)
  let arguments ←
    if startsOperand (← ahead) then pure (some (← inner.expression listRank)) else pure none
  let _ ← accept ";"
  if isUse then useModule line name arguments
  else
    if name == "strict" then modify fun s => { s with isStrict := false }
    if name == "warnings" then modify fun s => { s with warns := false }
    return []

/-! ## Statements -/

/-- Reads an expression in parentheses. -/
def test (inner : Inner) : Reading Expr := do
  expect "("
  let e ← inner.expression 0
  expect ")"
  return e

/-- The test of a loop: one that reads a line goes on as long as there is one. -/
def loopTest (e : Expr) : Expr :=
  match e with
  | .readLine _ => .function "defined" [.assign (.named .scalar "_") e]
  | .function "glob" _ => .function "defined" [.assign (.named .scalar "_") e]
  | .assign _ (.readLine _) => .function "defined" [e]
  | .assign (.declared _ _ false) (.function "shift" _) => e
  | .assign _ (.function "readdir" _) => .function "defined" [e]
  | e => e

/-- Reads the other branches of a choice. -/
def branches (inner : Inner) : Nat → Reading (List (Expr × Block) × Block)
  | 0 => refuse
  | n + 1 => do
    if ← acceptWord "elsif" then
      let e ← test inner
      let body ← blockAhead inner
      let (rest, other) ← branches inner n
      return ((e, body) :: rest, other)
    if ← acceptWord "else" then return ([], ← blockAhead inner)
    return ([], [])

/-- Reads a choice between blocks. -/
def choiceBehind (inner : Inner) (isNegated : Bool) : Reading Statement := do
  let line := (← get).line
  let e ← test inner
  let body ← blockAhead inner
  let (rest, other) ← branches inner ((← get).rest.length + 1)
  return .choose line ((if isNegated then .signed .not e else e, body) :: rest) other

/-- Reads a loop with a test. -/
def loopBehind (inner : Inner) (label : String) (isNegated : Bool) : Reading Statement := do
  let line := (← get).line
  expect "("
  let e ← if (← ahead).head? == some ')' then pure (.whole 1) else inner.expression 0
  expect ")"
  let body ← blockAhead inner
  let step ←
    if ← acceptWord "continue" then pure (some (.block (← blockAhead inner))) else pure none
  let e := loopTest e
  return .loop line label (some (if isNegated then .signed .not e else e)) body step

/-- Reads a loop over a list, or one with a start, a test and a step. -/
def eachBehind (inner : Inner) (label : String) : Reading Block := do
  let line := (← get).line
  let isLexical ← do
    if ← acceptWord "my" then pure true
    else if ← acceptWord "our" then pure false
    else acceptWord "state"
  let cs ← ahead
  match cs with
  | '$' :: rest =>
    let name := rest.takeWhile isNameChar
    goOn (rest.drop name.length)
    if isLexical then addDeclared .scalar (String.ofList name)
    let list ←
      if ← accept "(" then .list <$> argumentsBehind inner else inner.expression assignRank
    return [.each line label isLexical (String.ofList name) list (← blockAhead inner)]
  | _ =>
    let isWords := (← wordAhead) == "qw"
    if isWords then
      let list ← inner.expression assignRank
      return [.each line label false "_" list (← blockAhead inner)]
    expect "("
    let optional (closing : String) : Reading (Option Expr) := do
      if ← accept closing then return none
      let e ← inner.expression 0
      return some e
    let first ← optional ";"
    if first.isSome && (← accept ")") then
      let list := Expr.list ((first.map itemsOf).getD [])
      return [.each line label false "_" list (← blockAhead inner)]
    match first with
    | none =>
      if ← accept ")" then return [.each line label false "_" (.list []) (← blockAhead inner)]
    | some _ => expect ";"
    let e ← optional ";"
    if e.isSome then expect ";"
    let step ← optional ")"
    if step.isSome then expect ")"
    let loop := Statement.loop line label (e.map loopTest) (← blockAhead inner) step
    match first with
    | some e => return [.block "" [.expression line e, loop]]
    | none => return [loop]

/-- True if a brace opens a table and not a block, by what stands behind it. -/
def opensHash (cs : List Char) : Bool :=
  let cs := cs.dropWhile isSpace
  let word := cs.takeWhile isNameChar
  let rest :=
    match cs with
    | '"' :: more => some ((more.dropWhile (· != '"')).drop 1)
    | '\'' :: more => some ((more.dropWhile (· != '\'')).drop 1)
    | '$' :: more => some (more.dropWhile isNameChar)
    | cs => if word.isEmpty then none else some (cs.drop word.length)
  match rest.map (·.dropWhile isSpace) with
  | some ('=' :: '>' :: _) => true
  | some (',' :: _) => cs.head? != some '$' && !(cs.head?.any Char.isLower)
  | _ => false

/-- Reads what may stand behind the expression of a statement. -/
def modified (inner : Inner) (line : Nat) (e : Expr) : Reading Statement := do
  let simple : Statement := .expression line e
  let word ← wordAhead
  let condition : Reading Expr := do
    goOn ((← get).rest.drop word.length)
    inner.expression 0
  match word with
  | "if" => return .expression line (.choice .both (← condition) e)
  | "unless" => return .expression line (.choice .either (← condition) e)
  | "while" =>
    let test := loopTest (← condition)
    match e with
    | .block body => return .again line body test
    | _ => return .loop line "" (some test) [simple] none
  | "until" =>
    let test := Expr.signed .not (← condition)
    match e with
    | .block body => return .again line body test
    | _ => return .loop line "" (some test) [simple] none
  | "for" => return .each line "" false "_" (← condition) [simple]
  | "foreach" => return .each line "" false "_" (← condition) [simple]
  | _ => return simple

/-- Reads a statement that is an expression. -/
def simpleStatement (inner : Inner) : Reading Block := do
  let line := (← get).line
  let e ← inner.expression 0
  let statement ← modified inner line e
  let cs ← ahead
  if cs.head? == some ';' then goOn (cs.drop 1)
  else if !(cs.isEmpty || cs.head? == some '\x7d') then refuseNext true
  return [statement]

/-- The label at the start of some characters, and what follows. -/
def labelAtStart? (cs : List Char) : Option (String × List Char) :=
  let word := cs.takeWhile isNameChar
  if word.isEmpty || !word.all (fun c => !c.isLower) || word.head?.any Char.isDigit then none
  else
    match (cs.drop word.length).dropWhile isSpace with
    | ':' :: rest => if rest.head? == some ':' then none else some (String.ofList word, rest)
    | _ => none

/-- Reads a statement behind its label. -/
def statement (inner : Inner) (label : String) : Reading Block := do
  let cs ← ahead
  let word ← wordAhead
  let rest := cs.drop word.length
  let named : Bool := (rest.dropWhile isSpace).take 2 == ['=', '>']
  match cs, (if named then "" else word) with
  | '\x7b' :: inside, _ =>
    if opensHash inside then simpleStatement inner
    else return [.block label (← blockAhead inner)]
  | _, "if" =>
    goOn rest
    return [← choiceBehind inner false]
  | _, "unless" =>
    goOn rest
    return [← choiceBehind inner true]
  | _, "while" =>
    goOn rest
    return [← loopBehind inner label false]
  | _, "until" =>
    goOn rest
    return [← loopBehind inner label true]
  | _, "for" =>
    goOn rest
    eachBehind inner label
  | _, "foreach" =>
    goOn rest
    eachBehind inner label
  | _, "use" =>
    goOn rest
    usingBehind inner true
  | _, "no" =>
    goOn rest
    usingBehind inner false
  | _, "package" =>
    goOn rest
    goOn ((← get).rest.drop (← wordAhead).length)
    if (← ahead).head? == some '\x7b' then return [.block "" (← blockAhead inner)]
    let _ ← accept ";"
    return []
  | _, "BEGIN" =>
    goOn rest
    return [.block "BEGIN" (← blockAhead inner)]
  | _, "END" =>
    goOn rest
    let body ← blockAhead inner
    modify fun s => { s with ending := body :: s.ending }
    return []
  | _, "sub" =>
    goOn rest
    let name ← wordAhead
    if name.isEmpty then
      goOn cs
      return ← simpleStatement inner
    goOn ((← get).rest.drop name.length)
    let name := ownName name.toList
    let isConstant := (((← ahead).filter (!isSpace ·)).take 3) == ['(', ')', '\x7b']
    modify fun s =>
      { s with
        functions := name :: s.functions
        constants := if isConstant then name :: s.constants else s.constants }
    if ← accept ";" then return []
    return [.function name (← functionBody inner)]
  | _, _ => simpleStatement inner

/-- The words that end a script before the end of its text. -/
def endWords : List String := ["__END__", "__DATA__"]

/-- Reads statements up to a closing brace or the end of the text. -/
def statementsWith (inner : Inner) : Nat → Reading Block
  | 0 => return []
  | n + 1 => do
    let cs ← ahead
    match cs with
    | [] => return []
    | '\x7d' :: _ => return []
    | ';' :: rest =>
      goOn rest
      statementsWith inner n
    | cs =>
      if endWords.contains (← wordAhead) then
        let data := (cs.dropWhile (· != '\n')).drop 1
        modify fun s => { s with rest := [], data := some (String.ofList data) }
        return []
      let first ←
        match labelAtStart? cs with
        | some (label, rest) =>
          goOn rest
          statement inner label
        | none => statement inner ""
      return first ++ (← statementsWith inner n)

/-- What reads expressions and statements with at most as many levels inside each other. -/
def inner : Nat → Inner
  | 0 => ⟨fun _ => refuse, refuse⟩
  | n + 1 =>
    ⟨fun least => expressionWith (inner n) least,
      do statementsWith (inner n) ((← get).rest.length + 1)⟩

/-! ## Scripts -/

/-- The source of a script. -/
def Source.ofText (hasLines : Bool) (text : String) : Source :=
  let cs := text.toList
  ⟨cs, 1, 0, (cs, cs), 0, [], [], hasLines, false, false, [], [], [], none⟩

/-- Reads all statements of a text. -/
def readAll : Reading Block := do
  let s ← get
  let body ← (inner (s.rest.length + 1)).statements
  let cs ← ahead
  unless cs.isEmpty do
    let s ← get
    throw (.unexpected s.line "\x7d" "Unmatched right curly bracket|, at end of line")
  return body

/-- The script that a text is, and the source behind it. -/
def parse (source : Source) : Except Refusal (Script × Source) := do
  let (body, source) ← readAll.run source
  unless source.faults.isEmpty do throw (.faulty source.faults.reverse)
  return (⟨body, source.ending, source.data⟩, source)

/-- What is said of a script that is refused; `file` is its name. -/
def Refusal.message (file : String) : Refusal → String
  | .unexpected line near hint =>
    let around := ", near \"" ++ near ++ "\"\n"
    let first :=
      match hint.splitOn "|" with
      | [what, more] =>
        if more.startsWith "," then what ++ place line ++ more ++ "\n"
        else what ++ place line ++ around ++ more
      | _ => ""
    first ++ "syntax error" ++ place line ++ around ++ aborted
  | .unclosed line isOpen =>
    (if isOpen then "Missing right curly or square bracket" ++ place line ++ ", at end of line\n"
      else "") ++ "syntax error" ++ place line ++ ", at EOF\n" ++ aborted
  | .noTerminator line mark =>
    "Can't find string terminator " ++ mark ++ " anywhere before EOF" ++ place line ++ ".\n"
  | .noPatternEnd line what => what ++ " not terminated" ++ place line ++ ".\n"
  | .noModule line name =>
    noModuleText name ++ place line ++ ".\nBEGIN failed--compilation aborted" ++ place line ++ ".\n"
  | .faulty messages =>
    String.join (messages.map fun message =>
      match message.splitOn "|" with
      | [what, line] => what ++ " at " ++ file ++ " line " ++ line ++ ".\n"
      | _ => message ++ "\n") ++ aborted
  | .other line message => message ++ place line ++ ".\n"
where
  /-- Where something is wrong, unless it stands before the script. -/
  place (line : Nat) : String :=
    if line == 0 then "" else " at " ++ file ++ " line " ++ toString line
  /-- What is said at the end. -/
  aborted : String := "Execution of " ++ file ++ " aborted due to compilation errors.\n"

end PointerTagging.Host.Scripting
