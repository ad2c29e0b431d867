import PointerTagging.Host.Shell.Reader
/-!
# Reading commands

The grammar of the shell by recursive descent. What stands inside another command is read by a
reader one level below, so each reader is a plain definition over the next one, and the number of
levels is bounded by the length of the script.
-/

namespace PointerTagging.Host.Shell

open Reading

/-- How far a list of commands reaches. -/
inductive Extent where
  /-- To the end of the line. -/
  | line
  /-- To the word that closes the surrounding command; the list is not empty. -/
  | body
  /-- The same, and the list may be empty. -/
  | clause
  deriving DecidableEq

/-- What reads lists of commands one level below. -/
abbrev Lists := Extent → Reading (Option Command)

/-- The builtins whose names no function can have. -/
def specialBuiltins : List String :=
  [".", ":", "break", "continue", "eval", "exec", "exit", "export", "readonly", "return", "set",
    "shift", "times", "trap", "unset"]

/-- The signs that close a list in another command. -/
def closingSigns : List String :=
  [")", ";;", ";&", ";;&", "\x7d", "do", "done", "elif", "else", "esac", "fi", "then"]

/-- True of a token that closes a list in another command. -/
def Token.closes : Token → Bool
  | .endOfFile => true
  | .sign text => closingSigns.contains text
  | _ => false

/-- The command that prints a file, in the place of one that is nothing but a file to read. -/
def printingFile (command : Command) : Command :=
  match command with
  | .simple line [] [] [.mk 0 (.read path)] =>
    let word : Word := "cat".toList.map fun c => .char c false
    .simple line [] [word] [.mk 0 (.read path)]
  | command => command

/-- What reads the commands in a substitution. -/
def nestedBy (lists : Lists) (tokenBelow : Reading Token) : Nested := fun closed => do
  let command ← lists .clause
  let command := if ← isExtended then command.map printingFile else command
  if closed then
    match ← tokenBelow with
    | .sign ")" => return command
    | .endOfFile =>
      if ← isExtended then unfinished (← get).line ")" ""
      unexpected .endOfFile (some (.sign ")"))
    | other => unexpected other (some (.sign ")"))
  else return command

/-- The reader of substitutions whose own words hold no further ones. -/
def flat : Nested := fun _ => throw "Word too complex"

/-- The reader of the commands in substitutions. After a list the token that closes it is held, so
it is read without a look at the script. -/
def nested (lists : Lists) : Nested := nestedBy lists (token flat .word)

/-- Reads a list that is not empty. It is missing only where the script ends, and then what is
expected behind it is missing too. -/
def block (lists : Lists) : Reading Command := do return (← lists .body).getD default

/-! ## Redirections -/

/-- The redirection of the errors to where the output goes. -/
def errorsToOutput : Redirection := .mk 2 (.duplicate [.char '1' false])

/-- True of a word that is a name of a file and no descriptor. -/
def isFileName (word : Word) : Bool :=
  match word.bare? with
  | some text => text != "-" && text.toList.any fun c => !c.isDigit
  | none => false

/-- The redirections that an operator and a word make. -/
def redirectionsOf (lists : Lists) (descriptor : Option Nat) (operator : String) (word : Word) :
    Reading (List Redirection) := do
  match operator with
  | "<" => return [.mk (descriptor.getD 0) (.read word)]
  | "<>" => return [.mk (descriptor.getD 0) (.update word)]
  | "<&" => return [.mk (descriptor.getD 0) (.duplicate word)]
  | ">&" =>
    if (← isExtended) && descriptor.isNone && isFileName word then
      return [.mk 1 (.write word), errorsToOutput]
    return [.mk (descriptor.getD 1) (.duplicate word)]
  | ">>" => return [.mk (descriptor.getD 1) (.append word)]
  | "<<" =>
    return [.mk (descriptor.getD 0) (.document (← readDocument (nested lists) false word))]
  | "<<-" =>
    return [.mk (descriptor.getD 0) (.document (← readDocument (nested lists) true word))]
  | "<<<" => return [.mk (descriptor.getD 0) (.document (word ++ [.char '\n' true]))]
  | "&>" => return [.mk 1 (.write word), errorsToOutput]
  | "&>>" => return [.mk 1 (.append word), errorsToOutput]
  | _ => return [.mk (descriptor.getD 1) (.write word)]

/-- Reads the rest of a redirection. -/
def redirection (lists : Lists) (descriptor : Option Nat) (operator : String) :
    Reading (List Redirection) := do
  match ← token (nested lists) .word with
  | .word word => redirectionsOf lists descriptor operator word
  | other => unexpected other none

/-- Reads the redirections behind a command. -/
def redirections (lists : Lists) : Nat → Reading (List Redirection)
  | 0 => return []
  | n + 1 => do
    match ← token (nested lists) .start with
    | .redirection descriptor operator =>
      let first ← redirection lists descriptor operator
      return first ++ (← redirections lists n)
    | other =>
      hold other
      return []

/-! ## Simple commands -/

/-- A simple command under construction, its parts in reverse. -/
structure Draft where
  assignments : List Assignment
  words : List Word
  redirections : List Redirection

/-- The command of a draft. -/
def Draft.command (draft : Draft) (line : Nat) : Command :=
  .simple line draft.assignments.reverse draft.words.reverse draft.redirections.reverse

/-- The signs that begin a command with others inside. -/
def compoundSigns : List String :=
  ["(", "\x7b", "if", "while", "until", "for", "case", "[[", "time"]

/-- Reads the body of a function, which has to be a command with others inside. -/
def functionBody (lists : Lists) (command : Reading Command) : Reading Command := do
  match ← token (nested lists) .anywhere with
  | .sign text =>
    if compoundSigns.contains text then
      hold (.sign text)
      command
    else unexpected (.sign text) none
  | other => unexpected other none

/-- Reads the rest of a definition of a function. -/
def definition (lists : Lists) (command : Reading Command) (name : Word) : Reading Command := do
  expect (nested lists) .word ")"
  if ← isExtended then
    return .definition (name.bare?.getD name.text) (← functionBody lists command)
  match name.bare? with
  | none => throw "Bad function name"
  | some name =>
    if isName name && !specialBuiltins.contains name then
      return .definition name (← command)
    else throw "Bad function name"

/-- Reads the rest of a simple command or of a definition; `command` reads the command on the next
lines. -/
def simpleCommand (lists : Lists) (command : Reading Command) (line : Nat) :
    Nat → Draft → Reading Command
  | 0, draft => return draft.command line
  | n + 1, draft => do
    match ← token (nested lists) .word with
    | .word word =>
      let dialect := (← get).dialect
      match (if draft.words.isEmpty then word.assignment? dialect else none) with
      | some assignment =>
        simpleCommand lists command line n
          { draft with assignments := assignment :: draft.assignments }
      | none => simpleCommand lists command line n { draft with words := word :: draft.words }
    | .redirection descriptor operator =>
      let redirections ← redirection lists descriptor operator
      simpleCommand lists command line n
        { draft with redirections := redirections.reverse ++ draft.redirections }
    | .sign "(" =>
      match draft with
      | ⟨[], [name], []⟩ => definition lists command name
      | draft =>
        hold (.sign "(")
        return draft.command line
    | other =>
      hold other
      return draft.command line

/-! ## Compound commands -/

/-- Reads on behind a test: the commands for success and the alternatives, up to `fi`. -/
def branches (lists : Lists) (test : Command) : Nat → Reading Command
  | 0 => throw "Command too long"
  | n + 1 => do
    expect (nested lists) .word "then"
    let positive ← block lists
    match ← token (nested lists) .word with
    | .sign "elif" =>
      let next ← block lists
      return .conditional test positive (some (← branches lists next n))
    | .sign "else" =>
      let negative ← block lists
      expect (nested lists) .word "fi"
      return .conditional test positive (some negative)
    | .sign "fi" => return .conditional test positive none
    | other => unexpected other (some (.sign "fi"))

/-- Reads words up to the end of their line. -/
def wordsToEnd (lists : Lists) : Nat → Reading (List Word)
  | 0 => return []
  | n + 1 => do
    match ← token (nested lists) .word with
    | .word word => return word :: (← wordsToEnd lists n)
    | .newline => return []
    | .sign ";" => return []
    | other => unexpected other none

/-- The words of a loop that names none: all positional parameters. -/
def allPositions : List Word := [[.parameter .all .value true]]

/-- Reads the rest of a loop over words. -/
def iteration (lists : Lists) (line : Nat) : Reading Command := do
  match ← token (nested lists) .word with
  | .word word =>
    match word.bare?.filter isName with
    | none => throw "Bad for loop variable"
    | some name =>
      let words ←
        match ← token (nested lists) .anywhere with
        | .sign "in" => wordsToEnd lists (← room)
        | .sign ";" => pure allPositions
        | other => do
          hold other
          pure allPositions
      expect (nested lists) .anywhere "do"
      let body ← block lists
      expect (nested lists) .word "done"
      return .iteration line name words body
  | _ => throw "Bad for loop variable"

/-- The word that a token stands for as a pattern. -/
def patternOf : Token → Word
  | .word word => word
  | .sign text => text.toList.map fun c => .char c false
  | _ => []

/-- Reads the patterns of a clause, the first one from a token, up to the parenthesis behind
them. -/
def patterns (lists : Lists) (first : Token) : Nat → Reading (List Word)
  | 0 => throw "Command too long"
  | n + 1 => do
    match ← token (nested lists) .word with
    | .sign "|" => return patternOf first :: (← patterns lists (← token (nested lists) .word) n)
    | .sign ")" => return [patternOf first]
    | other => unexpected other (some (.sign ")"))

/-- The end of a clause that a sign stands for. -/
def clauseEnd? (sign : String) : Option ClauseEnd :=
  match sign with
  | ";;" => some .leave
  | ";&" => some .fallThrough
  | ";;&" => some .tryOthers
  | _ => none

/-- Reads the clauses of a choice up to `esac`. -/
def clauses (lists : Lists) : Nat → Reading (List (List Word × Option Command × ClauseEnd))
  | 0 => throw "Command too long"
  | n + 1 => do
    match ← token (nested lists) .anywhere with
    | .sign "esac" => return []
    | first =>
      let first ←
        match first with
        | .sign "(" => token (nested lists) .word
        | first => pure first
      let words ← patterns lists first (← room)
      let body ← lists .clause
      match ← token (nested lists) .anywhere with
      | .sign "esac" => return [(words, body, .leave)]
      | .sign sign =>
        match clauseEnd? sign with
        | some ending => return (words, body, ending) :: (← clauses lists n)
        | none => unexpected (.sign sign) (some (.sign ";;"))
      | other => unexpected other (some (.sign ";;"))

/-- Reads the rest of a choice. -/
def choice (lists : Lists) (line : Nat) : Reading Command := do
  match ← token (nested lists) .word with
  | .word word =>
    expect (nested lists) .anywhere "in"
    return .choice line word (← clauses lists (← room))
  | other => unexpected other (some (.word []))

/-! ## Commands of the extended dialect -/

/-- The questions about a single word. -/
def unaryTests : List String :=
  ["-a", "-b", "-c", "-d", "-e", "-f", "-g", "-h", "-k", "-n", "-o", "-p", "-r", "-s", "-t", "-u",
    "-v", "-w", "-x", "-z", "-G", "-L", "-N", "-O", "-R", "-S"]

/-- The comparisons of two words. -/
def binaryTests : List String :=
  ["=", "==", "!=", "=~", "-eq", "-ne", "-lt", "-le", "-gt", "-ge", "-nt", "-ot", "-ef"]

/-- Refuses a condition at the latest token. -/
def badTest (complaint : String) : Reading α := do
  let near := "syntax error near \x60" ++ (← get).latest ++ "'"
  throw (if complaint.isEmpty then near else complaint ++ "\n" ++ near)

/-- Reads the second operand of a comparison. -/
def secondOperand (lists : Lists) (operator : String) : Reading Word := do
  if operator == "=~" then
    skipBlanks (← room)
    return ← readParts (nested lists) (.regex 0) (← partsRoom)
  match ← token (nested lists) .word with
  | .word word =>
    if word.bare? != some "]]" then return word
    badTest "unexpected argument \x60]]' to conditional binary operator"
  | _ => badTest "unexpected argument to conditional binary operator"

/-- Reads on behind a word of a condition that is no question: a comparison, or the word is one by
itself. -/
def comparison (lists : Lists) (word : Word) : Reading Test := do
  match ← token (nested lists) .word with
  | .word next =>
    match next.bare? with
    | some "]]" =>
      hold (.word next)
      return .unary "-n" word
    | some operator =>
      if binaryTests.contains operator then
        return .binary operator word (← secondOperand lists operator)
      badTest "conditional binary operator expected"
    | none => badTest "conditional binary operator expected"
  | .redirection none "<" => return .binary "<" word (← secondOperand lists "<")
  | .redirection none ">" => return .binary ">" word (← secondOperand lists ">")
  | .newline =>
    modify fun source => { source with line := source.line - 1, latest := word.text }
    badTest "unexpected token \x60newline', conditional binary operator expected"
  | other =>
    hold other
    return .unary "-n" word

/-- Reads a condition in parentheses, a negated one, a question or a comparison; `whole` reads a
condition one level below. -/
def simpleTest (lists : Lists) (whole : Reading Test) : Nat → Reading Test
  | 0 => throw "Command too long"
  | n + 1 => do
    match ← token (nested lists) ⟨true, false⟩ with
    | .sign "(" =>
      let test ← whole
      expect (nested lists) ⟨true, false⟩ ")"
      return test
    | .word word =>
      match word.bare? with
      | some "!" => return .negation (← simpleTest lists whole n)
      | some "]]" => badTest ""
      | some text =>
        if unaryTests.contains text then
          match ← token (nested lists) .word with
          | .word operand =>
            if operand.bare? == some "]]" then
              hold (.word operand)
              return .unary "-n" word
            return .unary text operand
          | other =>
            hold other
            comparison lists word
        else comparison lists word
      | none => comparison lists word
    | .endOfFile => unexpected .endOfFile none
    | _ => badTest ""

/-- Reads conditions that are linked by a sign. -/
def linkedTests (lists : Lists) (sign : String) (link : Test → Test → Test)
    (operand : Reading Test) : Nat → Reading Test
  | 0 => operand
  | n + 1 => do
    let first ← operand
    match ← token (nested lists) ⟨true, false⟩ with
    | .sign text =>
      if text == sign then return link first (← linkedTests lists sign link operand n)
      hold (.sign text)
      return first
    | other =>
      hold other
      return first

/-- Reads a condition with at most as many levels. -/
def test (lists : Lists) : Nat → Reading Test
  | 0 => throw "Command too long"
  | n + 1 => do
    let room ← room
    let conjunction := linkedTests lists "&&" .conjunction (simpleTest lists (test lists n) room)
    linkedTests lists "||" .disjunction (conjunction room) room

/-- Reads a condition up to the brackets behind it. -/
def bracketedTest (lists : Lists) : Reading Test := do
  let test ← test lists (← room)
  match ← token (nested lists) ⟨true, false⟩ with
  | .word word => if word.bare? == some "]]" then return test else badTest ""
  | .endOfFile => unexpected .endOfFile none
  | _ => badTest ""

/-- The parts of an expression at its semicolons. -/
def splitExpression (parts : Word) : List Word :=
  parts.foldr
    (fun part groups =>
      match part, groups with
      | .char ';' _, groups => [] :: groups
      | part, [] => [[part]]
      | part, group :: groups => (part :: group) :: groups)
    [[]]

/-- Reads an arithmetic expression behind its parentheses, if the text up to the closing ones is
one. -/
def calculation? (lists : Lists) : Reading (Option Word) := do
  let source ← get
  tryCatch (do return some (← readParts (nested lists) (.arithmetic 0) (← partsRoom))) fun _ => do
    set source
    return none

/-- Reads the rest of a loop that counts. -/
def countingLoop (lists : Lists) (line : Nat) : Reading Command := do
  let parts ← readParts (nested lists) (.arithmetic 0) (← partsRoom)
  match ← token (nested lists) .start with
  | .sign ";" => pure ()
  | other => hold other
  expect (nested lists) .anywhere "do"
  let body ← block lists
  expect (nested lists) .word "done"
  match splitExpression parts with
  | [start, test, next] => return .counting line start test next body
  | _ => throw "syntax error: arithmetic expression required"

/-- Reads the rest of a definition behind its word; `command` reads the command that follows. -/
def functionDefinition (lists : Lists) (command : Reading Command) : Reading Command := do
  match ← token (nested lists) .word with
  | .word name =>
    match ← token (nested lists) .start with
    | .sign "(" => expect (nested lists) .word ")"
    | other => hold other
    return .definition (name.bare?.getD name.text) (← functionBody lists command)
  | other => unexpected other none

/-- A command with the redirections behind it. -/
def redirect (line : Nat) (command : Command) (redirections : List Redirection) : Command :=
  match redirections, command with
  | [], command => command
  | redirections, .subshell line command _ => .subshell line command redirections
  | redirections, command => .redirected line command redirections

/-- Reads a command whose first token is read; `next` reads the command on the next lines. -/
def commandFrom (lists : Lists) (next : Reading Command) (first : Token) : Reading Command := do
  let line := (← get).line
  let enclosed (sign : String) : Reading Command := do
    let command ← block lists
    expect (nested lists) .word sign
    return command
  let looped (untilSuccess : Bool) : Reading Command := do
    let test ← block lists
    expect (nested lists) .word "do"
    let body ← block lists
    expect (nested lists) .word "done"
    return .loop untilSuccess test body
  let parenthesis : Reading Command := do
    if (← isExtended) && (← accept '(') then
      match ← calculation? lists with
      | some expression => return .calculation line expression
      | none => modify fun source => { source with rest := '(' :: source.rest }
    return .subshell line (← enclosed ")") []
  let loop : Reading Command := do
    if ← isExtended then
      skipBlanks (← room)
      if ← acceptText "((" then return ← countingLoop lists line
    iteration lists line
  let compound : Option (Reading Command) :=
    match first with
    | .sign "if" => some do branches lists (← block lists) (← room)
    | .sign "while" => some (looped false)
    | .sign "until" => some (looped true)
    | .sign "for" => some loop
    | .sign "case" => some (choice lists line)
    | .sign "(" => some parenthesis
    | .sign "[[" => some do return .condition line (← bracketedTest lists)
    | .sign "function" => some (functionDefinition lists next)
    | .sign "time" => some do return .timed (← next)
    | .sign "\x7b" => some do
      let command ← enclosed "\x7d"
      return if ← isExtended then .redirected line command [] else command
    | _ => none
  match compound, first with
  | some compound, _ =>
    let command ← compound
    return redirect line command (← redirections lists (← room))
  | none, .word _ =>
    hold first
    simpleCommand lists next line (← room) ⟨[], [], []⟩
  | none, .redirection .. =>
    hold first
    simpleCommand lists next line (← room) ⟨[], [], []⟩
  | none, first => unexpected first none

/-- Reads a command. -/
def command (lists : Lists) (outlook : Outlook) : Nat → Reading Command
  | 0 => throw "Command too long"
  | n + 1 => do
    commandFrom lists (command lists .anywhere n) (← token (nested lists) outlook)

/-! ## Lists -/

/-- Reads the commands of a pipeline; the errors of those before `|&` go where their output goes. -/
def pipelineFrom (lists : Lists) (outlook : Outlook) : Nat → Reading (List Command)
  | 0 => return []
  | n + 1 => do
    let line := (← get).line
    let first ← command lists outlook (← room)
    match ← token (nested lists) .word with
    | .sign "|" => return first :: (← pipelineFrom lists .anywhere n)
    | .sign "|&" =>
      return redirect line first [errorsToOutput] :: (← pipelineFrom lists .anywhere n)
    | other =>
      hold other
      return [first]

/-- Reads a pipeline. -/
def pipeline (lists : Lists) (outlook : Outlook) : Reading Command := do
  let negated ←
    match ← token (nested lists) outlook with
    | .sign "!" => pure true
    | other => do
      hold other
      pure false
  let commands ← pipelineFrom lists .start (← room)
  let all :=
    match commands with
    | [command] => command
    | commands => .pipeline commands
  return if negated then .negation all else all

/-- Reads the pipelines that are linked to the one before. -/
def linked (lists : Lists) : Nat → Command → Reading Command
  | 0, before => return before
  | n + 1, before => do
    match ← token (nested lists) .word with
    | .sign "&&" => linked lists n (.conjunction before (← pipeline lists .anywhere))
    | .sign "||" => linked lists n (.disjunction before (← pipeline lists .anywhere))
    | other =>
      hold other
      return before

/-- The commands of a list so far and one more. -/
def andThen : Option Command → Command → Command
  | none, command => command
  | some before, command => .sequence before command

/-- Reads the rest of a list; nothing is returned for a line without commands. -/
def listRest (lists : Lists) (extent : Extent) (mayClose : Bool) :
    Nat → Option Command → Reading (Option Command)
  | 0, before => return before
  | n + 1, before => do
    let outlook : Outlook := ⟨extent != .line, true⟩
    match ← token (nested lists) outlook with
    | .newline => return before
    | .endOfFile =>
      hold .endOfFile
      return before
    | first =>
      hold first
      if mayClose && first.closes then return before
      let line := (← get).line
      let item ← linked lists (← room) (← pipeline lists outlook)
      let goOn (command : Command) : Reading (Option Command) :=
        listRest lists extent (extent != .line) n (some (andThen before command))
      match ← token (nested lists) .word with
      | .endOfFile =>
        hold .endOfFile
        return some (andThen before item)
      | .newline =>
        hold .newline
        goOn item
      | .sign "&" => goOn (.background line item)
      | .sign ";" => goOn item
      | other =>
        if extent == .line then unexpected other none
        hold other
        return some (andThen before item)

/-- Reads lists of commands with at most `n` levels inside. -/
def listsOf : Nat → Lists
  | 0, _ => throw "Command too deep"
  | n + 1, extent => do
    listRest (listsOf n) extent (extent == .clause) (← room) none

/-- What a script begins with. -/
inductive Line where
  /-- The script is at its end. -/
  | ending
  /-- Commands, if the line has any, and whether the script ends behind them. -/
  | commands (command : Option Command) (last : Bool)
  /-- What breaks a rule, and where. -/
  | broken (line : Nat) (complaint : String)

/-- Reads a line of a script, and what is left of the script. -/
def readLine (source : Source) : Line × Source :=
  match (listsOf (source.rest.length + 1) .line).run source with
  | (.error complaint, source) => (.broken source.line complaint, source)
  | (.ok command, source) =>
    match command, source.held with
    | none, some .endOfFile => (.ending, source)
    | command, some .endOfFile => (.commands command true, { source with held := none })
    | command, _ => (.commands command false, source)

/-- A script at its start. In the extended dialect its last line counts as complete. -/
def Source.ofScript (dialect : Dialect) (text : String) : Source :=
  let isComplete := dialect == .common || text.isEmpty || text.endsWith "\n"
  ⟨dialect, if isComplete then text.toList else text.toList ++ ['\n'], 1, 0, none, ""⟩

end PointerTagging.Host.Shell
