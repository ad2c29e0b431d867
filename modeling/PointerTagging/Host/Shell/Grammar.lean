/-!
# Commands of the shell

What a script consists of: words with their quoting, redirections, and commands. Every character
stands for a byte.
-/

namespace PointerTagging.Host.Shell

/-- A language of scripts. -/
inductive Dialect where
  /-- The language that all shells share. -/
  | common
  /-- That language with arrays, conditions and more forms of parameters. -/
  | extended
  deriving DecidableEq, Repr

/-- A parameter of the shell. -/
inductive Parameter where
  | named (name : String)
  | position (n : Nat)
  /-- All positional parameters, each a field of its own. -/
  | all
  /-- All positional parameters, joined. -/
  | joined
  /-- The number of positional parameters. -/
  | count
  | status
  /-- The process number of the shell. -/
  | pid
  /-- The process number of the last command in the background. -/
  | lastPid
  /-- The letters of the options that are on. -/
  | options
  /-- An element of an array. -/
  | element (name key : String)
  /-- All elements of an array, each a field of its own or joined. -/
  | elements (name : String) (areJoined : Bool)
  /-- All keys of an array. -/
  | keys (name : String) (areJoined : Bool)
  /-- The names of all variables that begin with a text. -/
  | namesFrom (start : String) (areJoined : Bool)
  deriving DecidableEq, Repr

/-- The name of a parameter as complaints show it. -/
def Parameter.name : Parameter → String
  | .named name => name
  | .position n => toString n
  | .all => "@"
  | .joined => "*"
  | .count => "#"
  | .status => "?"
  | .pid => "$"
  | .lastPid => "!"
  | .options => "-"
  | .element name key => name ++ "[" ++ key ++ "]"
  | .elements name areJoined => name ++ (if areJoined then "[*]" else "[@]")
  | .keys name areJoined => "!" ++ name ++ (if areJoined then "[*]" else "[@]")
  | .namesFrom start areJoined => "!" ++ start ++ (if areJoined then "*" else "@")

/-- The variable that a parameter is or has an element of. -/
def Parameter.variableName? : Parameter → Option String
  | .named name => name
  | .element name _ => name
  | .elements name _ => name
  | _ => none

/-- Where a replaced part of a value stands. -/
inductive Spot where
  | first
  | all
  | start
  | ending
  deriving DecidableEq, Repr

/-- What is done to letters. -/
inductive CaseChange where
  | raise
  | lower
  | swap
  deriving DecidableEq, Repr

/-- How a clause of a choice is left. -/
inductive ClauseEnd where
  /-- The choice is over. -/
  | leave
  /-- The next clause runs too. -/
  | fallThrough
  /-- The patterns of the next clauses are tried too. -/
  | tryOthers
  deriving DecidableEq, Repr

mutual

/-- A part of a word. -/
inductive Part where
  /-- A character; quoting takes away what it would mean otherwise. -/
  | char (c : Char) (quoted : Bool)
  /-- A pair of quotes, which makes a field even if nothing is between them. -/
  | quotes
  | parameter (parameter : Parameter) (form : Form) (quoted : Bool)
  /-- What a command prints. -/
  | output (command : Option Command) (quoted : Bool)
  /-- The value of an arithmetic expression. -/
  | arithmetic (expression : List Part) (quoted : Bool)
  /-- A parameter that is an element of an array. -/
  | element (name : String) (key : List Part) (form : Form) (quoted : Bool)
  /-- The parameter that the value of a part names. -/
  | indirect (reference : Part) (form : Form) (quoted : Bool)
  /-- A path from which to read what a command prints, or to which to write what it reads. -/
  | process (command : Option Command) (writes : Bool)
  /-- The elements of an array, with their keys where these are given. -/
  | list (elements : List (Option (List Part) × List Part))

/-- How a parameter is used. -/
inductive Form where
  | value
  | length
  /-- A form that does not exist, and how it is written. -/
  | bad (written : String)
  /-- The word in place of a parameter that is not set (or null). -/
  | fallback (orNull : Bool) (word : List Part)
  /-- The same, and the parameter is set to it. -/
  | assign (orNull : Bool) (word : List Part)
  /-- Without the parameter the word is a complaint. -/
  | demand (orNull : Bool) (word : List Part)
  /-- The word in place of a parameter that is set (and not null). -/
  | alternative (orNull : Bool) (word : List Part)
  /-- The value without what a pattern matches at its start or end. -/
  | trim (atEnd longest : Bool) (pattern : List Part)
  /-- A part of the value: where it starts and how long it is. -/
  | slice (start : List Part) (length : Option (List Part))
  /-- The value with something in place of what a pattern matches. -/
  | replace (spot : Spot) (pattern replacement : List Part)
  /-- The value with its first letter or all of its letters changed if a pattern matches them. -/
  | recase (change : CaseChange) (changesAll : Bool) (pattern : List Part)
  /-- What a letter asks for. -/
  | transform (letter : Char)

/-- Where a redirected descriptor leads. -/
inductive Target where
  | read (path : List Part)
  | write (path : List Part)
  | append (path : List Part)
  | update (path : List Part)
  /-- To the same as another descriptor, or nowhere. -/
  | duplicate (word : List Part)
  /-- To a text in the script. -/
  | document (text : List Part)

/-- A redirection of a descriptor. -/
inductive Redirection where
  | mk (descriptor : Nat) (target : Target)

/-- An assignment: the variable, the key if an element is meant, whether the value comes behind the
old one, and the value. -/
inductive Assignment where
  | mk (name : String) (key : Option (List Part)) (appends : Bool) (value : List Part)

/-- A condition between double brackets. -/
inductive Test where
  | unary (operator : String) (word : List Part)
  | binary (operator : String) (first second : List Part)
  | negation (test : Test)
  | conjunction (first second : Test)
  | disjunction (first second : Test)

/-- A command, with the line on which it begins where complaints name it. -/
inductive Command where
  | simple (line : Nat) (assignments : List Assignment) (words : List (List Part))
      (redirections : List Redirection)
  | pipeline (commands : List Command)
  | redirected (line : Nat) (command : Command) (redirections : List Redirection)
  | background (line : Nat) (command : Command)
  | subshell (line : Nat) (command : Command) (redirections : List Redirection)
  | sequence (first second : Command)
  | conjunction (first second : Command)
  | disjunction (first second : Command)
  | negation (command : Command)
  | conditional (test positive : Command) (negative : Option Command)
  /-- Repeats the body as long as the test succeeds, or until it does. -/
  | loop (untilSuccess : Bool) (test body : Command)
  | iteration (line : Nat) (name : String) (words : List (List Part)) (body : Command)
  | choice (line : Nat) (word : List Part)
      (clauses : List (List (List Part) × Option Command × ClauseEnd))
  | definition (name : String) (body : Command)
  | condition (line : Nat) (test : Test)
  /-- Computes an expression; its value decides the status. -/
  | calculation (line : Nat) (expression : List Part)
  /-- Repeats the body as long as an expression is not zero; another one is computed first, and one
  behind each round. -/
  | counting (line : Nat) (start test next : List Part) (body : Command)
  /-- Shows how long a command takes. -/
  | timed (command : Command)

end

instance : Inhabited Command := ⟨.simple 0 [] [] []⟩

/-- A word in the script: its parts. -/
abbrev Word := List Part

namespace Word

/-- The character of a part that is an unquoted character. -/
def bareChar? : Part → Option Char
  | .char c false => some c
  | _ => none

/-- The text of a word that is nothing but unquoted characters. -/
def bare? (word : Word) : Option String := (word.mapM bareChar?).map String.ofList

/-- The characters of a word, whatever their quoting. -/
def text (word : Word) : String :=
  String.ofList (word.filterMap fun part =>
    match part with
    | .char c _ => some c
    | _ => none)

/-- True of a word with something quoted in it. -/
def isQuoted (word : Word) : Bool :=
  word.any fun part =>
    match part with
    | .char _ quoted => quoted
    | .quotes => true
    | _ => false

end Word

/-- True of a character that can begin a name. -/
def isNameStart (c : Char) : Bool := c.isAlpha || c == '_'

/-- True of a character that can stand in a name. -/
def isNameChar (c : Char) : Bool := c.isAlphanum || c == '_'

/-- True of a name of a variable. -/
def isName (name : String) : Bool :=
  match name.toList with
  | [] => false
  | c :: cs => isNameStart c && cs.all isNameChar

/-- The parts of a word up to the bracket that closes its start, and those behind it. -/
def Word.splitBracket : (depth : Nat) → Word → Option (Word × Word)
  | _, [] => none
  | depth, part :: word =>
    let next : Nat :=
      match part with
      | .char '[' false => depth + 1
      | .char ']' false => depth - 1
      | _ => depth
    match part, depth with
    | .char ']' false, 0 => some ([], word)
    | part, _ => (splitBracket next word).map fun (inner, rest) => (part :: inner, rest)

/-- The assignment that a word is. -/
def Word.assignment? (dialect : Dialect) (word : Word) : Option Assignment :=
  let name := (word.map Word.bareChar?).takeWhile fun c => (c.map isNameChar).getD false
  let name := String.ofList (name.filterMap id)
  let behindKey (key : Option Word) (rest : Word) : Option Assignment :=
    match dialect, rest with
    | _, .char '=' false :: value => some (.mk name key false value)
    | .extended, .char '+' false :: .char '=' false :: value => some (.mk name key true value)
    | _, _ => none
  if !isName name then none
  else
    match dialect, word.drop name.length with
    | .extended, .char '[' false :: rest =>
      (Word.splitBracket 0 rest).bind fun (key, rest) => behindKey (some key) rest
    | _, rest => behindKey none rest

end PointerTagging.Host.Shell
