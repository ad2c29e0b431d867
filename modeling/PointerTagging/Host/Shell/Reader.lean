import PointerTagging.Host.Escape
import PointerTagging.Host.Shell.Grammar
/-!
# Tokens of the shell

Reads a script into tokens: words with their quoting, operators, and the beginnings of
redirections. Words hold commands in `$( )`; what reads those is a parameter here.
-/

namespace PointerTagging.Host.Shell

open Text

/-- A token of a script. -/
inductive Token where
  | endOfFile
  | newline
  /-- An operator or a reserved word. -/
  | sign (text : String)
  | word (word : Word)
  /-- The beginning of a redirection: its descriptor, if one is written, and its operator. -/
  | redirection (descriptor : Option Nat) (operator : String)

instance : Inhabited Token := ⟨.endOfFile⟩

/-- A token as complaints show it. -/
def Token.describe : Token → String
  | .endOfFile => "end of file"
  | .newline => "newline"
  | .sign text => "\"" ++ text ++ "\""
  | .word _ => "word"
  | .redirection .. => "redirection"

/-- Where the reader stands. -/
structure Source where
  dialect : Dialect
  rest : List Char
  line : Nat
  /-- Lines behind the current one that are read already. -/
  ahead : Nat
  /-- A token that was read and is to be read again. -/
  held : Option Token
  /-- How the latest token is written, in the extended dialect. -/
  latest : String

/-- Reading a script; what fails is a complaint about its form. -/
abbrev Reading := ExceptT String (StateM Source)

/-- What reads the commands in `$( )` up to its closing parenthesis, or those between backquotes to
the end of their text. -/
abbrev Nested := (closed : Bool) → Reading (Option Command)

namespace Reading

/-- The next character, which is not taken. -/
def peek : Reading (Option Char) := do return (← get).rest.head?

/-- The next character but one. -/
def peekSecond : Reading (Option Char) := do return (← get).rest[1]?

/-- Takes the next character. -/
def take : Reading (Option Char) := do
  let source ← get
  match source.rest with
  | [] => return none
  | c :: rest =>
    if c == '\n' then set { source with rest, line := source.line + 1 + source.ahead, ahead := 0 }
    else set { source with rest }
    return some c

/-- Takes the next character if it is `c`. -/
def accept (c : Char) : Reading Bool := do
  if (← peek) == some c then
    let _ ← take
    return true
  return false

/-- Takes characters as long as they satisfy a test. -/
def takeWhile (test : Char → Bool) : Reading (List Char) := do
  let source ← get
  set { source with rest := source.rest.dropWhile test }
  return source.rest.takeWhile test

/-- True if the script is written in the extended dialect. -/
def isExtended : Reading Bool := do return (← get).dialect == .extended

/-- Takes a text if it comes next. -/
def acceptText (text : String) : Reading Bool := do
  let source ← get
  if text.toList.isPrefixOf source.rest then
    set { source with rest := source.rest.drop text.length }
    return true
  return false

/-- Room for as many steps as the rest of the script can take. -/
def room : Reading Nat := do return (← get).rest.length + 2

/-- Complains about something that the script ends in, which began on a line. In the extended
dialect the complaint names the sign that is missing. -/
def unfinished (line : Nat) (sign complaint : String) : Reading α := do
  if ← isExtended then
    modify fun source => { source with line }
    throw ("unexpected EOF while looking for matching \x60" ++ sign ++ "'")
  throw complaint

/-- Reads another text from its start, and goes on here. -/
def within (text : List Char) (reading : Reading α) : Reading α := do
  let source ← get
  set { source with rest := text, held := none }
  let result ← reading
  set source
  return result

end Reading

open Reading

/-- The surroundings of a part of a word. -/
inductive Region where
  | plain
  /-- Between double quotes. -/
  | double
  /-- In a text behind `<<`. -/
  | document
  /-- In the word of a parameter. -/
  | braces (quoted : Bool)
  /-- In an arithmetic expression, inside some parentheses. -/
  | arithmetic (depth : Nat)
  /-- In the key of an element, inside some brackets. -/
  | key (depth : Nat)
  /-- In a word of a parameter up to a character. -/
  | upTo (stop : Char) (quoted : Bool)
  /-- In a regular expression, inside some parentheses. -/
  | regex (depth : Nat)
  deriving DecidableEq

namespace Region

/-- True where text is quoted. -/
def quotes : Region → Bool
  | .plain => false
  | .double => true
  | .document => true
  | .braces quoted => quoted
  | .arithmetic _ => true
  | .key _ => false
  | .upTo _ quoted => quoted
  | .regex _ => false

/-- True where a double quote stands for itself. -/
def keepsDoubleQuotes : Region → Bool
  | .document => true
  | .arithmetic _ => true
  | _ => false

/-- What is wrong if the script ends here, and the sign that is missing; nothing where it may end.
-/
def complaint? : Region → Option (String × String)
  | .plain => none
  | .document => none
  | .regex _ => none
  | .double => some ("\"", "Unterminated quoted string")
  | .braces true => some ("\x7d", "Unterminated quoted string")
  | .arithmetic _ => some (")", "Missing '))'")
  | _ => some ("\x7d", "Missing '\x7d'")

/-- True of a character that comes behind the region. -/
def stopsBefore (region : Region) (c : Char) : Bool :=
  match region with
  | .plain => " \t\n&|;()<>".contains c
  | .upTo stop _ => c == stop || c == '\x7d'
  | .regex 0 => " \t\n;&".contains c
  | _ => false

/-- True of a character that a backslash takes the meaning from. -/
def escapes (region : Region) (c : Char) : Bool :=
  if region.quotes then
    c == '\\' || c == '\x60' || c == '$' || (c == '"' && region != .document) ||
      (c == '\x7d' && region == .braces true)
  else true

end Region

/-- The parameter that a single character names. -/
def specialParameter? (c : Char) : Option Parameter :=
  match c with
  | '@' => some .all
  | '*' => some .joined
  | '#' => some .count
  | '?' => some .status
  | '$' => some .pid
  | '!' => some .lastPid
  | '-' => some .options
  | c => if c.isDigit then some (.position (c.toNat - '0'.toNat)) else none

/-- The parameter of a string of digits. -/
def positionOf (digits : List Char) : Parameter :=
  .position ((Numeral.valueFrom 10 0 digits).getD 0)

/-- Reads up to the quote that ends a single-quoted text, which began on a line. -/
def singleQuoted (line : Nat) : Nat → Reading Word
  | 0 => throw "Unterminated quoted string"
  | n + 1 => do
    match ← take with
    | none => unfinished line "'" "Unterminated quoted string"
    | some '\'' => return []
    | some c => return .char c true :: (← singleQuoted line n)

/-- Reads the text between backquotes, which began on a line. -/
def backquoted (line : Nat) (quoted : Bool) : Nat → Reading (List Char)
  | 0 => throw "EOF in backquote substitution"
  | n + 1 => do
    match ← take with
    | none => unfinished line "\x60" "EOF in backquote substitution"
    | some '\x60' => return []
    | some '\\' =>
      match ← peek with
      | none => return '\\' :: (← backquoted line quoted n)
      | some c =>
        let _ ← take
        if c == '\n' then backquoted line quoted n
        else if c == '\\' || c == '\x60' || c == '$' || (c == '"' && quoted) then
          return c :: (← backquoted line quoted n)
        else return '\\' :: c :: (← backquoted line quoted n)
    | some c => return c :: (← backquoted line quoted n)

/-- Reads up to the quote that ends a text with escapes, which began on a line. -/
def escapeQuoted (line : Nat) : Nat → Reading Word
  | 0 => return []
  | n + 1 => do
    match ← take with
    | none => unfinished line "'" ""
    | some '\'' => return []
    | some '\\' =>
      if (← peek) == some 'c' then
        let _ ← take
        let c := (← take).getD 'c'
        return .char (Char.ofNat (c.toUpper.toNat % 32)) true :: (← escapeQuoted line n)
      let source ← get
      let (c, rest) := Escape.one .extended source.rest
      set { source with rest }
      return .char c true :: (← escapeQuoted line n)
    | some c => return .char c true :: (← escapeQuoted line n)

/-- What stands between braces before a form. -/
inductive Reference where
  | parameter (parameter : Parameter)
  | element (name : String) (key : Word)
  /-- The parameter that the value of another one names. -/
  | indirect (reference : Reference)

/-- The part of a word that a reference makes with a form. -/
def Reference.part (form : Form) (quoted : Bool) : Reference → Part
  | .parameter p => .parameter p form quoted
  | .element name key => .element name key form quoted
  | .indirect reference => .indirect (reference.part .value true) form quoted

/-- Reads the parameter inside braces, and whether its length is meant. -/
def bracedParameter : Reading (Option Parameter × Bool) := do
  match ← peek with
  | none => return (none, false)
  | some '#' =>
    let _ ← take
    let next ← peek
    let special := next.bind specialParameter?
    if (next.map isNameStart).getD false then
      return (some (.named (String.ofList (← takeWhile isNameChar))), true)
    else if (next.map Char.isDigit).getD false then
      return (some (positionOf (← takeWhile Char.isDigit)), true)
    else if special.isSome && (← peekSecond) == some '\x7d' then
      let _ ← take
      return (special, true)
    else return (some .count, false)
  | some c =>
    if isNameStart c then return (some (.named (String.ofList (← takeWhile isNameChar))), false)
    else if c.isDigit then return (some (positionOf (← takeWhile Char.isDigit)), false)
    else
      match specialParameter? c with
      | none => return (none, false)
      | some parameter =>
        let _ ← take
        return (some parameter, false)

/-- The form that begins with a character and has a word. -/
def wordForm? (c : Char) (orNull : Bool) : Option (Word → Form) :=
  match c with
  | '-' => some (.fallback orNull)
  | '=' => some (.assign orNull)
  | '?' => some (.demand orNull)
  | '+' => some (.alternative orNull)
  | _ => none

/-- The form of a parameter with a colon behind it and another character than those that begin a
form. A closing brace there does not close it. -/
def unknownForm (next : Option Char) : Form := if next == some '\x7d' then .value else .bad ""

/-- True if a command comes next whose output or input a path stands for. -/
def startsProcess : Reading Bool := do
  let next ← peek
  return (← isExtended) && (next == some '<' || next == some '>') && (← peekSecond) == some '('

/-- Carries out a reading whose failure is one of something that began on a line, in the extended
dialect. -/
def startingOn (line : Nat) (reading : Reading α) : Reading α :=
  tryCatch reading fun complaint => do
    if ← isExtended then modify fun source => { source with line }
    throw complaint

/-- How a parameter between braces is written that has been read; `before` is what came behind its
first brace. -/
def written (before : List Char) : Reading String := do
  let length := before.length - (← get).rest.length
  return "$\x7b" ++ String.ofList (before.take length)

/-- Reads what stands between a parameter and the word behind it: what makes a form of the word,
and whether the word is a pattern. Without a form the parameter's own brace comes next. -/
def formOperator : Reading (Option ((Word → Form) × Bool)) := do
  match ← peek with
  | some '\x7d' => return none
  | some ':' =>
    let _ ← take
    let next ← take
    return some (((next.bind fun c => wordForm? c true).getD fun _ => unknownForm next), false)
  | some '%' =>
    let _ ← take
    let longest ← accept '%'
    return some (.trim true longest, true)
  | some '#' =>
    let _ ← take
    let longest ← accept '#'
    return some (.trim false longest, true)
  | some c =>
    match wordForm? c false with
    | some form =>
      let _ ← take
      return some (form, false)
    | none => return some (fun _ => .bad "", false)
  | none => return some (fun _ => .bad "", false)

/-- Reads a name with the key behind it, if there is one; `key` reads it up to its bracket. -/
def namedReference (key : Reading Word) : Reading Reference := do
  let name := String.ofList (← takeWhile isNameChar)
  if ← acceptText "[@]" then return .parameter (.elements name false)
  if ← acceptText "[*]" then return .parameter (.elements name true)
  if ← accept '[' then return .element name (← key)
  return .parameter (.named name)

/-- Reads what stands behind a brace before a form in the extended dialect, and whether a length is
meant. -/
def extendedReference (key : Reading Word) : Reading (Option Reference × Bool) := do
  let next ← peek
  let second ← peekSecond
  let isNamed := (second.map isNameStart).getD false
  if (next.map isNameStart).getD false then return (some (← namedReference key), false)
  if next == some '#' && isNamed then
    let _ ← take
    return (some (← namedReference key), true)
  if ← acceptText "!#\x7d" then
    modify fun source => { source with rest := '\x7d' :: source.rest }
    return (some (.indirect (.parameter .count)), false)
  if next == some '!' && (isNamed || (second.map Char.isDigit).getD false) then
    let _ ← take
    if !isNamed then
      return (some (.indirect (.parameter (positionOf (← takeWhile Char.isDigit)))), false)
    match ← namedReference key with
    | .parameter (.elements name areJoined) =>
      return (some (.parameter (.keys name areJoined)), false)
    | .parameter (.named name) =>
      if ← acceptText "@\x7d" then
        modify fun source => { source with rest := '\x7d' :: source.rest }
        return (some (.parameter (.namesFrom name false)), false)
      if ← acceptText "*\x7d" then
        modify fun source => { source with rest := '\x7d' :: source.rest }
        return (some (.parameter (.namesFrom name true)), false)
      return (some (.indirect (.parameter (.named name))), false)
    | reference => return (some (.indirect reference), false)
  let (parameter, length) ← bracedParameter
  return (parameter.map .parameter, length)

/-- The change of letters that a sign stands for. -/
def caseChange? (c : Char) : Option CaseChange :=
  match c with
  | '^' => some .raise
  | ',' => some .lower
  | '~' => some .swap
  | _ => none

/-- Reads where a replaced part of a value stands. -/
def replacedSpot : Reading Spot := do
  if ← accept '/' then return .all
  if ← accept '#' then return .start
  if ← accept '%' then return .ending
  return .first

mutual

/-- Reads the parts of a word up to the end of its region. -/
def readParts (nested : Nested) (region : Region) : Nat → Reading Word
  | 0 => throw "Word too complex"
  | n + 1 => do
    match ← peek with
    | none =>
      match region.complaint? with
      | some (sign, complaint) => unfinished (← get).line sign complaint
      | none => return []
    | some c =>
      if region.stopsBefore c then
        if region == .plain && (← startsProcess) then
          let part ← readProcess nested n
          return part :: (← readParts nested region n)
        return []
      let line := (← get).line
      let _ ← take
      match c with
      | '\\' =>
        match ← peek with
        | none => return .char '\\' true :: (← readParts nested region n)
        | some '\n' =>
          let _ ← take
          readParts nested region n
        | some d =>
          let _ ← take
          let parts ← readParts nested region n
          if region.escapes d then return .char d true :: parts
          else return .char '\\' true :: .char d true :: parts
      | '\'' =>
        if region.quotes then return .char c true :: (← readParts nested region n)
        else
          let text ← singleQuoted line (← room)
          return .quotes :: text ++ (← readParts nested region n)
      | '"' =>
        if region == .double then return []
        else if region.keepsDoubleQuotes then
          return .char c true :: (← readParts nested region n)
        else
          let text ← startingOn line (readParts nested .double n)
          let parts ← readParts nested region n
          match text with
          | [.parameter .all .value _] => return text ++ parts
          | [.parameter .all (.slice ..) _] => return text ++ parts
          | [.parameter (.elements _ false) _ _] => return text ++ parts
          | [.parameter (.keys _ false) _ _] => return text ++ parts
          | [.parameter (.namesFrom _ false) _ _] => return text ++ parts
          | _ => return .quotes :: text ++ parts
      | '$' =>
        if !region.quotes && (← isExtended) then
          if ← accept '\'' then
            let text ← escapeQuoted line (← room)
            return .quotes :: text ++ (← readParts nested region n)
          if (← peek) == some '"' then return ← readParts nested region n
        let part ← readDollar nested region line n
        return part :: (← readParts nested region n)
      | '\x60' =>
        let text ← backquoted line region.quotes (← room)
        let command ← within text (nested false)
        return .output command region.quotes :: (← readParts nested region n)
      | _ => readOther nested region c n

/-- Reads on behind a character that may end the region and else stands for itself. -/
def readOther (nested : Nested) (region : Region) (c : Char) : Nat → Reading Word
  | 0 => throw "Word too complex"
  | n + 1 => do
    match region, c with
    | .braces _, '\x7d' => return []
    | .arithmetic depth, '(' =>
      return .char c true :: (← readParts nested (.arithmetic (depth + 1)) n)
    | .arithmetic 0, ')' =>
      if ← accept ')' then return []
      else return .char c true :: (← readParts nested region n)
    | .arithmetic (depth + 1), ')' =>
      return .char c true :: (← readParts nested (.arithmetic depth) n)
    | .key 0, ']' => return []
    | .key (depth + 1), ']' => return .char c false :: (← readParts nested (.key depth) n)
    | .key depth, '[' => return .char c false :: (← readParts nested (.key (depth + 1)) n)
    | .regex depth, '(' => return .char c false :: (← readParts nested (.regex (depth + 1)) n)
    | .regex depth, ')' => return .char c false :: (← readParts nested (.regex (depth - 1)) n)
    | region, c => return .char c region.quotes :: (← readParts nested region n)

/-- Reads the part behind a dollar sign on a line. -/
def readDollar (nested : Nested) (region : Region) (line : Nat) : Nat → Reading Part
  | 0 => throw "Word too complex"
  | n + 1 => do
    let quoted := region.quotes
    match ← peek with
    | some '(' =>
      let _ ← take
      if ← accept '(' then
        return .arithmetic (← startingOn line (readParts nested (.arithmetic 0) n)) quoted
      else return .output (← nested true) quoted
    | some '\x7b' =>
      let _ ← take
      if ← isExtended then return ← startingOn line (readBraced nested quoted n)
      let (parameter, length) ← bracedParameter
      match parameter with
      | none =>
        let _ ← readParts nested (.braces quoted) n
        return .parameter .status (.bad "") quoted
      | some parameter =>
        match ← formOperator with
        | none =>
          let _ ← take
          return .parameter parameter (if length then .length else .value) quoted
        | some (form, isPattern) =>
          let word ← readParts nested (.braces (quoted && !isPattern)) n
          return .parameter parameter (if length then .bad "" else form word) quoted
    | some c =>
      if isNameStart c then
        return .parameter (.named (String.ofList (← takeWhile isNameChar))) .value quoted
      else if c == '[' && (← isExtended) then
        let _ ← take
        return .arithmetic (← readParts nested (.key 0) n) quoted
      else
        match specialParameter? c with
        | some parameter =>
          let _ ← take
          return .parameter parameter .value quoted
        | none => return .char '$' quoted
    | none => return .char '$' quoted

/-- Reads the part behind a dollar sign and a brace in the extended dialect. -/
def readBraced (nested : Nested) (quoted : Bool) : Nat → Reading Part
  | 0 => throw "Word too complex"
  | n + 1 => do
    let before := (← get).rest
    let (reference, length) ← extendedReference (readParts nested (.key 0) n)
    let form ← readForm nested quoted n
    match reference, length, form with
    | some reference, false, .bad _ => return reference.part (.bad (← written before)) quoted
    | some reference, false, form => return reference.part form quoted
    | some reference, true, .value => return reference.part .length quoted
    | _, _, _ => return .parameter .status (.bad (← written before)) quoted

/-- Reads the form of a parameter in the extended dialect, and the brace behind it. -/
def readForm (nested : Nested) (quoted : Bool) : Nat → Reading Form
  | 0 => throw "Word too complex"
  | n + 1 => do
    let second ← peekSecond
    match ← peek with
    | some '\x7d' =>
      let _ ← take
      return .value
    | some ':' =>
      let _ ← take
      match second.bind fun c => wordForm? c true with
      | some form =>
        let _ ← take
        return form (← readParts nested (.braces quoted) n)
      | none =>
        let start ← readParts nested (.upTo ':' true) n
        if ← accept ':' then return .slice start (some (← readParts nested (.braces true) n))
        let _ ← take
        return .slice start none
    | some '/' =>
      let _ ← take
      let spot ← replacedSpot
      let slash : Word := if ← accept '/' then [.char '/' false] else []
      let pattern ← readParts nested (.upTo '/' false) n
      if ← accept '/' then
        return .replace spot (slash ++ pattern) (← readParts nested (.braces false) n)
      let _ ← take
      return .replace spot (slash ++ pattern) []
    | some '@' =>
      if ((← get).rest[2]?) == some '\x7d' then
        let _ ← take
        let letter ← take
        let _ ← take
        return .transform (letter.getD '@')
      let _ ← readParts nested (.braces quoted) n
      return .bad ""
    | some c =>
      match caseChange? c with
      | some change =>
        let _ ← take
        let changesAll ← accept c
        return .recase change changesAll (← readParts nested (.braces false) n)
      | none =>
        match ← formOperator with
        | none => return .value
        | some (form, isPattern) =>
          return form (← readParts nested (.braces (quoted && !isPattern)) n)
    | none =>
      let _ ← readParts nested (.braces quoted) n
      return .bad ""

/-- Reads a command whose output or input a path stands for. -/
def readProcess (nested : Nested) : Nat → Reading Part
  | 0 => throw "Word too complex"
  | _ + 1 => do
    let writes := (← take) == some '>'
    let _ ← take
    return .process (← nested true) writes

end

/-- Room for the parts of a word: each character takes at most three steps. -/
def partsRoom : Reading Nat := do return 3 * (← room) + 3

/-! ## Texts behind `<<` -/

/-- The characters of a line, its end if it has one, and what follows. -/
def splitLine (cs : List Char) : List Char × List Char × List Char :=
  let rest := cs.dropWhile (· != '\n')
  (cs.takeWhile (· != '\n'), rest.take 1, rest.drop 1)

/-- How many characters the current line of a script has: a line end inside quotes or behind a
backslash does not end it. `quote` is the open quote, and `inWord` says that no comment can begin
here. -/
def lineLength : (quote : Option Char) → (inWord : Bool) → List Char → Nat
  | _, _, [] => 0
  | some '\'', _, c :: cs => 1 + lineLength (if c == '\'' then none else some '\'') true cs
  | quote, _, '\\' :: _ :: cs => 2 + lineLength quote true cs
  | some q, _, c :: cs => 1 + lineLength (if c == q then none else some q) true cs
  | none, inWord, c :: cs =>
    if c == '\n' then 0
    else if c == '#' && !inWord then 1 + (cs.takeWhile (· != '\n')).length
    else
      1 + lineLength (if c == '\'' || c == '"' then some c else none) (!" \t;&|()<>".contains c) cs

/-- The text before the line that ends it, how many lines that makes with the last one, and what
follows. Without such a line the text reaches to the end. -/
def splitDocument (strip : Bool) (ending : List Char) :
    Nat → List Char → List Char × Nat × List Char
  | 0, cs => ([], 0, cs)
  | n + 1, cs =>
    if cs.isEmpty then ([], 0, [])
    else
      let (line, lineEnd, rest) := splitLine cs
      let line := if strip then line.dropWhile (· == '\t') else line
      if line == ending then ([], 1, rest)
      else
        let (text, count, rest) := splitDocument strip ending n rest
        (line ++ lineEnd ++ text, count + 1, rest)

/-- Takes the text that ends at a line out of the lines behind the current one. -/
def takeDocument (strip : Bool) (ending : String) : Reading (List Char) := do
  let source ← get
  let current := lineLength none false source.rest + 1
  let behind := source.rest.drop current
  let (text, count, rest) := splitDocument strip ending.toList (behind.length + 1) behind
  set { source with rest := source.rest.take current ++ rest, ahead := source.ahead + count }
  return text

/-- Reads the text behind `<<` whose last line the word names. If the word is quoted, nothing in
the text has a meaning. -/
def readDocument (nested : Nested) (strip : Bool) (word : Word) : Reading Word := do
  let text ← takeDocument strip word.text
  if word.isQuoted then return text.map fun c => .char c true
  within text do readParts nested .document (← partsRoom)

/-! ## Tokens -/

/-- Skips blanks, joined lines and a comment. -/
def skipBlanks : Nat → Reading Unit
  | 0 => return ()
  | n + 1 => do
    match ← peek with
    | some ' ' =>
      let _ ← take
      skipBlanks n
    | some '\t' =>
      let _ ← take
      skipBlanks n
    | some '#' =>
      let _ ← takeWhile (· != '\n')
    | some '\\' =>
      if (← peekSecond) == some '\n' then
        let _ ← take
        let _ ← take
        skipBlanks n
    | _ => return ()

/-- The operators of redirections, each before those that it begins with. -/
def redirectionOperators (dialect : Dialect) : List String :=
  let common := ["<<-", "<<", "<&", "<>", "<", ">>", ">&", ">|", ">"]
  match dialect with
  | .common => common
  | .extended => "<<<" :: common

/-- The redirections of both outputs in the extended dialect. -/
def jointRedirections : List String := ["&>>", "&>"]

/-- The other operators, each before those that it begins with. -/
def signs (dialect : Dialect) : List String :=
  match dialect with
  | .common => ["&&", "&", "||", "|", ";;", ";", "(", ")"]
  | .extended => ["&&", "&", "||", "|&", "|", ";;&", ";;", ";&", ";", "(", ")"]

/-- The words that are reserved where a command can begin. -/
def reservedWords (dialect : Dialect) : List String :=
  let common :=
    ["!", "\x7b", "\x7d", "case", "do", "done", "elif", "else", "esac", "fi", "for", "if", "in",
      "then", "until", "while"]
  match dialect with
  | .common => common
  | .extended => "[[" :: "function" :: "time" :: common

/-- Takes the first of the operators that comes next. -/
def acceptAmong (operators : List String) : Reading (Option String) := do
  let source ← get
  match operators.find? fun o => o.toList.isPrefixOf source.rest with
  | none => return none
  | some operator =>
    set { source with rest := source.rest.drop operator.length }
    return some operator

/-- The descriptor of a redirection that a word is: a digit, or more of them in the extended
dialect. -/
def descriptor? (dialect : Dialect) (word : Word) : Option Nat :=
  match dialect, word with
  | _, [.char c false] => if c.isDigit then some (c.toNat - '0'.toNat) else none
  | .extended, word =>
    match word.bare? with
    | some text =>
      if text.isEmpty || text.toList.any fun c => !c.isDigit then none
      else Numeral.valueFrom 10 0 text.toList
    | none => none
  | .common, _ => none

/-- The key and the value of an element in a list: a key stands between brackets before an equals
sign. -/
def splitElement (word : Word) : Option Word × Word :=
  match word with
  | .char '[' false :: rest =>
    match Word.splitBracket 0 rest with
    | some (key, .char '=' false :: value) => (some key, value)
    | _ => (none, word)
  | word => (none, word)

/-- Reads the elements of an array up to the parenthesis behind them. -/
def listElements (nested : Nested) (line : Nat) : Nat → Reading (List (Option Word × Word))
  | 0 => return []
  | n + 1 => do
    skipBlanks (← room)
    match ← peek with
    | none => unfinished line ")" ""
    | some '\n' =>
      let _ ← take
      listElements nested line n
    | some ')' =>
      let _ ← take
      return []
    | some c =>
      match ← readParts nested .plain (← partsRoom) with
      | [] => throw ("syntax error near unexpected token \x60" ++ String.ofList [c] ++ "'")
      | word => return splitElement word :: (← listElements nested line n)

/-- True of an assignment without a value. -/
def isOpenAssignment (word : Word) : Bool :=
  match word.assignment? .extended with
  | some (.mk _ _ _ []) => true
  | _ => false

/-- Reads a word, and the elements of an array behind it if it assigns one. -/
def wholeWord (nested : Nested) : Reading Word := do
  let word ← readParts nested .plain (← partsRoom)
  if (← isExtended) && (← peek) == some '(' && isOpenAssignment word then
    let line := (← get).line
    let _ ← take
    return word ++ [.list (← listElements nested line (← room))]
  return word

/-- Reads a token from the script behind blanks. -/
def tokenHere (nested : Nested) : Reading Token := do
  let dialect := (← get).dialect
  match ← peek with
  | none => return .endOfFile
  | some '\n' =>
    let _ ← take
    return .newline
  | some _ =>
    if dialect == .extended then
      if let some operator ← acceptAmong jointRedirections then
        return .redirection none operator
    match ← acceptAmong (signs dialect) with
    | some sign => return .sign sign
    | none =>
      let operators := if ← startsProcess then [] else redirectionOperators dialect
      match ← acceptAmong operators with
      | some operator => return .redirection none operator
      | none =>
        let word ← wholeWord nested
        match descriptor? dialect word with
        | none => return .word word
        | some descriptor =>
          match ← acceptAmong (redirectionOperators dialect) with
          | some operator => return .redirection (some descriptor) operator
          | none => return .word word

/-- Reads a token from the script. -/
def freshToken (nested : Nested) : Reading Token := do
  skipBlanks (← room)
  let before := (← get).rest
  let token ← tokenHere nested
  if ← isExtended then
    modify fun source =>
      let length := before.length - source.rest.length
      { source with latest := String.ofList (before.take length) }
  return token

/-- Reads the held token, or else one from the script. -/
def rawToken (nested : Nested) : Reading Token := do
  match (← get).held with
  | some token =>
    modify fun source => { source with held := none }
    return token
  | none => freshToken nested

/-- Reads a token, behind any line ends. -/
def skipNewlines (nested : Nested) : Nat → Reading Token
  | 0 => return .endOfFile
  | n + 1 => do
    match ← rawToken nested with
    | .newline => skipNewlines nested n
    | token => return token

/-- What is looked out for when a token is read. -/
structure Outlook where
  /-- Line ends mean nothing here. -/
  newlines : Bool
  /-- Reserved words are recognised. -/
  reserved : Bool

/-- A token where a word of a command stands. -/
def Outlook.word : Outlook := ⟨false, false⟩

/-- A token where a command can begin on this line. -/
def Outlook.start : Outlook := ⟨false, true⟩

/-- A token where a command can begin on this line or a later one. -/
def Outlook.anywhere : Outlook := ⟨true, true⟩

/-- Reads a token. -/
def token (nested : Nested) (outlook : Outlook) : Reading Token := do
  let token ← if outlook.newlines then skipNewlines nested (← room) else rawToken nested
  match token with
  | .word word =>
    match word.bare? with
    | some text =>
      if outlook.reserved && (reservedWords (← get).dialect).contains text then
        return .sign text
      else return token
    | none => return token
  | token => return token

/-- Has a token read again. -/
def hold (token : Token) : Reading Unit := modify fun source => { source with held := some token }

/-- Complains about a token where another one is expected. -/
def unexpected (token : Token) (expected : Option Token) : Reading α := do
  match (← get).dialect, token with
  | .common, token =>
    throw (token.describe ++ " unexpected" ++
      match expected with
      | some expected => " (expecting " ++ expected.describe ++ ")"
      | none => "")
  | .extended, .endOfFile => throw "syntax error: unexpected end of file"
  | .extended, .newline =>
    modify fun source => { source with line := source.line - 1 }
    throw "syntax error near unexpected token \x60newline'"
  | .extended, _ =>
    throw ("syntax error near unexpected token \x60" ++ (← get).latest ++ "'")

/-- Reads a token that has to be a given sign. -/
def expect (nested : Nested) (outlook : Outlook) (sign : String) : Reading Unit := do
  match ← token nested outlook with
  | .sign text => if text == sign then return () else unexpected (.sign text) (some (.sign sign))
  | other => unexpected other (some (.sign sign))

end PointerTagging.Host.Shell
