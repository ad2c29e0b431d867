import PointerTagging.Host.Regex.Reading
import PointerTagging.Host.Sed.Script
import PointerTagging.Host.Utility.View
import PointerTagging.Text.Numeral
/-!
# Reading scripts for editing streams

Scripts are read from the left. What is wrong with one is reported with the number of the
characters that have been read.
-/

namespace PointerTagging.Host.Sed

open Text

/-- What a reader holds: the characters that are left, how many have been read, and the blocks that
are open, the innermost first. -/
structure Reader where
  rest : List Char
  position : Nat
  blocks : List Nat

/-- Why a script is refused. -/
structure Refusal where
  message : String
  position : Nat

/-- Reading a script. -/
abbrev Reading := StateT Reader (Except Refusal)

/-- Refuses the script here. -/
def refuse {α : Type} (message : String) : Reading α := do
  throw ⟨message, (← get).position⟩

/-- The next character, which is not taken. -/
def peek : Reading (Option Char) := do return (← get).rest.head?

/-- Takes the next character. -/
def next : Reading (Option Char) := do
  let reader ← get
  match reader.rest with
  | [] => return none
  | c :: rest =>
    set { reader with rest, position := reader.position + 1 }
    return some c

/-- Takes the characters that satisfy a test. -/
def takeWhile (test : Char → Bool) : Reading (List Char) := do
  let reader ← get
  let taken := reader.rest.takeWhile test
  set { reader with
    rest := reader.rest.drop taken.length
    position := reader.position + taken.length }
  return taken

/-- Skips blanks. -/
def skipBlanks : Reading Unit := do let _ ← takeWhile fun c => c != '\n' && isSpace c

/-- Takes a number. -/
def number : Reading Nat := do
  return (Numeral.valueFrom 10 0 (← takeWhile Char.isDigit)).getD 0

/-- Takes the end of a command. -/
def endCommand : Reading Unit := do
  skipBlanks
  match ← peek with
  | none => return
  | some '}' => return
  | some '#' => return
  | some c =>
    let _ ← next
    unless c == '\n' || c == ';' do refuse "extra characters after command"

/-! ## Delimited texts -/

/-- The characters of a set up to its closing bracket, behind the opening one, and the rest. -/
def bracketText (cs : List Char) : Option (List Char × List Char) :=
  let (lead, cs) :=
    match cs with
    | '^' :: ']' :: cs => (['^', ']'], cs)
    | '^' :: cs => (['^'], cs)
    | ']' :: cs => ([']'], cs)
    | cs => ([], cs)
  (body (cs.length + 1) cs).map fun (inner, rest) => (lead ++ inner, rest)
where
  /-- The characters of a set whose first one has been passed. -/
  body : Nat → List Char → Option (List Char × List Char)
    | 0, _ => none
    | _, [] => none
    | _, '\n' :: _ => none
    | _, ']' :: rest => some ([']'], rest)
    | n + 1, '[' :: mark :: cs =>
      if mark == ':' || mark == '.' || mark == '=' then
        match Regex.behindMark? mark cs with
        | some (name, rest) =>
          (body n rest).map fun (inner, rest) =>
            ('[' :: mark :: name ++ [mark, ']'] ++ inner, rest)
        | none => (body n (mark :: cs)).map fun (inner, rest) => ('[' :: inner, rest)
      else (body n (mark :: cs)).map fun (inner, rest) => ('[' :: inner, rest)
    | n + 1, c :: cs => (body n cs).map fun (inner, rest) => (c :: inner, rest)

/-- Takes the text up to a delimiter, which is taken too. A backslash before the delimiter is left
out; `isPattern` says that the text is an expression. -/
def delimited (delimiter : Char) (isPattern : Bool) : Nat → Reading (Option (List Char))
  | 0 => return none
  | n + 1 => do
    let more (text : List Char) : Reading (Option (List Char)) := do
      return (← delimited delimiter isPattern n).map (text ++ ·)
    match ← next with
    | none => return none
    | some c =>
      if c == delimiter then return some []
      match c with
      | '\n' => if isPattern then return none else more ['\n']
      | '\\' =>
        match ← next with
        | none => return none
        | some d =>
          if d == delimiter && (isPattern || d != '&') then more [d]
          else if d == 'n' && isPattern then more ['\n']
          else if d == '\n' && isPattern then more ['\n']
          else more ['\\', d]
      | '[' =>
        let reader ← get
        match isPattern, bracketText reader.rest with
        | true, some (inner, rest) =>
          set { reader with rest, position := reader.position + inner.length }
          more ('[' :: inner)
        | _, _ => more ['[']
      | c => more [c]

/-! ## Expressions -/

/-- The form of expressions. -/
def dialect (isExtended hasLines : Bool) : Regex.Dialect :=
  { Regex.Dialect.basic with
    isExtended
    isStrict := true
    hasEscapes := true
    brackets := .letters
    hasLines }

/-- The expression that a text is; an empty one is the one that was used last. -/
def pattern (isExtended hasLines ignoresCase : Bool) (text : List Char) : Reading Pattern := do
  if text.isEmpty then return none
  match Regex.parse (dialect isExtended hasLines) (String.ofList text) with
  | .ok (regex, _) => return some (regex, ignoresCase)
  | .error error => refuse error.message

/-! ## Addresses -/

/-- Takes an address, if there is one. -/
def address? (isExtended : Bool) : Reading (Option Address) := do
  match ← peek with
  | some '/' => matching
  | some '\\' => matching
  | some '$' =>
    let _ ← next
    return some .last
  | some '+' => signed .count
  | some '~' => signed .multiple
  | some c =>
    if !c.isDigit then return none
    let n ← number
    skipBlanks
    if (← peek) == some '~' then
      let _ ← next
      return some (.stepped n (← number))
    return some (.number n)
  | none => return none
where
  /-- Takes an address with a sign in front. -/
  signed (make : Nat → Address) : Reading (Option Address) := do
    let _ ← next
    return some (make (← number))
  /-- Takes the flags behind an expression: that the case of letters does not matter, and that
  anchors match at line ends. -/
  flags : Nat → Bool × Bool → Reading (Bool × Bool)
    | 0, found => return found
    | n + 1, found => do
      match ← peek with
      | some 'I' =>
        let _ ← next
        flags n (true, found.2)
      | some 'M' =>
        let _ ← next
        flags n (found.1, true)
      | _ => return found
  /-- Takes an expression between delimiters. -/
  matching : Reading (Option Address) := do
    let first ← next
    let delimiter ← if first == some '\\' then next else pure first
    match delimiter with
    | none => refuse "unterminated address regex"
    | some delimiter =>
      match ← delimited delimiter true ((← get).rest.length + 1) with
      | none => refuse "unterminated address regex"
      | some text =>
        let (ignoresCase, hasLines) ← flags text.length (false, false)
        return some (.matching (← pattern isExtended hasLines ignoresCase text))

/-- Takes the addresses of a command and what negates them. -/
def selector (isExtended : Bool) : Reading Selector := do
  let first ← address? isExtended
  match first with
  | some (.count _) => refuse "invalid usage of +N or ~N as first address"
  | some (.multiple _) => refuse "invalid usage of +N or ~N as first address"
  | _ => pure ()
  let mut last : Option Address := none
  if first.isSome then
    skipBlanks
    if (← peek) == some ',' then
      let _ ← next
      skipBlanks
      last ← address? isExtended
      if last.isNone then
        let _ ← next
        refuse "unexpected `,'"
  skipBlanks
  let mut isNegated := false
  if (← peek) == some '!' then
    let _ ← next
    isNegated := true
    skipBlanks
    if (← peek) == some '!' then
      let _ ← next
      refuse "multiple `!'s"
  let isZero :=
    match first, last with
    | some (.number 0), some (.matching _) => false
    | some (.number 0), _ => true
    | _, _ => false
  if isZero then
    let _ ← next
    refuse "invalid usage of line address 0"
  return ⟨first, last, isNegated⟩

/-! ## Substitutions -/

/-- The number at the start of a text in a base, behind a letter that names the base. -/
def codeAtStart? (cs : List Char) : Option (Char × List Char) :=
  match cs with
  | 'd' :: cs => Escape.number 10 3 cs
  | 'o' :: cs => Escape.number 8 3 cs
  | 'x' :: cs => Escape.number 16 2 cs
  | 'c' :: c :: cs => some (Char.ofNat (c.toUpper.toNat ^^^ 64), cs)
  | _ => none

/-- The parts of a replacement. -/
def replacement : Nat → List Char → List Part
  | 0, _ => []
  | _, [] => []
  | n + 1, '&' :: cs => .group 0 :: replacement n cs
  | n + 1, '\\' :: c :: cs =>
    if c.isDigit then .group (c.toNat - '0'.toNat) :: replacement n cs
    else if "LUluE".toList.contains c then .letters c :: replacement n cs
    else
      match Regex.escapedLetter? c, codeAtStart? (c :: cs) with
      | some d, _ => push d (replacement n cs)
      | none, some (d, rest) => push d (replacement n rest)
      | none, none => push c (replacement n cs)
  | n + 1, c :: cs => push c (replacement n cs)
where
  /-- Parts with a character in front. -/
  push (c : Char) (parts : List Part) : List Part :=
    match parts with
    | .text text :: rest => .text (String.ofList [c] ++ text) :: rest
    | parts => .text (String.ofList [c]) :: parts

/-- Takes the name of a file: all that is left of the line. -/
def fileName : Reading String := do
  skipBlanks
  let name ← takeWhile (· != '\n')
  if name.isEmpty then refuse "missing filename in r/R/w/W commands"
  return String.ofList name

/-- The flags behind a substitution. -/
structure Flags where
  isGlobal : Bool
  prints : Bool
  number : Option Nat
  ignoresCase : Bool
  hasLines : Bool
  file : Option String

/-- Takes the flags behind a substitution. -/
def flags : Nat → Flags → Reading Flags
  | 0, found => return found
  | n + 1, found => do
    match ← peek with
    | none => return found
    | some '}' => return found
    | some '#' => return found
    | some c =>
      if c.isDigit then
        if found.number.isSome then
          let _ ← next
          refuse "multiple number options to `s' command"
        let first ← number
        if first == 0 then refuse "number option to `s' command may not be zero"
        return ← flags n { found with number := some first }
      let _ ← next
      match c with
      | '\n' => return found
      | ';' => return found
      | ' ' => flags n found
      | 'g' =>
        if found.isGlobal then refuse "multiple `g' options to `s' command"
        flags n { found with isGlobal := true }
      | 'p' =>
        if found.prints then refuse "multiple `p' options to `s' command"
        flags n { found with prints := true }
      | 'i' => flags n { found with ignoresCase := true }
      | 'I' => flags n { found with ignoresCase := true }
      | 'm' => flags n { found with hasLines := true }
      | 'M' => flags n { found with hasLines := true }
      | 'e' => flags n found
      | 'w' => return { found with file := some (← fileName) }
      | _ => refuse "unknown option to `s'"

/-- Takes a substitution behind its letter. -/
def substitution (isExtended : Bool) : Reading Action := do
  let unfinished {α : Type} : Reading α := refuse "unterminated `s' command"
  match ← next with
  | none => unfinished
  | some delimiter =>
    if delimiter == '\n' || delimiter == '\\' then unfinished
    let room := (← get).rest.length + 1
    match ← delimited delimiter true room with
    | none => unfinished
    | some text =>
      match ← delimited delimiter false room with
      | none => unfinished
      | some written =>
        let found ← flags room ⟨false, false, none, false, false, none⟩
        let pattern ← pattern isExtended found.hasLines found.ignoresCase text
        let parts := replacement (written.length + 1) written
        let groups := (pattern.map fun p => p.1.groupCount).getD 9
        let greatest := parts.foldl
          (fun greatest part =>
            match part with
            | .group n => max greatest n
            | _ => greatest) 0
        if greatest > groups then
          refuse ("invalid reference \\" ++ toString greatest ++ " on `s' command's RHS")
        return .substitute
          { pattern
            replacement := parts
            first := found.number.getD 1
            isGlobal := found.isGlobal
            prints := found.prints
            file := found.file }

/-- The characters of a list of `y`, without its backslashes. -/
def listed : List Char → List Char
  | '\\' :: '\\' :: cs => '\\' :: listed cs
  | '\\' :: c :: cs => (Regex.escapedLetter? c).getD c :: listed cs
  | c :: cs => c :: listed cs
  | [] => []

/-- Takes two lists of characters behind the letter of their command. -/
def translation : Reading Action := do
  let unfinished {α : Type} : Reading α := refuse "unterminated `y' command"
  match ← next with
  | none => unfinished
  | some delimiter =>
    let room := (← get).rest.length + 1
    match ← delimited delimiter false room with
    | none => unfinished
    | some first =>
      match ← delimited delimiter false room with
      | none => unfinished
      | some second =>
        let (first, second) := (listed first, listed second)
        if first.length != second.length then
          refuse "strings for `y' command are different lengths"
        endCommand
        return .translate (first.zip second)

/-! ## Commands -/

/-- The lines of a text argument; a backslash keeps the line end or the character behind it. -/
def textLines : Nat → Reading (List Char)
  | 0 => return []
  | n + 1 => do
    match ← next with
    | none => return []
    | some '\n' => return []
    | some '\\' =>
      match ← next with
      | none => return []
      | some c =>
        let reader ← get
        match Regex.escapedLetter? c, codeAtStart? (c :: reader.rest) with
        | some d, _ => return d :: (← textLines n)
        | none, some (d, rest) =>
          set { reader with
            rest, position := reader.position + (reader.rest.length - rest.length) }
          return d :: (← textLines n)
        | none, none => return c :: (← textLines n)
    | some c => return c :: (← textLines n)

/-- Takes the text of a command that prints one. -/
def text : Reading String := do
  let missing {α : Type} : Reading α := refuse "expected \\ after `a', `c' or `i'"
  skipBlanks
  let room := (← get).rest.length + 1
  match (← get).rest with
  | [] => missing
  | '\n' :: _ =>
    let _ ← next
    missing
  | '\\' :: rest =>
    let _ ← next
    if (rest.dropWhile isBlank).head? == some '\n' then
      skipBlanks
      let _ ← next
      closed (← textLines room)
    else if rest.isEmpty then return ""
    else closed (← textLines room)
  | _ => closed (← textLines room)
where
  /-- A text with its line end. -/
  closed (cs : List Char) : Reading String := return String.ofList cs ++ "\n"

/-- Takes a label; `ends` are further characters that end it. -/
def label (ends : List Char) : Reading String := do
  skipBlanks
  let name ← takeWhile fun c => c != ';' && !isSpace c && !ends.contains c
  return String.ofList name

/-- Takes the number behind a command, if there is one. -/
def argument? : Reading (Option Nat) := do
  skipBlanks
  if (← peek).any Char.isDigit then return some (← number)
  return none

/-- What a command does behind its selector; `index` is its place in the script. -/
def action (isExtended : Bool) (selector : Selector) (index : Nat) : Reading Action := do
  let plain (action : Action) : Reading Action := do
    endCommand
    return action
  let single (action : Action) : Reading Action := do
    if selector.last.isSome then refuse "command only uses one address"
    return action
  match ← next with
  | none => refuse "missing command"
  | some '#' =>
    if selector.first.isSome then refuse "comments don't accept any addresses"
    let _ ← takeWhile (· != '\n')
    return .nothing
  | some '\x7b' =>
    modify fun r => { r with blocks := index :: r.blocks }
    return .block 0
  | some '\x7d' =>
    if (← get).blocks.isEmpty then refuse "unexpected `\x7d'"
    if selector.first.isSome then refuse "`\x7d' doesn't want any addresses"
    modify fun r => { r with blocks := r.blocks.drop 1 }
    plain .blockEnd
  | some ':' =>
    if selector.first.isSome then refuse ": doesn't want any addresses"
    let name ← label []
    if name.isEmpty then refuse "\":\" lacks a label"
    return .label name
  | some 'a' => return .append (← text)
  | some 'i' => return .insert (← text)
  | some 'c' => return .change (← text)
  | some 'b' => return .jump .always (← label ['\x7d'])
  | some 't' => return .jump .ifReplaced (← label ['\x7d'])
  | some 'T' => return .jump .unlessReplaced (← label ['\x7d'])
  | some 'd' => plain .delete
  | some 'D' => plain .deleteLine
  | some '=' => plain .lineNumber
  | some 'F' => plain .fileName
  | some 'h' => plain (.hold false)
  | some 'H' => plain (.hold true)
  | some 'g' => plain (.get false)
  | some 'G' => plain (.get true)
  | some 'x' => plain .exchange
  | some 'l' =>
    let width ← argument?
    plain (.list width)
  | some 'n' => plain (.next false)
  | some 'N' => plain (.next true)
  | some 'p' => plain .print
  | some 'P' => plain .printLine
  | some 'q' => do
    let _ ← single .nothing
    let code ← argument?
    plain (.quit true (code.getD 0))
  | some 'Q' => do
    let _ ← single .nothing
    let code ← argument?
    plain (.quit false (code.getD 0))
  | some 'r' => return .readFile (← fileName)
  | some 'R' => return .readLine (← fileName)
  | some 's' => substitution isExtended
  | some 'v' => do
    skipBlanks
    let _ ← takeWhile fun c => c != ';' && c != '\n'
    plain .nothing
  | some 'w' => return .write (← fileName) false
  | some 'W' => return .write (← fileName) true
  | some 'y' => translation
  | some 'z' => plain .clear
  | some c => refuse ("unknown command: `" ++ String.ofList [c] ++ "'")

/-- The place of the end of each block: the commands with these filled in. -/
def closeBlocks (commands : Array Command) : Array Command :=
  let (commands, _) := (List.range commands.size).foldl
    (fun (state : Array Command × List Nat) i =>
      let (commands, opened) := state
      match (commands[i]?).map Command.action, opened with
      | some (.block _), opened => (commands, i :: opened)
      | some .blockEnd, start :: opened =>
        (commands.modify start fun c => { c with action := .block i }, opened)
      | _, opened => (commands, opened)) (commands, [])
  commands

/-- Takes commands up to the end of the script. -/
def commands (isExtended : Bool) : Nat → (index : Nat) → Reading (List Command)
  | 0, _ => return []
  | n + 1, index => do
    let _ ← takeWhile fun c => isSpace c || c == ';'
    if (← peek).isNone then
      unless (← get).blocks.isEmpty do throw ⟨"unmatched `\x7b'", 0⟩
      return []
    let selector ← selector isExtended
    let action ← action isExtended selector index
    return ⟨selector, action⟩ :: (← commands isExtended n (index + 1))

/-- The script that a text is. -/
def parse (isExtended : Bool) (text : String) : Except Refusal (Array Command) := do
  let (commands, _) ← (commands isExtended (text.length + 1) 0).run ⟨text.toList, 0, []⟩
  return closeBlocks commands.toArray

/-- A label that a script jumps to, but does not hold, if there is one. -/
def missingLabel? (commands : Array Command) : Option String :=
  let labels := commands.toList.filterMap fun c =>
    match c.action with
    | .label name => some name
    | _ => none
  commands.toList.findSome? fun c =>
    match c.action with
    | .jump _ name => if name.isEmpty || labels.contains name then none else some name
    | _ => none

end PointerTagging.Host.Sed
